import TagAudit.Proofs.Rules.Isolation

namespace TagAudit

/-- A test that gives the same answer for all that comes from one key can be made of the keys. -/
theorem filter_flatMap_of_key {α κ : Type} {f : κ → List α} {test : α → Bool} {keep : κ → Bool}
    (uniform : ∀ k, ∀ a ∈ f k, test a = keep k) (keys : List κ) :
    (keys.flatMap f).filter test = (keys.filter keep).flatMap f := by
  induction keys with
  | nil => rfl
  | cons k rest ih =>
    rw [List.flatMap_cons, List.filter_append, ih]
    cases kept : keep k with
    | true =>
      have all : (f k).filter test = f k :=
        List.filter_eq_self.mpr fun a member => (uniform k a member).trans kept
      rw [all, List.filter_cons_of_pos kept, List.flatMap_cons]
    | false =>
      have nothing : (f k).filter test = [] := by
        refine List.filter_eq_nil_iff.mpr fun a member => ?_
        simp [uniform k a member, kept]
      rw [nothing, List.filter_cons_of_neg (by simp [kept]), List.nil_append]

theorem Issue.check_toJson {i : Issue} (keeps : i.keepsFields = true) :
    i.toJson.field "check" = .str i.check := by
  rw [toJson, Json.field, Json.lookup_assignAll (lookup_extra keeps (by decide))]
  rfl

theorem Suggestion.check_toJson (s : Suggestion) : s.toJson.field "check" = .str s.check := rfl

namespace Check

variable {check : String} {s : Subject}

/-- What a check finds; nothing where it fails. -/
def findings (check : String) (s : Subject) : Findings := ((run check s).after .none).2

theorem findings_ofCheck : (findings check s).OfCheck check := by
  rcases run_atomic check s with ⟨f, ofCheck, run⟩ | ⟨fault, run⟩
  · rw [findings, run]
    exact Findings.OfCheck.empty.append ofCheck
  · rw [findings, run]
    exact .empty

/-- No check reads what others have found. -/
theorem run_after (found : Findings) : ((run check s).after found).2 = found ++ findings check s := by
  rcases run_atomic check s with ⟨f, _, run⟩ | ⟨fault, run⟩
  · rw [findings, run, run]
    rfl
  · rw [findings, run, run, Findings.append_none]

end Check

namespace RulesEngine

theorem foldl_runCheck_findings (checks : List String) (e : RulesEngine) :
    (checks.foldl runCheck e).found =
      e.found ++ ⟨checks.flatMap fun check => (Check.findings check e.subject).issues,
        checks.flatMap fun check => (Check.findings check e.subject).suggestions⟩ := by
  induction checks generalizing e with
  | nil => rw [List.foldl_nil]; exact e.found.append_none.symm
  | cons check rest ih =>
    have first : (e.runCheck check).found = e.found ++ Check.findings check e.subject :=
      Check.run_after e.found
    rw [List.foldl_cons, ih, first, Findings.append_assoc]
    rfl

/-- The enabled checks of a configuration. -/
def enabled (names : List String) : List String := Check.all.filter fun check => !names.contains check

theorem runAll_found (c : Container) (limit : Limit → Json) (names : List String) :
    (start c ⟨names.map .str, limit⟩).runAll.found =
      ⟨(enabled names).flatMap fun check => (Check.findings check ⟨c, ⟨[], limit⟩⟩).issues,
        (enabled names).flatMap fun check => (Check.findings check ⟨c, ⟨[], limit⟩⟩).suggestions⟩ := by
  have same : (Check.all.filter fun check =>
      (RulesConfig.mk (names.map .str) limit).isEnabled (.str check)) = enabled names := by
    refine List.filter_congr fun check _ => ?_
    rw [Bool.eq_iff_iff, RulesConfig.isEnabled_iff]
    simp
  rw [runAll, foldl_runCheck_findings]
  simp only [start, same]
  -- No check reads which checks are disabled.
  rfl

end RulesEngine

namespace Container

open RulesEngine

/-- Disabling some checks takes their findings out of the report of a run in which no check is
disabled, and leaves the other findings, their order, and what is said about the container itself. -/
theorem analyze_disabled (c : Container) (limit : Limit → Json) (names : List String) :
    let full := c.analyze ⟨[], limit⟩
    let part := c.analyze ⟨names.map .str, limit⟩
    part.found.issues = full.found.issues.filter (fun i => !(i.toJson.field "check").isOneOf names) ∧
      part.found.suggestions =
        full.found.suggestions.filter (fun s => !(s.toJson.field "check").isOneOf names) ∧
      part.practices = full.practices ∧ part.scores.readiness = full.scores.readiness := by
  intro full part
  have allFound : full.found = _ := runAll_found c limit []
  have partFound : part.found = _ := runAll_found c limit names
  have fewer : enabled names = (enabled []).filter fun check => !names.contains check := by
    simp [enabled]
  have sameContainer : (start c ⟨names.map .str, limit⟩).runAll.subject.container =
      (start c ⟨[], limit⟩).runAll.subject.container :=
    (runAll_container (start c ⟨names.map .str, limit⟩)).trans
      (runAll_container (start c ⟨[], limit⟩)).symm
  refine ⟨?_, ?_, ?_, ?_⟩
  · rw [allFound, partFound, fewer]
    refine (filter_flatMap_of_key (fun check i member => ?_) _).symm
    have ofCheck : (Check.findings check ⟨c, ⟨[], limit⟩⟩).OfCheck check := Check.findings_ofCheck
    rw [Issue.check_toJson (ofCheck.issue_keepsFields i member), ofCheck.issue_check i member]
    rfl
  · rw [allFound, partFound, fewer]
    refine (filter_flatMap_of_key (fun check s member => ?_) _).symm
    have ofCheck : (Check.findings check ⟨c, ⟨[], limit⟩⟩).OfCheck check := Check.findings_ofCheck
    rw [Suggestion.check_toJson, ofCheck.suggestion_check s member]
    rfl
  · simp only [full, part, analyze, report, sameContainer]
  · simp only [full, part, analyze, report, scores, sameContainer]

end Container

end TagAudit

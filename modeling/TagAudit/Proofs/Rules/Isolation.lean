import TagAudit.Proofs.Rules.Atomicity
import TagAudit.Rules.Engine

namespace TagAudit

namespace Check

variable {check : String} {s : Subject}

/-- Whether a check meets a value that it cannot use. -/
def fails (check : String) (s : Subject) : Bool := !((run check s).after .none).1.isOk

/-- Whether a check fails does not depend on what the checks before it have found. -/
theorem refuses_of_fails (failing : fails check s = true) : (run check s).Refuses := by
  rcases run_atomic check s with ⟨f, _, run⟩ | refuses
  · simp [fails, run, Except.isOk, Except.toBool] at failing
  · exact refuses

/-- The checks that fail. -/
def failing (s : Subject) : List String := all.filter (fails · s)

end Check

namespace RulesEngine

theorem runCheck_of_fails {e : RulesEngine} {check : String}
    (failing : Check.fails check e.subject = true) : e.runCheck check = e := by
  obtain ⟨fault, run⟩ := Check.refuses_of_fails failing
  rw [runCheck, run]

/-- Checks that fail might as well not be run. -/
theorem foldl_runCheck_filter (checks : List String) (e : RulesEngine) :
    (checks.filter fun check => !Check.fails check e.subject).foldl runCheck e =
      checks.foldl runCheck e := by
  induction checks generalizing e with
  | nil => rfl
  | cons check rest ih =>
    rw [List.foldl_cons]
    cases failing : Check.fails check e.subject with
    | true =>
      rw [List.filter_cons_of_neg (by simp [failing]), ih, runCheck_of_fails failing]
    | false =>
      rw [List.filter_cons_of_pos (by simp [failing]), List.foldl_cons]
      exact ih (e.runCheck check)

/-- What checks find depends on the container and the limits, and not on which checks are disabled. -/
theorem foldl_runCheck_found (checks : List String) (c : Container) (config : RulesConfig)
    (names : List Scalar) (found : Findings) :
    (checks.foldl runCheck ⟨⟨c, config.disable names⟩, found⟩).found =
      (checks.foldl runCheck ⟨⟨c, config⟩, found⟩).found := by
  induction checks generalizing found with
  | nil => rfl
  | cons check rest ih => exact ih _

theorem enabled_without_failing (s : Subject) :
    (Check.all.filter fun check =>
        (s.config.disable ((Check.failing s).map .str)).isEnabled (.str check)) =
      (Check.all.filter fun check => s.config.isEnabled (.str check)).filter fun check =>
        !Check.fails check s := by
  rw [List.filter_filter]
  refine List.filter_congr fun check member => ?_
  rw [Bool.eq_iff_iff, RulesConfig.isEnabled_disable, Bool.and_eq_true, Bool.not_eq_true',
    ← Bool.not_eq_true, and_comm]
  simp [Check.failing, member]

theorem runCheck_keepsFields {e : RulesEngine} (keeps : ∀ i ∈ e.found.issues, i.keepsFields = true)
    (check : String) : ∀ i ∈ (e.runCheck check).found.issues, i.keepsFields = true := by
  unfold runCheck
  rcases Check.run_atomic check e.subject with ⟨f, ofCheck, run⟩ | ⟨fault, run⟩
  · rw [run]
    intro i member
    rcases List.mem_append.mp member with old | new
    · exact keeps i old
    · exact ofCheck.issue_keepsFields i new
  · rw [run]
    exact keeps

theorem runAll_keepsFields (e : RulesEngine) : ∀ i ∈ e.runAll.found.issues, i.keepsFields = true := by
  refine List.foldlRecOn (motive := fun e : RulesEngine => ∀ i ∈ e.found.issues, i.keepsFields = true) _ _ ?_ ?_
  · simp [Findings.none]
  · exact fun e keeps check _ => runCheck_keepsFields keeps check

/-- The severity that an issue has in a report is its own. -/
theorem runAll_scored (e : RulesEngine) : ∀ i ∈ e.runAll.found.issues, Json.lookup i.extra "severity" = none :=
  fun i member => Issue.lookup_extra (runAll_keepsFields e i member) (by decide)

theorem severity_toJson {i : Issue} (scored : Json.lookup i.extra "severity" = none) :
    (do (← i.toJson.getField "severity").scalar) = .ok (.str i.severity) := by
  rw [Issue.toJson, Json.getField, Json.lookup_assignAll scored]
  rfl

theorem severities_toJson {issues : List Issue}
    (scored : ∀ i ∈ issues, Json.lookup i.extra "severity" = none) :
    (issues.map Issue.toJson).mapM (fun issue => do (← issue.getField "severity").scalar) =
      .ok (issues.map fun i => Scalar.str i.severity) := by
  induction issues with
  | nil => rfl
  | cons i rest ih =>
    rw [List.map_cons, List.mapM_cons, severity_toJson (scored i List.mem_cons_self),
      ih fun j member => scored j (List.mem_cons_of_mem i member)]
    rfl

theorem denominator_of_pos {total : Nat} (positive : 0 < total) :
    Score.denominator (.int total) = .ok (Float.ofInt total) := by
  have holds : (Json.int total).holds = true := by simp [Json.holds]; omega
  have above : Number.le (.int total) (.int 0) = false := by
    have order : compare (total : Int) 0 = .gt := Int.compare_eq_gt.mpr (by omega)
    simp [Number.le, Number.order?, order]
  simp [Score.denominator, holds, Number.ofJson?, above]

/-- Scoring takes issues of any form and refuses those whose severity is no key. -/
theorem ofIssues_scored {issues : List Issue} {total : Nat} (positive : 0 < total)
    (scored : ∀ i ∈ issues, Json.lookup i.extra "severity" = none) :
    Score.ofIssues (.arr (issues.map Issue.toJson)) (.int total) = .ok (scoreOf issues total) := by
  have severities := severities_toJson scored
  rw [Score.ofIssues, denominator_of_pos positive, Json.elements]
  dsimp only [bind, Except.bind] at severities ⊢
  rw [severities]
  rfl

end RulesEngine

namespace RulesEngine

theorem runAll_container (e : RulesEngine) : e.runAll.subject.container = e.subject.container :=
  List.foldlRecOn (motive := fun f : RulesEngine => f.subject.container = e.subject.container) _ _ rfl
    fun _ same _ _ => same

/-- A report says what has been found and grades the container, whatever the limits are. -/
theorem report_congr {e f : RulesEngine} (found : e.found = f.found)
    (container : e.subject.container = f.subject.container) : e.report = f.report := by
  simp only [report, scores, found, container]

theorem runAll_found_without_failing (c : Container) (config : RulesConfig) :
    (start c (config.disable ((Check.failing ⟨c, config⟩).map .str))).runAll.found =
      (start c config).runAll.found := by
  let names := (Check.failing ⟨c, config⟩).map Scalar.str
  let enabled := Check.all.filter fun check => config.isEnabled (.str check)
  calc (start c (config.disable names)).runAll.found
    _ = ((Check.all.filter fun check => (config.disable names).isEnabled (.str check)).foldl runCheck
          ⟨⟨c, config⟩, .none⟩).found := foldl_runCheck_found _ c config names .none
    _ = ((enabled.filter fun check => !Check.fails check ⟨c, config⟩).foldl runCheck
          ⟨⟨c, config⟩, .none⟩).found := by rw [enabled_without_failing ⟨c, config⟩]
    _ = (start c config).runAll.found := by rw [foldl_runCheck_filter enabled ⟨⟨c, config⟩, .none⟩]; rfl

end RulesEngine

namespace Container

/-- Checks are isolated: a check that meets a value it cannot use leaves what has been found before as
it is, and the report is the one of a run without such checks. Its issues are fit to be scored. -/
theorem analyze_isolates (c : Container) (config : RulesConfig) :
    (∀ check found fault, ((Check.run check ⟨c, config⟩).after found).1 = .error fault →
      (RulesEngine.mk ⟨c, config⟩ found).runCheck check = ⟨⟨c, config⟩, found⟩) ∧
    (∀ check found,
      ((Check.run check ⟨c, config⟩).after found).1.isOk = !Check.fails check ⟨c, config⟩) ∧
    c.analyze (config.disable ((Check.failing ⟨c, config⟩).map .str)) = c.analyze config ∧
    ∀ (select : Issue → Bool) (total : Nat), 0 < total →
      let issues := (c.analyze config).found.issues.filter select
      Score.ofIssues (.arr (issues.map Issue.toJson)) (.int total) =
        .ok (RulesEngine.scoreOf issues total) := by
  refine ⟨fun check found fault raised => ?_, fun check found => ?_, ?_, fun select total positive => ?_⟩
  · rcases Check.run_atomic check ⟨c, config⟩ with ⟨f, _, run⟩ | ⟨other, run⟩
    · rw [run] at raised
      cases raised
    · rw [RulesEngine.runCheck, run]
  · rw [Check.fails, Bool.not_not]
    rcases Check.run_atomic check ⟨c, config⟩ with ⟨f, _, run⟩ | ⟨fault, run⟩
    · rw [run, run]
    · rw [run, run]
  · refine RulesEngine.report_congr (RulesEngine.runAll_found_without_failing c config) ?_
    rw [RulesEngine.runAll_container, RulesEngine.runAll_container]
    rfl
  · exact RulesEngine.ofIssues_scored positive fun i member =>
      RulesEngine.runAll_scored (.start c config) i (List.mem_filter.mp member).1

/-- A tag that is fired by nothing and whose type is a list. -/
def untypedTag : Container where
  document := [("containerVersion", .obj [("tag", .arr [.obj [("name", "T"), ("type", .arr [])]])])]
  version := [("tag", .arr [.obj [("name", "T"), ("type", .arr [])]])]
  includePaused := false
  source := none
  version_eq := rfl

theorem untypedTag_isolated :
    let s : Subject := ⟨untypedTag, .default⟩
    let found := ((RulesEngine.start untypedTag .default).runCheck "unused_tags").found
    let cleanup := (untypedTag.analyze .default).found.issues.filter (·.category == "cleanup")
    found.issues.map Issue.message = ["Tag \"T\" is not fired by any trigger."] ∧
      (RulesEngine.mk s found).runCheck "deprecated_features" = ⟨s, found⟩ ∧
      ((Check.run "deprecated_features" s).after found).1.isOk = false ∧
      untypedTag.analyze (RulesConfig.default.disable ((Check.failing s).map .str)) =
        untypedTag.analyze .default ∧
      Score.ofIssues (.arr (cleanup.map Issue.toJson)) (.int 20) =
        .ok (RulesEngine.scoreOf cleanup 20) := by
  obtain ⟨untouched, raises, same, scored⟩ := analyze_isolates untypedTag .default
  refine ⟨rfl, untouched _ _ .notKey rfl, ?_, same, scored _ 20 (by decide)⟩
  exact (raises _ _).trans rfl

end Container

end TagAudit

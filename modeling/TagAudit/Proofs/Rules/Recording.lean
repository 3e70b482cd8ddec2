import TagAudit.Rules.Recording

namespace TagAudit

/-- The fields that some issues have beyond those of all issues. -/
def Issue.furtherFields : List String := ["entities", "signature", "details"]

/-- An issue whose further fields take the place of none that all issues have. -/
def Issue.keepsFields (i : Issue) : Bool := i.extra.all fun field => furtherFields.contains field.1

theorem Issue.lookup_extra {i : Issue} (keeps : i.keepsFields = true) {key : String}
    (common : key ∉ furtherFields) : Json.lookup i.extra key = none := by
  unfold keepsFields at keeps
  generalize i.extra = extra at keeps
  induction extra with
  | nil => rfl
  | cons field rest ih =>
    rw [List.all_cons, Bool.and_eq_true, List.contains_iff_mem] at keeps
    have other : field.1 ≠ key := fun same => common (same ▸ keeps.1)
    rw [Json.lookup, if_neg other]
    exact ih keeps.2

/-- Findings of one check. Their fields are read in a report as they were written down. -/
structure Findings.OfCheck (check : String) (f : Findings) : Prop where
  issue_check : ∀ i ∈ f.issues, i.check = check
  issue_keepsFields : ∀ i ∈ f.issues, i.keepsFields = true
  suggestion_check : ∀ s ∈ f.suggestions, s.check = check

namespace Findings.OfCheck

variable {check : String} {f g : Findings}

theorem empty : Findings.none.OfCheck check where
  issue_check := by simp [Findings.none]
  issue_keepsFields := by simp [Findings.none]
  suggestion_check := by simp [Findings.none]

theorem append (first : f.OfCheck check) (second : g.OfCheck check) : (f ++ g).OfCheck check where
  issue_check i member :=
    (List.mem_append.mp member).elim (first.issue_check i) (second.issue_check i)
  issue_keepsFields i member :=
    (List.mem_append.mp member).elim (first.issue_keepsFields i) (second.issue_keepsFields i)
  suggestion_check s member :=
    (List.mem_append.mp member).elim (first.suggestion_check s) (second.suggestion_check s)

end Findings.OfCheck

namespace Recording

variable {α β : Type} {check : String} {p q : Recording Unit} {found middle : Findings}

theorem after_bind_ok {p : Recording α} {k : α → Recording β} {a : α}
    (run : p.after found = (.ok a, middle)) : (p >>= k).after found = (k a).after middle := by
  simp only [after, ExceptT.run_bind, StateT.run_bind] at run ⊢
  rw [Id.run_bind, run]

theorem after_bind_error {p : Recording α} {k : α → Recording β} {fault : Fault}
    (run : p.after found = (.error fault, middle)) :
    (p >>= k).after found = (.error fault, middle) := by
  simp only [after, ExceptT.run_bind, StateT.run_bind] at run ⊢
  rw [Id.run_bind, run]
  rfl

/-- A run that ends well and adds the same findings to whatever has been found before. -/
def Completes (check : String) (p : Recording Unit) : Prop :=
  ∃ f : Findings, f.OfCheck check ∧ ∀ found, p.after found = (.ok (), found ++ f)

/-- A run that meets a value it cannot use before it has written anything down. -/
def Refuses (p : Recording Unit) : Prop := ∃ fault, ∀ found, p.after found = (.error fault, found)

/-- A run that either adds all of its findings or leaves no trace. -/
def Atomic (check : String) (p : Recording Unit) : Prop := p.Completes check ∨ p.Refuses

theorem completes_pure : Completes check (pure ()) :=
  ⟨.none, .empty, fun found => by rw [Findings.append_none]; rfl⟩

theorem completes_addIssue {i : Issue} (ofCheck : i.check = check)
    (keeps : i.keepsFields = true) : Completes check (addIssue i) := by
  refine ⟨.ofIssues [i], ⟨?_, ?_, by simp [Findings.ofIssues]⟩, fun found => rfl⟩
  · simpa [Findings.ofIssues] using ofCheck
  · simpa [Findings.ofIssues] using keeps

theorem completes_addSuggestion {s : Suggestion} (ofCheck : s.check = check) :
    Completes check (addSuggestion s) := by
  refine ⟨.ofSuggestions [s], ⟨by simp [Findings.ofSuggestions], by simp [Findings.ofSuggestions], ?_⟩,
    fun found => rfl⟩
  simpa [Findings.ofSuggestions] using ofCheck

theorem Completes.bind (first : p.Completes check) {k : Unit → Recording Unit}
    (second : (k ()).Completes check) : (p >>= k).Completes check := by
  obtain ⟨f, ofFirst, runFirst⟩ := first
  obtain ⟨g, ofSecond, runSecond⟩ := second
  refine ⟨f ++ g, ofFirst.append ofSecond, fun found => ?_⟩
  rw [after_bind_ok (runFirst found), runSecond, Findings.append_assoc]

theorem completes_forM {xs : List α} {k : α → Recording Unit}
    (each : ∀ x ∈ xs, (k x).Completes check) : (xs.forM k).Completes check := by
  induction xs with
  | nil => exact completes_pure
  | cons x rest ih =>
    exact (each x List.mem_cons_self).bind (ih fun y member => each y (List.mem_cons_of_mem _ member))

/-- What may fail comes first: behind it nothing fails any more. -/
theorem Atomic.bind (first : p.Atomic check) {k : Unit → Recording Unit}
    (second : (k ()).Completes check) : (p >>= k).Atomic check := by
  rcases first with completes | ⟨fault, run⟩
  · exact Or.inl (completes.bind second)
  · exact Or.inr ⟨fault, fun found => after_bind_error (run found)⟩

theorem Refuses.bind (refuses : p.Refuses) (k : Unit → Recording Unit) : (p >>= k).Refuses := by
  obtain ⟨fault, run⟩ := refuses
  exact ⟨fault, fun found => after_bind_error (run found)⟩

theorem refuses_ofExcept_bind {fault : Fault} (k : α → Recording Unit) :
    (ofExcept (.error fault) >>= k).Refuses := ⟨fault, fun _ => rfl⟩

theorem completes_ofExcept_bind {r : Except Fault α} {a : α} {k : α → Recording Unit}
    (usable : r = .ok a) (rest : (k a).Completes check) : (ofExcept r >>= k).Completes check := by
  subst usable
  exact rest

theorem atomic_ofExcept_bind {r : Except Fault α} {k : α → Recording Unit}
    (rest : ∀ a, r = .ok a → (k a).Atomic check) : (ofExcept r >>= k).Atomic check := by
  cases r with
  | error fault => exact Or.inr (refuses_ofExcept_bind k)
  | ok a => exact rest a rfl

/-- Programs that run one after the other, of which only the first one may fail. -/
structure Guarded (check : String) (programs : List (Recording Unit)) : Prop where
  first : ∀ p ∈ programs.head?, p.Atomic check
  later : ∀ p ∈ programs.tail, p.Completes check

theorem Guarded.forM_atomic {programs : List (Recording Unit)} (guarded : Guarded check programs) :
    (programs.forM id).Atomic check := by
  cases programs with
  | nil => exact Or.inl completes_pure
  | cons p rest => exact (guarded.first p rfl).bind (completes_forM guarded.later)

theorem Guarded.concat {programs : List (Recording Unit)} (guarded : Guarded check programs)
    (last : p.Completes check) : Guarded check (programs ++ [p]) := by
  cases programs with
  | nil =>
    have atomic : p.Atomic check := Or.inl last
    exact ⟨by simpa using atomic, by simp⟩
  | cons q rest =>
    refine ⟨by simpa using guarded.first, fun r member => ?_⟩
    rcases List.mem_append.mp member with old | new
    · exact guarded.later r old
    · exact List.mem_singleton.mp new ▸ last

theorem guarded_singleton (atomic : p.Atomic check) : Guarded check [p] :=
  ⟨by simpa using atomic, by simp⟩

/-- Rules that are run by their checks: of those of one check only the first one may fail. -/
theorem guarded_rules {rules : List α} {key : α → String} {run : α → Recording Unit}
    (atomic : ∀ r ∈ rules, (run r).Atomic (key r))
    (later : rules.Pairwise fun a b => key a = key b → (run b).Completes (key b)) (check : String) :
    Guarded check ((rules.filter (key · == check)).map run) := by
  have repeated := later.filter (key · == check)
  have found : ∀ r ∈ rules.filter (key · == check), r ∈ rules ∧ key r = check := fun r member =>
    ⟨(List.mem_filter.mp member).1, eq_of_beq (List.mem_filter.mp member).2⟩
  cases rows : rules.filter (key · == check) with
  | nil => exact ⟨by simp, by simp⟩
  | cons r rest =>
    rw [rows] at repeated found
    obtain ⟨known, ofCheck⟩ := found r List.mem_cons_self
    refine ⟨?_, fun p member => ?_⟩
    · simpa [ofCheck] using atomic r known
    · obtain ⟨behind, isBehind, rfl⟩ := List.mem_map.mp member
      have same := (found behind (List.mem_cons_of_mem _ isBehind)).2
      exact same ▸ (List.pairwise_cons.mp repeated).1 behind isBehind (ofCheck.trans same.symm)

end Recording

end TagAudit

import TagAudit.Proofs.Rules.Atomicity

namespace TagAudit

namespace Recording

variable {α : Type} {p : Recording Unit} {f g : Findings}

/-- A run that adds these findings to whatever has been found before. -/
def Adds (p : Recording Unit) (f : Findings) : Prop := ∀ found, p.after found = (.ok (), found ++ f)

theorem adds_pure : Adds (pure ()) .none := fun found => by
  rw [Findings.append_none]
  rfl

theorem adds_addIssue (i : Issue) : (addIssue i).Adds (.ofIssues [i]) := fun _ => rfl

theorem adds_addSuggestion (s : Suggestion) : (addSuggestion s).Adds (.ofSuggestions [s]) := fun _ => rfl

theorem Adds.bind (first : p.Adds f) {k : Unit → Recording Unit} (second : ∀ u, (k u).Adds g) :
    (p >>= k).Adds (f ++ g) := fun found => by
  rw [after_bind_ok (first found), second, Findings.append_assoc]

theorem adds_ofExcept_bind {r : Except Fault α} {a : α} {k : α → Recording Unit} (usable : r = .ok a)
    (rest : (k a).Adds f) : (ofExcept r >>= k).Adds f := by
  subst usable
  exact rest

theorem adds_ite {condition : Prop} [Decidable condition] {q : Recording Unit} (first : p.Adds f)
    (second : q.Adds g) : (if condition then p else q).Adds (if condition then f else g) := by
  split
  · exact first
  · exact second

theorem adds_forM_filter {xs : List α} {k : α → Recording Unit} (wanted : α → Bool) (issue : α → Issue)
    (each : ∀ x ∈ xs, (k x).Adds (if wanted x then .ofIssues [issue x] else .none)) :
    (xs.forM k).Adds (.ofIssues ((xs.filter wanted).map issue)) := by
  induction xs with
  | nil => exact adds_pure
  | cons x rest ih =>
    obtain ⟨here, later⟩ := List.forall_mem_cons.mp each
    cases isWanted : wanted x with
    | true =>
      rw [isWanted, if_pos rfl] at here
      rw [List.filter_cons_of_pos isWanted]
      exact here.bind fun _ => ih later
    | false =>
      rw [isWanted, if_neg Bool.false_ne_true] at here
      rw [List.filter_cons_of_neg (by simp [isWanted])]
      exact here.bind fun _ => ih later

theorem adds_forM_issues {xs : List α} {k : α → Recording Unit} (issue : α → Issue)
    (each : ∀ x ∈ xs, (k x).Adds (.ofIssues [issue x])) : (xs.forM k).Adds (.ofIssues (xs.map issue)) := by
  have all := adds_forM_filter (fun _ => true) issue each
  rwa [List.filter_eq_self.mpr fun _ _ => rfl] at all

theorem adds_forM_suggestions {xs : List α} {k : α → Recording Unit} (suggestion : α → Suggestion)
    (each : ∀ x ∈ xs, (k x).Adds (.ofSuggestions [suggestion x])) :
    (xs.forM k).Adds (.ofSuggestions (xs.map suggestion)) := by
  induction xs with
  | nil => exact adds_pure
  | cons x rest ih =>
    obtain ⟨here, later⟩ := List.forall_mem_cons.mp each
    exact here.bind fun _ => ih later

end Recording

namespace Check

open Recording

variable {check : String} {s : Subject} {f : Findings}

/-- A check without rules does what its own algorithm does. -/
theorem adds_run (noEntityRule : EntityRule.rules.filter (·.check == check) = [])
    (noThresholdRule : ThresholdRule.rules.filter (·.check == check) = []) (special : (special check s).Adds f) :
    (run check s).Adds f := by
  have alone : run check s = Check.special check s >>= fun _ => pure () := by
    rw [run, parts, noEntityRule, noThresholdRule]
    rfl
  rw [alone, ← f.append_none]
  exact special.bind fun _ => adds_pure

/-- The issue about a variable below which the references go too deep. -/
def nestedIssue (c : Container) (v : Entity) : Issue :=
  Issue.about "nested_references" "variable" v "medium" "best-practice" "Deeply nested variable"
    ("Variable \"" ++ v.name ++ "\" has a reference depth of " ++ count (c.referenceDepth v.name) ++ ".")
    "review" [("details", .obj [("depth", .int (c.referenceDepth v.name))])]

theorem adds_nestedReferences {most : Number} (usable : limitNumber (s.config.limit .referenceDepth) = .ok most) :
    (nestedReferences s).Adds (.ofIssues ((s.container.userVariables.filter fun v =>
      most.lt (.int (s.container.referenceDepth v.name))).map (nestedIssue s.container))) := by
  refine adds_forM_filter _ (nestedIssue s.container) fun v _ => ?_
  have compared : exceeds (.int (s.container.referenceDepth v.name)) (s.config.limit .referenceDepth) =
      .ok (most.lt (.int (s.container.referenceDepth v.name))) := by
    rw [exceeds, usable]
    rfl
  exact adds_ofExcept_bind compared (adds_ite (adds_addIssue (nestedIssue s.container v)) adds_pure)

end Check

end TagAudit

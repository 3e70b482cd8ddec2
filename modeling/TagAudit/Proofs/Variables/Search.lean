import Mathlib.Data.List.Perm.Subperm
import TagAudit.Graph

namespace TagAudit.Search

variable {next : String → List String} {stack todo names : List String} {s : Search}

abbrev Leads (next : String → List String) (u v : String) : Prop := v ∈ next u

/-- The search as a relation, without a bound on its depth: on a stack, the names left to visit take
one state to another. -/
inductive Visits (next : String → List String) : List String → Search → List String → Search → Prop
  | done {stack : List String} {s : Search} : Visits next stack s [] s
  | closes {stack : List String} {s after : Search} {name : String} {todo : List String}
      (onStack : name ∈ stack)
      (rest : Visits next stack { s with cycles := cycleTo name stack :: s.cycles } todo after) :
      Visits next stack s (name :: todo) after
  | skips {stack : List String} {s after : Search} {name : String} {todo : List String}
      (off : name ∉ stack) (known : name ∈ s.visited) (rest : Visits next stack s todo after) :
      Visits next stack s (name :: todo) after
  | enters {stack : List String} {s middle after : Search} {name : String} {todo : List String}
      (off : name ∉ stack) (unknown : name ∉ s.visited)
      (inner : Visits next (name :: stack) { s with visited := name :: s.visited } (next name) middle)
      (rest : Visits next stack middle todo after) : Visits next stack s (name :: todo) after

theorem Visits.unique {one other : Search} (run : Visits next stack s todo one)
    (again : Visits next stack s todo other) : one = other := by
  induction run generalizing other with
  | done =>
    cases again
    rfl
  | closes onStack rest ih =>
    cases again with
    | closes _ rest' => exact ih rest'
    | skips off _ _ => exact absurd onStack off
    | enters off _ _ _ => exact absurd onStack off
  | skips off known rest ih =>
    cases again with
    | closes onStack _ => exact absurd onStack off
    | skips _ _ rest' => exact ih rest'
    | enters _ unknown _ _ => exact absurd known unknown
  | enters off unknown inner rest ihInner ihRest =>
    cases again with
    | closes onStack _ => exact absurd onStack off
    | skips _ known _ => exact absurd known unknown
    | enters _ _ inner' rest' =>
      obtain rfl := ihInner inner'
      exact ihRest rest'

/-- The stack holds no name twice, so a depth that exceeds the number of names is never used up. -/
theorem visits_foldl (closed : ∀ n ∈ names, next n ⊆ names) {depth : Nat} (nodup : stack.Nodup)
    (stacked : stack ⊆ names) (within : todo ⊆ names) (enough : names.length < depth + stack.length) :
    Visits next stack s todo (todo.foldl (visit next depth stack) s) := by
  induction depth generalizing stack todo s with
  | zero =>
    have bound : stack.length ≤ names.length := (List.subperm_of_subset nodup stacked).length_le
    omega
  | succ depth ih =>
    induction todo generalizing s with
    | nil => exact .done
    | cons name rest ihRest =>
      obtain ⟨isName, restWithin⟩ := List.cons_subset.mp within
      rw [List.foldl_cons]
      by_cases onStack : name ∈ stack
      · have step : visit next (depth + 1) stack s name =
            { s with cycles := cycleTo name stack :: s.cycles } := by
          rw [visit, if_pos (by simpa using onStack)]
        rw [step]
        exact .closes onStack (ihRest restWithin)
      · by_cases known : name ∈ s.visited
        · have step : visit next (depth + 1) stack s name = s := by
            rw [visit, if_neg (by simpa using onStack), if_pos (by simpa using known)]
          rw [step]
          exact .skips onStack known (ihRest restWithin)
        · have step : visit next (depth + 1) stack s name =
              (next name).foldl (visit next depth (name :: stack))
                { s with visited := name :: s.visited } := by
            rw [visit, if_neg (by simpa using onStack), if_neg (by simpa using known)]
          rw [step]
          refine .enters onStack known ?_ (ihRest restWithin)
          refine ih (List.nodup_cons.mpr ⟨onStack, nodup⟩) (List.cons_subset.mpr ⟨isName, stacked⟩)
            (closed name isName) ?_
          rw [List.length_cons]
          omega

/-- The search from each of the names in turn comes to an end, and finds the reported cycles. -/
theorem visits_cyclesFrom (closed : ∀ n ∈ names, next n ⊆ names) :
    ∃ final, Visits next [] ⟨[], []⟩ names final ∧ cyclesFrom next names = final.cycles.reverse := by
  refine ⟨_, visits_foldl closed .nil (List.nil_subset names) (List.Subset.refl names) ?_, rfl⟩
  simp

end TagAudit.Search

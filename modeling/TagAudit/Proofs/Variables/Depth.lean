import Mathlib.Order.Bounds.Defs
import Mathlib.Order.MinMax
import TagAudit.Proofs.Variables.Cycles

namespace TagAudit.Search

variable {next : String → List String} {visited names : List String} {name : String} {depth : Nat}

/-- The depth of a name as a relation, without a bound on the recursion. What a name leads to is
measured with the name itself among those that count no more. -/
inductive Measures (next : String → List String) : List String → String → Nat → Prop
  | known {visited : List String} {name : String} (old : name ∈ visited) : Measures next visited name 0
  | enters {visited : List String} {name : String} (depths : String → Nat) (new : name ∉ visited)
      (below : ∀ ref ∈ next name, Measures next (name :: visited) ref (depths ref)) :
      Measures next visited name ((next name).foldl (fun deepest ref => max deepest (depths ref)) 0 + 1)

theorem Measures.unique {one other : Nat} (measured : Measures next visited name one)
    (again : Measures next visited name other) : one = other := by
  induction measured generalizing other with
  | known old =>
    cases again with
    | known _ => rfl
    | enters _ new _ => exact absurd old new
  | enters depths new below ih =>
    cases again with
    | known old => exact absurd old new
    | enters depths' _ below' =>
      congr 1
      refine List.foldl_ext _ _ 0 fun deepest ref member => ?_
      rw [ih ref member (below' ref member)]

/-- The visited names are different, so a bound that exceeds the number of names is never used up. -/
theorem measures_longestPath (closed : ∀ n ∈ names, next n ⊆ names) {bound : Nat} (nodup : visited.Nodup)
    (inside : visited ⊆ names) (isName : name ∈ names) (enough : names.length < bound + visited.length) :
    Measures next visited name (longestPath next bound visited name) := by
  induction bound generalizing visited name with
  | zero =>
    have most : visited.length ≤ names.length := (List.subperm_of_subset nodup inside).length_le
    omega
  | succ bound ih =>
    by_cases old : name ∈ visited
    · have step : longestPath next (bound + 1) visited name = 0 := by
        rw [longestPath, if_pos (by simpa using old)]
      exact step ▸ .known old
    · have step : longestPath next (bound + 1) visited name = (next name).foldl
          (fun deepest ref => max deepest (longestPath next bound (name :: visited) ref)) 0 + 1 := by
        rw [longestPath, if_neg (by simpa using old)]
        split
        · rename_i bare
          rw [bare]
          rfl
        · rfl
      rw [step]
      refine .enters _ old fun ref leads => ?_
      refine ih (List.nodup_cons.mpr ⟨old, nodup⟩) (List.cons_subset.mpr ⟨isName, inside⟩)
        (closed name isName leads) ?_
      rw [List.length_cons]
      omega

/-- A path from reference to reference that comes to none of the visited names, and to no name twice. -/
structure SimplePath (next : String → List String) (visited path : List String) : Prop where
  chain : path.IsChain (Leads next)
  nodup : path.Nodup
  avoids : ∀ v ∈ path, v ∉ visited

theorem simplePath_cons_iff {rest : List String} : SimplePath next visited (name :: rest) ↔
    name ∉ visited ∧ (∀ ref ∈ rest.head?, ref ∈ next name) ∧ SimplePath next (name :: visited) rest := by
  constructor
  · rintro ⟨chain, nodup, avoids⟩
    obtain ⟨leads, behind⟩ := List.isChain_cons.mp chain
    obtain ⟨once, others⟩ := List.nodup_cons.mp nodup
    obtain ⟨new, fresh⟩ := List.forall_mem_cons.mp avoids
    refine ⟨new, leads, behind, others, fun v member => ?_⟩
    exact List.not_mem_cons_of_ne_of_not_mem (ne_of_mem_of_not_mem member once) (fresh v member)
  · rintro ⟨new, leads, behind, others, fresh⟩
    refine ⟨List.isChain_cons.mpr ⟨leads, behind⟩, List.nodup_cons.mpr ⟨fun again => ?_, others⟩,
      List.forall_mem_cons.mpr ⟨new, fun v member => ?_⟩⟩
    · exact List.ne_of_not_mem_cons (fresh name again) rfl
    · exact List.not_mem_of_not_mem_cons (fresh v member)

theorem le_foldl_max (refs : List String) (depths : String → Nat) (start : Nat) :
    start ≤ refs.foldl (fun deepest ref => max deepest (depths ref)) start ∧
      ∀ ref ∈ refs, depths ref ≤ refs.foldl (fun deepest ref => max deepest (depths ref)) start := by
  induction refs generalizing start with
  | nil => simp
  | cons first rest ih =>
    obtain ⟨above, others⟩ := ih (max start (depths first))
    rw [List.foldl_cons]
    exact ⟨(le_max_left _ _).trans above, List.forall_mem_cons.mpr ⟨(le_max_right _ _).trans above, others⟩⟩

theorem foldl_max_attained (refs : List String) (depths : String → Nat) (start : Nat) :
    refs.foldl (fun deepest ref => max deepest (depths ref)) start = start ∨
      ∃ ref ∈ refs, refs.foldl (fun deepest ref => max deepest (depths ref)) start = depths ref := by
  induction refs generalizing start with
  | nil => exact Or.inl rfl
  | cons first rest ih =>
    rw [List.foldl_cons]
    rcases ih (max start (depths first)) with same | ⟨ref, member, same⟩
    · rw [same]
      rcases max_choice start (depths first) with isStart | isFirst
      · exact Or.inl isStart
      · exact Or.inr ⟨first, List.mem_cons_self, isFirst⟩
    · exact Or.inr ⟨ref, List.mem_cons_of_mem first member, same⟩

namespace Measures

theorem length_le (measured : Measures next visited name depth) {rest : List String}
    (path : SimplePath next visited (name :: rest)) : (name :: rest).length ≤ depth := by
  induction measured generalizing rest with
  | known old => exact absurd old (simplePath_cons_iff.mp path).1
  | @enters visited name depths new below ih =>
    obtain ⟨_, leads, behind⟩ := simplePath_cons_iff.mp path
    cases rest with
    | nil => simp
    | cons ref further =>
      have member : ref ∈ next name := leads ref rfl
      have longest := ih ref member behind
      have most := (le_foldl_max (next name) depths 0).2 ref member
      rw [List.length_cons]
      omega

theorem exists_path (measured : Measures next visited name depth) (new : name ∉ visited) :
    ∃ rest, SimplePath next visited (name :: rest) ∧ (name :: rest).length = depth := by
  induction measured with
  | known old => exact absurd old new
  | @enters visited name depths _ below ih =>
    have alone : SimplePath next visited [name] := ⟨List.isChain_singleton name, by simp, by simpa using new⟩
    rcases foldl_max_attained (next name) depths 0 with none | ⟨ref, member, deepest⟩
    · exact ⟨[], alone, by rw [none]; rfl⟩
    · by_cases old : ref ∈ name :: visited
      · -- All references lead back, so the path ends here.
        have zero : depths ref = 0 := (below ref member).unique (.known old)
        exact ⟨[], alone, by rw [deepest, zero]; rfl⟩
      · obtain ⟨rest, path, length⟩ := ih ref member old
        refine ⟨ref :: rest, simplePath_cons_iff.mpr ⟨new, ?_, path⟩, ?_⟩
        · exact fun first isFirst => Option.some.inj isFirst ▸ member
        · rw [List.length_cons, length, deepest]

theorem isGreatest (measured : Measures next [] name depth) :
    IsGreatest {n | ∃ rest, SimplePath next [] (name :: rest) ∧ (name :: rest).length = n} depth := by
  refine ⟨measured.exists_path List.not_mem_nil, ?_⟩
  rintro n ⟨rest, path, rfl⟩
  exact measured.length_le path

end Measures

end TagAudit.Search

namespace TagAudit.Container

variable {c : Container} {name : String}

/-- The depth of references is measured to the end: the bound on the recursion is never used up. -/
theorem measures_referenceDepth (c : Container) (name : String) :
    Search.Measures c.knownReferences [] name (c.referenceDepth name) := by
  have closed : ∀ n ∈ name :: c.variableNames, c.knownReferences n ⊆ name :: c.variableNames :=
    fun n _ => List.subset_cons_of_subset name (c.knownReferences_subset n)
  exact Search.measures_longestPath closed .nil (List.nil_subset _) List.mem_cons_self (by simp)

theorem measures_iff {depth : Nat} :
    Search.Measures c.knownReferences [] name depth ↔ depth = c.referenceDepth name :=
  ⟨fun measured => measured.unique (c.measures_referenceDepth name),
    fun same => same ▸ c.measures_referenceDepth name⟩

theorem simplePath_iff {path : List String} :
    Search.SimplePath c.knownReferences [] path ↔ path.IsChain c.Mentions ∧ path.Nodup := by
  constructor
  · exact fun ⟨chain, nodup, _⟩ => ⟨leads_eq_mentions c ▸ chain, nodup⟩
  · exact fun ⟨chain, nodup⟩ => ⟨leads_eq_mentions c ▸ chain, nodup, fun _ _ => List.not_mem_nil⟩

/-- The most names on a path of references that comes to no name twice. -/
theorem isGreatest_referenceDepth (c : Container) (name : String) :
    IsGreatest {n | ∃ rest, (name :: rest).IsChain c.Mentions ∧ (name :: rest).Nodup ∧ (name :: rest).length = n}
      (c.referenceDepth name) := by
  have greatest := (c.measures_referenceDepth name).isGreatest
  simpa only [simplePath_iff, and_assoc] using greatest

theorem referenceDepth_eq_one_iff : c.referenceDepth name = 1 ↔ ¬ ∃ v, v ≠ name ∧ c.Mentions name v := by
  obtain ⟨⟨longest, chain, nodup, length⟩, most⟩ := c.isGreatest_referenceDepth name
  constructor
  · rintro single ⟨v, other, mentions⟩
    have pair : 2 ≤ c.referenceDepth name :=
      most ⟨[v], List.isChain_pair.mpr mentions, by simpa using other.symm, rfl⟩
    omega
  · intro none
    rw [← length]
    cases longest with
    | nil => rfl
    | cons v further =>
      have other : v ≠ name := fun same => (List.nodup_cons.mp nodup).1 (same ▸ List.mem_cons_self)
      exact absurd ⟨v, other, (List.isChain_cons_cons.mp chain).1⟩ none

end TagAudit.Container

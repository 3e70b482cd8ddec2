import Mathlib.Data.List.Rotate
import Mathlib.Logic.Relation
import TagAudit.Proofs.Variables.Forest

namespace TagAudit.Search

variable {next branch : String → List String} {names visited : List String} {final : Search}

theorem same_or_before {u w : String} {names : List String} (first : u ∈ names) (second : w ∈ names) :
    u = w ∨ [u, w].Sublist names ∨ [w, u].Sublist names := by
  induction names with
  | nil => cases first
  | cons name rest ih =>
    rcases List.mem_cons.mp first with rfl | uBehind
    · rcases List.mem_cons.mp second with rfl | wBehind
      · exact Or.inl rfl
      · exact Or.inr (Or.inl ((List.singleton_sublist.mpr wBehind).cons_cons u))
    · rcases List.mem_cons.mp second with rfl | wBehind
      · exact Or.inr (Or.inr ((List.singleton_sublist.mpr uBehind).cons_cons w))
      · exact (ih uBehind wBehind).imp_right fun order =>
          order.imp (List.Sublist.cons name) (List.Sublist.cons name)

/-- The last entry of a list with a property: all others stand before it. -/
theorem exists_last {names : List String} {p : String → Prop} (some : ∃ w ∈ names, p w) :
    ∃ x ∈ names, p x ∧ ∀ w ∈ names, p w → w = x ∨ [w, x].Sublist names := by
  induction names with
  | nil =>
    obtain ⟨w, member, _⟩ := some
    cases member
  | cons name rest ih =>
    by_cases later : ∃ w ∈ rest, p w
    · obtain ⟨x, member, holds, last⟩ := ih later
      refine ⟨x, List.mem_cons_of_mem name member, holds, fun w within good => ?_⟩
      rcases List.mem_cons.mp within with rfl | behind
      · exact Or.inr ((List.singleton_sublist.mpr member).cons_cons w)
      · exact (last w behind good).imp_right (List.Sublist.cons name)
    · obtain ⟨w, member, holds⟩ := some
      have isFirst : w = name := (List.mem_cons.mp member).resolve_right fun within =>
        later ⟨w, within, holds⟩
      refine ⟨w, member, holds, fun v within good => Or.inl ?_⟩
      rw [isFirst]
      exact (List.mem_cons.mp within).resolve_right fun behind => later ⟨v, behind, good⟩

theorem takeWhile_concat_isPrefix {v : String} {names : List String} (member : v ∈ names) :
    names.takeWhile (· != v) ++ [v] <+: names := by
  induction names with
  | nil => cases member
  | cons name rest ih =>
    by_cases top : name = v
    · simp [top]
    · have behind : v ∈ rest := (List.mem_cons.mp member).resolve_left (Ne.symm top)
      rw [List.takeWhile_cons_of_pos (by simpa using top), List.cons_append, List.prefix_cons_inj]
      exact ih behind

theorem mem_of_mem_round {v x : String} {rest : List String} (onPath : v ∈ x :: rest ++ [x]) :
    v ∈ x :: rest := by
  rcases List.mem_append.mp onPath with within | atEnd
  · exact within
  · exact List.mem_singleton.mp atEnd ▸ List.mem_cons_self

/-- A path that is reported for a stack goes up the stack and back. -/
theorem exists_cycleTo {v : String} {stack : List String} (member : v ∈ stack) :
    ∃ inner, cycleTo v stack = v :: inner ++ [v] ∧ (v :: inner).reverse <+: stack := by
  refine ⟨(stack.takeWhile (· != v)).reverse, by simp [cycleTo], ?_⟩
  rw [List.reverse_cons, List.reverse_reverse]
  exact takeWhile_concat_isPrefix member

theorem Survey.mem_cycles (survey : Survey next branch names final) {path : List String} :
    path ∈ final.cycles ↔
      ∃ u ∈ final.visited, ∃ v ∈ next u, v ∈ branch u ∧ path = cycleTo v (branch u) := by
  rw [survey.reports.mem_iff, List.mem_flatMap]
  simp only [closings, List.mem_map, List.mem_filter, decide_eq_true_eq]
  constructor
  · rintro ⟨u, known, v, ⟨leads, back⟩, rfl⟩
    exact ⟨u, known, v, leads, back, rfl⟩
  · rintro ⟨u, known, v, leads, back, rfl⟩
    exact ⟨u, known, v, ⟨leads, back⟩, rfl⟩

theorem cycleTo_target {v w : String} {stack : List String} (same : cycleTo v stack = cycleTo w stack) :
    v = w := by
  simp only [cycleTo, List.cons_append, List.reverse_cons, List.reverse_append, List.reverse_nil,
    List.nil_append] at same
  exact (List.cons.inj same).1

theorem cycleTo_source {u v w x : String} {below below' : List String}
    (same : cycleTo v (u :: below) = cycleTo x (w :: below')) : u = w := by
  have closer (v u : String) (below : List String) :
      (cycleTo v (u :: below)).reverse.tail.head? = some u := by
    by_cases top : u = v
    · simp [cycleTo, top]
    · simp [cycleTo, top]
  have sources := closer v u below
  rw [same, closer] at sources
  exact (Option.some.inj sources).symm

theorem mem_cycleTo {v x : String} {above below : List String} (nodup : (above ++ v :: below).Nodup)
    (behind : x ∈ v :: below) : v ∈ cycleTo x (above ++ v :: below) := by
  by_cases same : v = x
  · simp [cycleTo, same]
  · have before : ∀ y ∈ above, (y != x) = true := by
      intro y member
      have disjoint := (List.nodup_append.mp nodup).2.2
      exact bne_iff_ne.mpr (disjoint y member x behind)
    rw [cycleTo, List.takeWhile_append_of_pos before, List.takeWhile_cons_of_pos (by simpa using same)]
    simp

namespace Forest

variable {u v w x : String}

/-- A reference that leads back to its own branch closes a cycle. -/
theorem exists_cycle (forest : Forest next branch visited) (known : u ∈ visited) (leads : v ∈ next u)
    (back : v ∈ branch u) :
    ∃ inner, cycleTo v (branch u) = v :: inner ++ [v] ∧ (v :: inner).reverse <+: branch u ∧
      (v :: inner ++ [v]).IsChain (Leads next) := by
  obtain ⟨inner, path, upper⟩ := exists_cycleTo back
  refine ⟨inner, path, upper, ?_⟩
  obtain ⟨rest, root⟩ := forest.root u known
  obtain ⟨lower, whole⟩ := upper
  have closed : (v :: (v :: inner).reverse).IsChain fun b a => b ∈ next a := by
    refine List.isChain_cons.mpr ⟨fun top isTop => ?_, ?_⟩
    · have isHead : top ∈ (branch u).head? := whole ▸ List.mem_head?_append_of_mem_head? isTop
      obtain rfl : u = top := by simpa [root] using isHead
      exact leads
    · exact (whole ▸ forest.chain u known).left_of_append
  have reversed := List.isChain_reverse.mpr closed
  rwa [List.reverse_cons, List.reverse_reverse] at reversed

theorem closings_nodup (forest : Forest next branch visited) (simple : ∀ u, (next u).Nodup) :
    (visited.flatMap fun u => closings (branch u) (next u)).Nodup := by
  refine List.nodup_flatMap.mpr ⟨fun u known => ?_, forest.nodup.pairwise_of_forall_ne ?_⟩
  · exact ((simple u).filter _).map fun v w same => cycleTo_target same
  · intro u first w second differ path found again
    obtain ⟨v, _, rfl⟩ := List.mem_map.mp found
    obtain ⟨v', _, same⟩ := List.mem_map.mp again
    obtain ⟨below, root⟩ := forest.root u first
    obtain ⟨below', root'⟩ := forest.root w second
    rw [root, root'] at same
    exact differ (cycleTo_source same.symm)

/-- On a list without repetitions a path has one place: no other path goes through its names. -/
theorem eq_of_perm (forest : Forest next branch visited) {one other : List String}
    (first : one.Sublist visited) (second : other.Sublist visited) (perm : one.Perm other) :
    one = other := by
  have ordered : visited.Pairwise fun a b => visited.idxOf a < visited.idxOf b := by
    rw [List.pairwise_iff_getElem]
    intro i j iBound jBound less
    rwa [forest.nodup.idxOf_getElem i iBound, forest.nodup.idxOf_getElem j jBound]
  exact perm.eq_of_pairwise (fun a b _ _ less greater => absurd less greater.not_gt)
    (ordered.sublist first) (ordered.sublist second)

theorem branch_suffix (forest : Forest next branch visited) (known : w ∈ visited)
    (above : u ∈ branch w) : branch u <:+ branch w := by
  obtain ⟨upper, below, whole⟩ := List.append_of_mem above
  have suffix : (u :: below) <:+ branch w := ⟨upper, whole.symm⟩
  exact forest.nested w known u below suffix ▸ suffix

theorem mem_own_branch (forest : Forest next branch visited) (known : w ∈ visited) :
    w ∈ branch w := by
  obtain ⟨below, root⟩ := forest.root w known
  exact root ▸ List.mem_cons_self

/-- All names that a name leads to, and that lead back to it, are above the first of them. -/
theorem mem_branch_of_reach (forest : Forest next branch visited)
    (closed : ∀ u ∈ visited, next u ⊆ visited) (known : x ∈ visited)
    (first : ∀ w ∈ visited, Relation.ReflTransGen (Leads next) x w →
      Relation.ReflTransGen (Leads next) w x → w = x ∨ [w, x].Sublist visited)
    (reach : Relation.ReflTransGen (Leads next) x w)
    (back : Relation.ReflTransGen (Leads next) w x) : w ∈ visited ∧ x ∈ branch w := by
  induction reach with
  | refl => exact ⟨known, forest.mem_own_branch known⟩
  | @tail w w' reach leads ih =>
    obtain ⟨old, above⟩ := ih (back.head leads)
    have isVisited : w' ∈ visited := closed w old leads
    refine ⟨isVisited, ?_⟩
    rcases same_or_before old isVisited with rfl | later | earlier
    · exact above
    · -- Visited before `w`, and not before `x`: between the two.
      rcases first w' isVisited (reach.tail leads) back with rfl | after
      · exact forest.mem_own_branch isVisited
      · exact forest.contiguous w old x above w' later after
    · exact (forest.branch_suffix isVisited (forest.forward w w' earlier leads)).subset above

/-- Names that lead to each other in the order of the visits are on one branch. -/
theorem subset_branch (forest : Forest next branch visited) {below : List String}
    (chain : (u :: below).IsChain fun b a => b ∈ next a) (order : (u :: below).Sublist visited) :
    u :: below ⊆ branch u := by
  induction below generalizing u with
  | nil =>
    have known : u ∈ visited := order.subset List.mem_cons_self
    exact List.cons_subset.mpr ⟨forest.mem_own_branch known, List.nil_subset _⟩
  | cons w rest ih =>
    have known : u ∈ visited := order.subset List.mem_cons_self
    have leads : u ∈ next w := (List.isChain_cons_cons.mp chain).1
    have onBranch : w ∈ branch u := by
      refine forest.forward w u ?_ leads
      exact (List.Sublist.cons_cons u (List.singleton_sublist.mpr List.mem_cons_self)).trans order
    have behind : w :: rest ⊆ branch w :=
      ih (List.isChain_cons_cons.mp chain).2 ((List.sublist_cons_self u _).trans order)
    refine List.cons_subset.mpr ⟨forest.mem_own_branch known, ?_⟩
    exact List.Subset.trans behind (forest.branch_suffix known onBranch).subset

/-- A name between the ends of a reference back is on the path that is reported for it. -/
theorem mem_cycleTo_branch (forest : Forest next branch visited) (known : u ∈ visited)
    (onBranch : v ∈ branch u) (behind : x ∈ branch v) : v ∈ cycleTo x (branch u) := by
  obtain ⟨above, whole⟩ := forest.branch_suffix known onBranch
  obtain ⟨below, root⟩ := forest.root v ((forest.ordered u known).subset onBranch)
  have nodup : (branch u).Nodup := forest.nodup.sublist (forest.ordered u known)
  rw [root] at whole behind
  rw [← whole] at nodup ⊢
  exact mem_cycleTo nodup behind

end Forest

namespace Survey

variable {u v w x : String} {path : List String}

/-- A reported path leads from a name back to it, through names in the order in which they have been
visited. -/
theorem exists_path (survey : Survey next branch names final) (reported : path ∈ final.cycles) :
    ∃ v inner, path = v :: inner ++ [v] ∧ (v :: inner).reverse.Sublist final.visited ∧
      path.IsChain (Leads next) := by
  obtain ⟨u, known, v, leads, back, rfl⟩ := survey.mem_cycles.mp reported
  obtain ⟨inner, path, below, chain⟩ := survey.exists_cycle known leads back
  exact ⟨v, inner, path, below.sublist.trans (survey.ordered u known), path ▸ chain⟩

/-- No cycle is reported twice, not even from another name on. -/
theorem pairwise_not_isRotated (survey : Survey next branch names final)
    (simple : ∀ u, (next u).Nodup) :
    final.cycles.Pairwise fun one other => ¬ one.dropLast ~r other.dropLast := by
  have distinct : final.cycles.Nodup := survey.reports.nodup_iff.mpr (survey.closings_nodup simple)
  refine distinct.pairwise_of_forall_ne fun one first other second differ rotated => differ ?_
  obtain ⟨v, inner, rfl, visitedFirst, _⟩ := survey.exists_path first
  obtain ⟨w, inner', rfl, visitedSecond, _⟩ := survey.exists_path second
  rw [List.dropLast_concat, List.dropLast_concat] at rotated
  have perm : (v :: inner).reverse.Perm (w :: inner').reverse :=
    (List.reverse_perm _).trans (rotated.perm.trans (List.reverse_perm _).symm)
  have same := List.reverse_injective (survey.eq_of_perm visitedFirst visitedSecond perm)
  rw [same, (List.cons.inj same).1]

/-- Of the names that reference each other in a circle, the one that is visited first is on a reported
path. -/
theorem exists_reported (survey : Survey next branch names final) (known : v ∈ final.visited)
    (circle : Relation.TransGen (Leads next) v v) :
    ∃ x, Relation.ReflTransGen (Leads next) v x ∧
      Relation.ReflTransGen (Leads next) x v ∧ ∃ path ∈ final.cycles, x ∈ path := by
  let linked (w : String) : Prop := Relation.ReflTransGen (Leads next) v w ∧
    Relation.ReflTransGen (Leads next) w v
  obtain ⟨x, isVisited, ⟨reach, back⟩, first⟩ := exists_last (p := linked) ⟨v, known, .refl, .refl⟩
  refine ⟨x, reach, back, ?_⟩
  have around : Relation.TransGen (Leads next) x x :=
    (Relation.TransGen.trans_right back circle).trans_left reach
  obtain ⟨u, toLast, closes⟩ := Relation.TransGen.tail'_iff.mp around
  obtain ⟨lastVisited, onBranch⟩ := survey.mem_branch_of_reach survey.closed isVisited
    (fun w old out home => first w old ⟨reach.trans out, home.trans back⟩) toLast (.single closes)
  obtain ⟨inner, path, _, _⟩ := survey.exists_cycle lastVisited closes onBranch
  refine ⟨cycleTo x (branch u), survey.mem_cycles.mpr ⟨u, lastVisited, x, closes, onBranch, rfl⟩, ?_⟩
  rw [path]
  exact List.mem_append_left _ List.mem_cons_self

/-- A cycle that goes on in the order of the visits, all but its last reference, lies on the path that is
reported for this reference. -/
theorem exists_path_of_ordered (survey : Survey next branch names final) {rest : List String}
    (order : (x :: rest).reverse.Sublist final.visited)
    (chain : (x :: rest ++ [x]).IsChain (Leads next)) :
    ∃ path ∈ final.cycles, x :: rest ⊆ path := by
  obtain ⟨u, below, last⟩ : ∃ u below, (x :: rest).reverse = u :: below :=
    List.exists_cons_of_ne_nil (by simp)
  have back : (x :: (u :: below)).IsChain fun b a => b ∈ next a := by
    have reversed := List.isChain_reverse.mpr chain
    rwa [List.reverse_append, last] at reversed
  obtain ⟨leads, upward⟩ := List.isChain_cons_cons.mp back
  rw [last] at order
  have known : u ∈ final.visited := order.subset List.mem_cons_self
  have onBranch {y : String} (member : y ∈ x :: rest) : y ∈ branch u :=
    survey.subset_branch upward order (last ▸ List.mem_reverse.mpr member)
  refine ⟨cycleTo x (branch u), survey.mem_cycles.mpr
    ⟨u, known, x, leads, onBranch List.mem_cons_self, rfl⟩, fun v within => ?_⟩
  obtain ⟨above, lower, parts⟩ := List.append_of_mem (last ▸ List.mem_reverse.mpr within)
  have suffix : (v :: lower) <:+ (u :: below) := ⟨above, parts.symm⟩
  have isLast : (v :: lower).getLast? = some x := by
    rw [← last] at parts
    simpa using (congrArg List.getLast? parts).symm
  have behind : x ∈ branch v :=
    survey.subset_branch (upward.suffix suffix) (suffix.sublist.trans order)
      (List.mem_of_getLast? isLast)
  exact survey.mem_cycleTo_branch known (onBranch within) behind

/-- The names on reported paths are those on the cycles that go on in the order of the visits, all but
the last reference, which leads back. -/
theorem exists_path_through_iff (survey : Survey next branch names final) :
    (∃ path ∈ final.cycles, v ∈ path) ↔
      ∃ x rest, v ∈ x :: rest ∧ (x :: rest).reverse.Sublist final.visited ∧
        (x :: rest ++ [x]).IsChain (Leads next) := by
  constructor
  · rintro ⟨path, reported, onPath⟩
    obtain ⟨x, rest, rfl, order, chain⟩ := survey.exists_path reported
    exact ⟨x, rest, mem_of_mem_round onPath, order, chain⟩
  · rintro ⟨x, rest, within, order, chain⟩
    obtain ⟨path, reported, covers⟩ := survey.exists_path_of_ordered order chain
    exact ⟨path, reported, covers within⟩

end Survey

end TagAudit.Search

import Mathlib.Data.List.Chain
import Mathlib.Logic.Function.Basic
import TagAudit.Proofs.Variables.Search

namespace TagAudit.Search

variable {next branch : String → List String} {stack todo visited : List String}

/-- A list of which every part from a name on is the branch of that name. -/
def Nested (branch : String → List String) (names : List String) : Prop :=
  ∀ u below, (u :: below) <:+ names → branch u = u :: below

/-- The names that a search has visited, the latest first, as a forest: the branch of a name is the
stack on which it was visited, with the name itself on top. -/
structure Forest (next branch : String → List String) (visited : List String) : Prop where
  nodup : visited.Nodup
  root : ∀ w ∈ visited, ∃ below, branch w = w :: below
  ordered : ∀ w ∈ visited, (branch w).Sublist visited
  chain : ∀ w ∈ visited, (branch w).IsChain fun v u => v ∈ next u
  nested : ∀ w ∈ visited, Nested branch (branch w)
  /-- What is visited between a name and one above it is above it too. -/
  contiguous : ∀ u ∈ visited, ∀ x ∈ branch u, ∀ w,
    [u, w].Sublist visited → [w, x].Sublist visited → x ∈ branch w
  /-- What a name leads to and is visited after it is above it. -/
  forward : ∀ u w, [w, u].Sublist visited → w ∈ next u → u ∈ branch w

/-- A forest while the search is under way. -/
structure Explores (next branch : String → List String) (stack visited : List String) : Prop
    extends Forest next branch visited where
  stacked : stack.Sublist visited
  onBranch : Nested branch stack
  finished : ∀ u ∈ visited, u ∉ stack → next u ⊆ visited
  current : ∀ x ∈ stack, ∀ w, [w, x].Sublist visited → x ∈ branch w

theorem explores_nil : Explores next branch [] [] where
  nodup := .nil
  root := by simp
  ordered := by simp
  chain := by simp
  nested := by simp
  contiguous := by simp
  forward := by simp
  stacked := List.Sublist.refl []
  onBranch u below suffix := by simp at suffix
  finished := by simp
  current := by simp

theorem forall_mem_update {p : String → List String → Prop} {name : String} {below : List String}
    (unknown : name ∉ visited) (itself : p name below) (others : ∀ w ∈ visited, p w (branch w)) :
    ∀ w ∈ name :: visited, p w (Function.update branch name below w) := by
  intro w member
  rcases List.mem_cons.mp member with rfl | old
  · rwa [Function.update_self]
  · rw [Function.update_of_ne (ne_of_mem_of_not_mem old unknown)]
    exact others w old

theorem Nested.update {name : String} {names stack : List String} (nested : Nested branch names)
    (new : name ∉ names) : Nested (Function.update branch name stack) names := by
  intro u below suffix
  have other : u ≠ name := fun same => new (same ▸ suffix.subset List.mem_cons_self)
  rw [Function.update_of_ne other]
  exact nested u below suffix

theorem Nested.cons {name : String} {stack : List String} (nested : Nested branch stack)
    (new : name ∉ stack) :
    Nested (Function.update branch name (name :: stack)) (name :: stack) := by
  intro u below suffix
  rcases List.suffix_cons_iff.mp suffix with whole | part
  · obtain ⟨rfl, rfl⟩ := List.cons.inj whole
    exact Function.update_self ..
  · exact nested.update new u below part

theorem Nested.of_suffix {names part : List String} (nested : Nested branch names)
    (suffix : part <:+ names) : Nested branch part :=
  fun u below within => nested u below (within.trans suffix)

namespace Explores

variable {name : String}

/-- A stack is the branch of the name on top of it. -/
theorem stack_chain (inv : Explores next branch stack visited) :
    stack.IsChain fun v u => v ∈ next u := by
  cases stack with
  | nil => exact .nil
  | cons u below =>
    have top : branch u = u :: below := inv.onBranch u below (List.suffix_refl _)
    exact top ▸ inv.chain u (inv.stacked.subset List.mem_cons_self)

theorem not_mem_stack (inv : Explores next branch stack visited) (unknown : name ∉ visited) :
    name ∉ stack :=
  fun onStack => unknown (inv.stacked.subset onStack)

/-- What has been visited before is neither above nor below a name that is met for the first time. -/
theorem forest_enter (inv : Explores next branch stack visited) (unknown : name ∉ visited)
    (follows : ∀ u ∈ stack.head?, name ∈ next u) :
    Forest next (Function.update branch name (name :: stack)) (name :: visited) := by
  have itself : Function.update branch name (name :: stack) name = name :: stack :=
    Function.update_self ..
  have same : ∀ w ∈ visited, Function.update branch name (name :: stack) w = branch w :=
    fun w old => Function.update_of_ne (ne_of_mem_of_not_mem old unknown) ..
  have earlier : ∀ {x : String} {rest : List String}, (x :: rest).Sublist visited → x ∈ visited :=
    fun part => part.subset List.mem_cons_self
  constructor
  case nodup => exact List.nodup_cons.mpr ⟨unknown, inv.nodup⟩
  case root =>
    exact forall_mem_update (p := fun w above => ∃ below, above = w :: below) unknown ⟨stack, rfl⟩
      inv.root
  case ordered =>
    refine forall_mem_update (p := fun _ above => above.Sublist (name :: visited)) unknown ?_ ?_
    · exact inv.stacked.cons_cons name
    · exact fun w old => (inv.ordered w old).cons name
  case chain =>
    exact forall_mem_update (p := fun _ above => above.IsChain fun v u => v ∈ next u) unknown
      (List.isChain_cons.mpr ⟨follows, inv.stack_chain⟩) inv.chain
  case nested =>
    refine forall_mem_update (p := fun _ above => Nested _ above) unknown ?_ fun w old => ?_
    · exact inv.onBranch.cons (inv.not_mem_stack unknown)
    · exact (inv.nested w old).update fun within => unknown ((inv.ordered w old).subset within)
  case contiguous =>
    intro u member x below w order order'
    have isOld : w ∈ visited := by
      rcases List.cons_sublist_cons'.mp order with old | ⟨rfl, later⟩
      · exact old.subset (by simp)
      · exact later.subset (by simp)
    have between : [w, x].Sublist visited := by
      rcases List.cons_sublist_cons'.mp order' with old | ⟨rfl, _⟩
      · exact old
      · exact absurd isOld unknown
    rw [same w isOld]
    rcases List.cons_sublist_cons'.mp order with old | ⟨rfl, _⟩
    · rw [same u (earlier old)] at below
      exact inv.contiguous u (earlier old) x below w old between
    · rw [itself] at below
      rcases List.mem_cons.mp below with rfl | onStack
      · exact absurd (between.subset (by simp)) unknown
      · exact inv.current x onStack w between
  case forward =>
    intro u w order leads
    rcases List.cons_sublist_cons'.mp order with old | ⟨rfl, later⟩
    · rw [same w (earlier old)]
      exact inv.forward u w old leads
    · rw [itself]
      by_contra notAbove
      have notOnStack : u ∉ stack := fun onStack => notAbove (List.mem_cons_of_mem w onStack)
      exact unknown (inv.finished u (earlier later) notOnStack leads)

theorem enter (inv : Explores next branch stack visited) (unknown : name ∉ visited)
    (follows : ∀ u ∈ stack.head?, name ∈ next u) :
    Explores next (Function.update branch name (name :: stack)) (name :: stack) (name :: visited) where
  toForest := inv.forest_enter unknown follows
  stacked := inv.stacked.cons_cons name
  onBranch := inv.onBranch.cons (inv.not_mem_stack unknown)
  finished := by
    intro u member notOnStack
    rcases List.mem_cons.mp member with rfl | old
    · exact absurd List.mem_cons_self notOnStack
    · exact List.subset_cons_of_subset name
        (inv.finished u old fun onStack => notOnStack (List.mem_cons_of_mem name onStack))
  current := by
    intro x onStack w order
    rcases List.cons_sublist_cons'.mp order with old | ⟨rfl, later⟩
    · have isOld : w ∈ visited := old.subset List.mem_cons_self
      rw [Function.update_of_ne (ne_of_mem_of_not_mem isOld unknown)]
      rcases List.mem_cons.mp onStack with rfl | below
      · exact absurd (old.subset (by simp)) unknown
      · exact inv.current x below w old
    · rw [Function.update_self]
      exact onStack

theorem leave (inv : Explores next branch (name :: stack) visited) (complete : next name ⊆ visited) :
    Explores next branch stack visited where
  toForest := inv.toForest
  stacked := (List.sublist_cons_self name stack).trans inv.stacked
  onBranch := inv.onBranch.of_suffix (List.suffix_cons name stack)
  finished := by
    intro u member notOnStack
    by_cases top : u = name
    · exact top ▸ complete
    · exact inv.finished u member fun onStack => (List.mem_cons.mp onStack).elim top notOnStack
  current x onStack := inv.current x (List.mem_cons_of_mem name onStack)

end Explores

/-- The cycles that names close which are on a stack. -/
def closings (stack todo : List String) : List (List String) :=
  (todo.filter (· ∈ stack)).map (cycleTo · stack)

theorem closings_cons_of_mem {name : String} (onStack : name ∈ stack) :
    closings stack (name :: todo) = cycleTo name stack :: closings stack todo := by
  simp [closings, onStack]

theorem closings_cons_of_not_mem {name : String} (off : name ∉ stack) :
    closings stack (name :: todo) = closings stack todo := by
  simp [closings, off]

/-- What becomes of a forest when names are visited, among them `new` for the first time: every
reference that leads back to its own branch closes one cycle. -/
structure Outcome (next branch : String → List String) (stack todo : List String) (s after : Search)
    (grown : String → List String) (new : List String) : Prop where
  visited : after.visited = new ++ s.visited
  stable : ∀ w ∈ s.visited, grown w = branch w
  explores : Explores next grown stack after.visited
  covers : todo ⊆ after.visited
  reports : after.cycles.Perm
    (new.flatMap (fun u => closings (grown u) (next u)) ++ closings stack todo ++ s.cycles)

theorem perm_between {α : Type} {first second between rest all : List α}
    (split : all.Perm (between ++ rest)) :
    (first ++ second ++ all).Perm (first ++ between ++ second ++ rest) := by
  refine (split.append_left _).trans ?_
  rw [List.append_assoc first, List.append_assoc first, List.append_assoc first,
    List.append_assoc between]
  exact (List.perm_append_comm_assoc second between rest).append_left first

namespace Outcome

variable {s middle after : Search} {grown inside : String → List String} {new within : List String}
  {name : String}

theorem close
    (out : Outcome next branch stack todo { s with cycles := cycleTo name stack :: s.cycles } after
      grown new) (onStack : name ∈ stack) :
    Outcome next branch stack (name :: todo) s after grown new where
  visited := out.visited
  stable := out.stable
  explores := out.explores
  covers := List.cons_subset.mpr ⟨out.explores.stacked.subset onStack, out.covers⟩
  reports := by
    rw [closings_cons_of_mem onStack]
    refine out.reports.trans ?_
    simp only [List.append_assoc, List.cons_append]
    exact List.perm_middle.append_left _

theorem skip (out : Outcome next branch stack todo s after grown new) (off : name ∉ stack)
    (known : name ∈ s.visited) : Outcome next branch stack (name :: todo) s after grown new where
  visited := out.visited
  stable := out.stable
  explores := out.explores
  covers := List.cons_subset.mpr ⟨out.visited ▸ List.mem_append_right new known, out.covers⟩
  reports := by
    rw [closings_cons_of_not_mem off]
    exact out.reports

theorem enter
    (first : Outcome next (Function.update branch name (name :: stack)) (name :: stack) (next name)
      { s with visited := name :: s.visited } middle inside within)
    (second : Outcome next inside stack todo middle after grown new) (off : name ∉ stack)
    (unknown : name ∉ s.visited) :
    Outcome next branch stack (name :: todo) s after grown (new ++ (within ++ [name])) := by
  have middleVisited : middle.visited = within ++ name :: s.visited := first.visited
  have visited : after.visited = new ++ (within ++ [name]) ++ s.visited := by
    rw [second.visited, middleVisited]
    simp
  have itself : grown name = name :: stack := by
    rw [second.stable name (middleVisited ▸ by simp), first.stable name List.mem_cons_self]
    exact Function.update_self ..
  have same : ∀ u ∈ within, closings (grown u) (next u) = closings (inside u) (next u) := by
    intro u member
    rw [second.stable u (middleVisited ▸ List.mem_append_left _ member)]
  refine ⟨visited, ?_, second.explores, ?_, ?_⟩
  · intro w old
    rw [second.stable w (middleVisited ▸ by simp [old]),
      first.stable w (List.mem_cons_of_mem name old)]
    exact Function.update_of_ne (ne_of_mem_of_not_mem old unknown) ..
  · exact List.cons_subset.mpr ⟨visited ▸ by simp, second.covers⟩
  · rw [closings_cons_of_not_mem off, List.flatMap_append, List.flatMap_append,
      List.flatMap_congr same, List.flatMap_singleton, itself]
    exact second.reports.trans (perm_between first.reports)

end Outcome

theorem Visits.outcome {s after : Search} (run : Visits next stack s todo after)
    (inv : Explores next branch stack s.visited) (follows : ∀ u ∈ stack.head?, todo ⊆ next u) :
    ∃ grown new, Outcome next branch stack todo s after grown new := by
  induction run generalizing branch with
  | done =>
    exact ⟨branch, [], rfl, fun _ _ => rfl, inv, List.nil_subset _, List.Perm.refl _⟩
  | closes onStack _ ih =>
    obtain ⟨grown, new, out⟩ := ih inv fun u top => (List.cons_subset.mp (follows u top)).2
    exact ⟨grown, new, out.close onStack⟩
  | skips off known _ ih =>
    obtain ⟨grown, new, out⟩ := ih inv fun u top => (List.cons_subset.mp (follows u top)).2
    exact ⟨grown, new, out.skip off known⟩
  | @enters stack s middle after name todo off unknown inner rest ihInner ihRest =>
    have entered := inv.enter unknown fun u top => (List.cons_subset.mp (follows u top)).1
    obtain ⟨inside, within, first⟩ := ihInner entered fun u top => by
      obtain rfl : name = u := by simpa using top
      exact List.Subset.refl _
    obtain ⟨grown, new, second⟩ := ihRest (first.explores.leave first.covers) fun u top =>
      (List.cons_subset.mp (follows u top)).2
    exact ⟨grown, new ++ (within ++ [name]), first.enter second off unknown⟩

/-- A search that has come to its end. -/
structure Survey (next branch : String → List String) (names : List String) (final : Search) : Prop
    extends Forest next branch final.visited where
  covers : names ⊆ final.visited
  closed : ∀ u ∈ final.visited, next u ⊆ final.visited
  reports : final.cycles.Perm (final.visited.flatMap fun u => closings (branch u) (next u))

theorem Visits.survey {names : List String} {final : Search}
    (run : Visits next [] ⟨[], []⟩ names final) : ∃ branch, Survey next branch names final := by
  obtain ⟨branch, new, out⟩ := run.outcome (explores_nil : Explores next (fun _ => []) [] []) (by simp)
  have visited : final.visited = new := out.visited.trans (List.append_nil new)
  refine ⟨branch, out.explores.toForest, out.covers, ?_, ?_⟩
  · exact fun u member => out.explores.finished u member List.not_mem_nil
  · simpa [visited, closings] using out.reports

end TagAudit.Search

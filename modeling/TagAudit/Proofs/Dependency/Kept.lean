import Mathlib.Data.List.Nodup
import Mathlib.Data.List.Perm.Subperm
import TagAudit.Proofs.Dependency.Colors

namespace TagAudit

theorem not_swapped {α : Type} {xs : List α} (nodup : xs.Nodup) :
    xs.Pairwise fun a b => ¬[b, a].Sublist xs := by
  induction xs with
  | nil => exact List.Pairwise.nil
  | cons first rest ih =>
    obtain ⟨new, others⟩ := List.nodup_cons.mp nodup
    have later (a b : α) (inRest : b ∈ rest) (swapped : [b, a].Sublist (first :: rest)) : [b, a].Sublist rest := by
      cases swapped with
      | cons _ deeper => exact deeper
      | cons_cons _ _ => exact absurd inRest new
    rw [List.pairwise_cons]
    constructor
    · intro b inRest swapped
      exact new ((later first b inRest swapped).subset (by simp))
    · refine (ih others).imp_of_mem fun {a b} _ inRest fixed swapped => ?_
      exact fixed (later a b inRest swapped)

/-- Sorting keeps members that count as equal in the order in which they were. -/
theorem pairwise_mergeSort_of_nodup {α : Type} {le : α → α → Bool}
    (trans : ∀ a b c, le a b = true → le b c = true → le a c = true) (total : ∀ a b, (le a b || le b a) = true)
    {R : α → α → Prop} {xs : List α} (nodup : xs.Nodup) (ordered : xs.Pairwise R) :
    (xs.mergeSort le).Pairwise fun a b => le a b = true ∧ (le b a = true → R a b) := by
  have same := List.mergeSort_perm xs le
  have distinct : (xs.mergeSort le).Nodup := same.nodup_iff.mpr nodup
  refine (List.pairwise_mergeSort trans total xs).and (List.pairwise_iff_forall_sublist.mpr ?_)
  intro a b before equal
  have inA : a ∈ xs := same.mem_iff.mp (before.subset (by simp))
  have inB : b ∈ xs := same.mem_iff.mp (before.subset (by simp))
  have differ : a ≠ b := by simpa using distinct.sublist before
  obtain ⟨front, back, rfl⟩ := List.append_of_mem inA
  rcases List.mem_append.mp inB with earlier | later
  · have swapped : [b, a].Sublist (front ++ a :: back) :=
      (List.singleton_sublist.mpr earlier).append (List.singleton_sublist.mpr List.mem_cons_self)
    have stable := List.pair_sublist_mergeSort trans total equal swapped
    exact absurd stable (List.pairwise_iff_forall_sublist.mp (not_swapped distinct) before)
  · have inBack : b ∈ back := (List.mem_cons.mp later).resolve_left differ.symm
    have kept : [a, b].Sublist (front ++ a :: back) :=
      ((List.singleton_sublist.mpr inBack).cons_cons a).trans (List.sublist_append_right _ _)
    exact List.pairwise_iff_forall_sublist.mp ordered kept

/-- The names of variables at the ends of a reference. -/
def Reference.names (r : Reference) : List String :=
  r.target :: if r.kind == .variable then [r.source] else []

namespace Container

variable {c : Container} {limit : Nat} {keep : List String}

/-- The names of variables at the ends of references, as often and in the order as the references mention them. -/
def mentionedNames (c : Container) : List String := c.references.flatMap Reference.names

/-- The number of references to a name and of references by variables of this name. -/
def degree (c : Container) (name : String) : Nat :=
  (c.references.countP fun r => r.target == name) +
    c.references.countP fun r => r.kind == .variable && r.source == name

/-- Of two names the one with the higher degree comes first; of equal ones the one that is mentioned first. -/
def Outranks (c : Container) (a b : String) : Prop :=
  c.degree b < c.degree a ∨
    c.degree b = c.degree a ∧ c.mentionedNames.idxOf a < c.mentionedNames.idxOf b

/-- What a limit leaves of the mentioned names: all if there are at most so many, else so many of them, each of
which outranks every one that is left out. -/
structure Leaves (c : Container) (limit : Nat) (keep : List String) : Prop where
  nodup : keep.Nodup
  mentioned : keep ⊆ c.mentionedNames
  length : keep.length = min limit (distinct c.mentionedNames).length
  outranks : ∀ a ∈ keep, ∀ b ∈ c.mentionedNames, b ∉ keep → c.Outranks a b

theorem Outranks.asymm {a b : String} (first : c.Outranks a b) : ¬c.Outranks b a := by
  unfold Outranks at *
  omega

theorem Outranks.degree_le {a b : String} (first : c.Outranks a b) : c.degree b ≤ c.degree a := by
  unfold Outranks at first
  omega

theorem Leaves.subset {other : List String} (leaves : c.Leaves limit keep) (same : c.Leaves limit other) :
    keep ⊆ other := by
  intro a kept
  by_contra dropped
  -- As many names are kept, so another one stands in the place of `a`, and each of the two outranks the other.
  have replaced : ∃ b ∈ other, b ∉ keep := by
    by_contra none
    push Not at none
    have proper : (a :: other).Subperm keep := by
      refine List.subperm_of_subset (List.nodup_cons.mpr ⟨dropped, same.nodup⟩) fun b member => ?_
      rcases List.mem_cons.mp member with rfl | inOther
      · exact kept
      · exact none b inOther
    have longer := proper.length_le
    rw [List.length_cons, same.length, leaves.length] at longer
    omega
  obtain ⟨b, inOther, notKept⟩ := replaced
  have ab := leaves.outranks a kept b (same.mentioned inOther) notKept
  have ba := same.outranks b inOther a (leaves.mentioned kept) dropped
  exact ab.asymm ba

/-- A limit leaves one set of names. -/
theorem Leaves.mem_iff {other : List String} (leaves : c.Leaves limit keep) (same : c.Leaves limit other)
    (name : String) : name ∈ keep ↔ name ∈ other :=
  ⟨fun member => leaves.subset same member, fun member => same.subset leaves member⟩

theorem count_names (references : List Reference) (name : String) :
    (references.flatMap Reference.names).count name =
      (references.countP fun r => r.target == name) +
        references.countP fun r => r.kind == .variable && r.source == name := by
  induction references with
  | nil => rfl
  | cons r rest ih =>
    have here : r.names.count name =
        (if r.target == name then 1 else 0) + if r.kind == .variable && r.source == name then 1 else 0 := by
      unfold Reference.names
      cases isVariable : r.kind == .variable <;> simp [List.count_cons, Nat.add_comm]
    rw [List.flatMap_cons, List.count_append, here, ih, List.countP_cons, List.countP_cons]
    omega

end Container

namespace DependencyGraph

open Container

variable {c : Container} {limit : Nat}

theorem degrees_eq (c : Container) :
    degrees c.references = (distinct c.mentionedNames).map fun name => (name, c.degree name) := by
  have counted (name : String) : (c.mentionedNames.filter fun other => other == name).length = c.degree name := by
    rw [← List.countP_eq_length_filter, ← List.count, mentionedNames, count_names, degree]
  simp only [degrees, groupBy, List.map_map, List.map_id']
  exact List.map_congr_left fun name _ => Prod.ext rfl (counted name)

/-- The mentioned names with their degrees, the highest first. -/
def ranking (c : Container) : List (String × Nat) := (degrees c.references).mergeSort fun a b => b.2 ≤ a.2

theorem mem_ranking {row : String × Nat} :
    row ∈ ranking c ↔ row.1 ∈ c.mentionedNames ∧ row.2 = c.degree row.1 := by
  rw [ranking, (List.mergeSort_perm _ _).mem_iff, degrees_eq, List.mem_map]
  constructor
  · rintro ⟨name, member, rfl⟩
    exact ⟨mem_distinct.mp member, rfl⟩
  · rintro ⟨member, same⟩
    exact ⟨row.1, mem_distinct.mpr member, Prod.ext rfl same.symm⟩

theorem nodup_ranking (c : Container) : ((ranking c).map (·.1)).Nodup := by
  have sorted : ((ranking c).map (·.1)).Perm (distinct c.mentionedNames) := by
    refine ((List.mergeSort_perm _ _).map _).trans (List.Perm.of_eq ?_)
    rw [degrees_eq, List.map_map]
    exact List.map_id _
  exact sorted.nodup_iff.mpr (distinct_nodup _)

theorem pairwise_ranking (c : Container) : (ranking c).Pairwise fun a b => c.Outranks a.1 b.1 := by
  have trans (a b d : String × Nat) (ab : decide (b.2 ≤ a.2) = true) (bd : decide (d.2 ≤ b.2) = true) :
      decide (d.2 ≤ a.2) = true := by
    simp only [decide_eq_true_eq] at *
    omega
  have total (a b : String × Nat) : (decide (b.2 ≤ a.2) || decide (a.2 ≤ b.2)) = true := by
    simp only [Bool.or_eq_true, decide_eq_true_eq]
    omega
  have first : (degrees c.references).Pairwise fun a b =>
      c.mentionedNames.idxOf a.1 < c.mentionedNames.idxOf b.1 := by
    rw [degrees_eq, List.pairwise_map]
    exact pairwise_distinct _
  have nodup : (degrees c.references).Nodup := (first.imp fun before same => by simp [same] at before)
  refine (pairwise_mergeSort_of_nodup trans total nodup first).imp_of_mem fun {a b} isA isB order => ?_
  have degreeA := (mem_ranking.mp isA).2
  have degreeB := (mem_ranking.mp isB).2
  simp only [decide_eq_true_eq] at order
  unfold Outranks
  omega

/-- The names that are kept where a limit is set. -/
theorem leaves_take_ranking (c : Container) (limit : Nat) : c.Leaves limit (((ranking c).take limit).map (·.1)) where
  nodup := (nodup_ranking c).sublist ((List.take_sublist limit _).map _)
  mentioned := by
    intro name member
    obtain ⟨row, taken, rfl⟩ := List.mem_map.mp member
    exact (mem_ranking.mp (List.mem_of_mem_take taken)).1
  length := by
    rw [List.length_map, List.length_take, ranking, List.length_mergeSort, degrees_eq, List.length_map]
  outranks := by
    intro a kept b mentioned dropped
    obtain ⟨row, taken, rfl⟩ := List.mem_map.mp kept
    have split := pairwise_ranking c
    rw [← List.take_append_drop limit (ranking c), List.pairwise_append] at split
    have ranked : (b, c.degree b) ∈ ranking c := mem_ranking.mpr ⟨mentioned, rfl⟩
    rw [← List.take_append_drop limit (ranking c)] at ranked
    rcases List.mem_append.mp ranked with early | late
    · exact absurd (List.mem_map_of_mem (f := (·.1)) early) dropped
    · exact split.2.2 row taken _ late

/-- Whether a name is kept tells whether it is among those that the limit leaves. -/
theorem exists_leaves (c : Container) (limit : Nat) : ∃ keep, c.Leaves limit keep ∧
    ∀ name ∈ c.mentionedNames, keeps c limit name = true ↔ name ∈ keep := by
  have known : (degrees c.references).length = (distinct c.mentionedNames).length := by
    rw [degrees_eq, List.length_map]
  unfold keeps keptNames
  dsimp only
  by_cases many : (limit : Int) < (degrees c.references).length
  · refine ⟨_, leaves_take_ranking c limit, fun name _ => ?_⟩
    rw [if_pos many, upTo, if_neg (by omega), Int.toNat_natCast]
    simp [ranking]
  · refine ⟨distinct c.mentionedNames, ⟨distinct_nodup _, ?_, ?_, ?_⟩, fun name mentioned => ?_⟩
    · exact fun name member => mem_distinct.mp member
    · omega
    · exact fun a _ b mentioned dropped => absurd (mem_distinct.mpr mentioned) dropped
    · rw [if_neg many]
      simp [mem_distinct, mentioned]

end DependencyGraph

end TagAudit

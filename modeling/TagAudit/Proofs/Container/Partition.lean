import Mathlib.Data.List.FinRange
import Mathlib.Data.List.Induction
import TagAudit.Container.Duplicate

namespace TagAudit

section

variable {α β κ : Type} [BEq κ]

/-- Adds a member to the group of its key, or begins a new group behind the others. -/
def enterGroup (groups : List (κ × List α)) (key : κ) (a : α) : List (κ × List α) :=
  match groups with
  | [] => [(key, [a])]
  | (k, members) :: rest => if k == key then (k, members ++ [a]) :: rest else (k, members) :: enterGroup rest key a

theorem groupBy_map (f : β → α) (key : α → κ) (xs : List β) :
    groupBy key (xs.map f) = (groupBy (key ∘ f) xs).map fun row => (row.1, row.2.map f) := by
  simp only [groupBy, List.map_map, List.filter_map]
  rfl

variable [LawfulBEq κ]

theorem distinct_concat_of_mem {a : κ} {ks : List κ} (old : a ∈ ks) : distinct (ks ++ [a]) = distinct ks := by
  induction ks with
  | nil => cases old
  | cons k rest ih =>
    by_cases first : a = k
    · subst first
      rw [List.cons_append, distinct, distinct, filter_distinct, filter_distinct, List.filter_append]
      simp
    · rw [List.cons_append, distinct, ih ((List.mem_cons.mp old).resolve_left first), distinct]

theorem distinct_concat_of_not_mem {a : κ} {ks : List κ} (new : a ∉ ks) :
    distinct (ks ++ [a]) = distinct ks ++ [a] := by
  induction ks with
  | nil => rfl
  | cons k rest ih =>
    rw [List.mem_cons, not_or] at new
    have other : (!(a == k)) = true := by simpa using new.1
    rw [List.cons_append, distinct, ih new.2, List.filter_append, List.filter_singleton, other, distinct]
    rfl

theorem members_concat_self (key : α → κ) (xs : List α) (a : α) :
    (xs ++ [a]).filter (fun x => key x == key a) = (xs.filter fun x => key x == key a) ++ [a] := by
  rw [List.filter_append, List.filter_singleton, beq_self_eq_true]
  rfl

theorem members_concat_of_ne {key : α → κ} {a : α} {k : κ} (other : key a ≠ k) (xs : List α) :
    (xs ++ [a]).filter (fun x => key x == k) = xs.filter fun x => key x == k := by
  rw [List.filter_append, List.filter_singleton, beq_eq_false_iff_ne.mpr other]
  exact List.append_nil _

/-- Where a key has a group already, its members get one more; the other groups stay. -/
theorem enterGroup_of_mem (key : α → κ) (xs : List α) (a : α) {ks : List κ} (nodup : ks.Nodup) (old : key a ∈ ks) :
    enterGroup (ks.map fun k => (k, xs.filter fun x => key x == k)) (key a) a =
      ks.map fun k => (k, (xs ++ [a]).filter fun x => key x == k) := by
  induction ks with
  | nil => cases old
  | cons k rest ih =>
    rw [List.nodup_cons] at nodup
    rw [List.map_cons, List.map_cons, enterGroup]
    by_cases first : k = key a
    · subst first
      have later : rest.map (fun k => (k, xs.filter fun x => key x == k)) =
          rest.map fun k => (k, (xs ++ [a]).filter fun x => key x == k) :=
        List.map_congr_left fun k member => by
          have other : key a ≠ k := fun same => nodup.1 (same ▸ member)
          rw [members_concat_of_ne other]
      rw [if_pos (beq_self_eq_true _), later, members_concat_self]
    · rw [if_neg (by simpa using first), members_concat_of_ne (Ne.symm first),
        ih nodup.2 ((List.mem_cons.mp old).resolve_left (Ne.symm first))]

theorem enterGroup_of_not_mem {groups : List (κ × List α)} {key : κ} (new : ∀ row ∈ groups, row.1 ≠ key) (a : α) :
    enterGroup groups key a = groups ++ [(key, [a])] := by
  induction groups with
  | nil => rfl
  | cons row rest ih =>
    rw [List.forall_mem_cons] at new
    rw [enterGroup, if_neg (by simpa using new.1), ih new.2]
    rfl

/-- One more member changes the groups as entering it does. -/
theorem groupBy_concat (key : α → κ) (xs : List α) (a : α) :
    groupBy key (xs ++ [a]) = enterGroup (groupBy key xs) (key a) a := by
  unfold groupBy
  rw [List.map_append, List.map_singleton]
  by_cases old : key a ∈ xs.map key
  · rw [distinct_concat_of_mem old, enterGroup_of_mem key xs a (distinct_nodup _) (mem_distinct.mpr old)]
  · have none : xs.filter (fun x => key x == key a) = [] :=
      List.filter_eq_nil_iff.mpr fun x member same => old (beq_iff_eq.mp same ▸ List.mem_map_of_mem member)
    rw [distinct_concat_of_not_mem old, List.map_append, List.map_singleton, enterGroup_of_not_mem]
    · rw [members_concat_self, none, List.nil_append]
      refine congrArg (· ++ _) (List.map_congr_left fun k member => ?_)
      have other : key a ≠ k := fun same => old (same ▸ mem_distinct.mp member)
      rw [members_concat_of_ne other]
    · intro row member same
      obtain ⟨k, isKey, rfl⟩ := List.mem_map.mp member
      exact old (same ▸ mem_distinct.mp isKey)

/-- The groups are made by going through the list once. -/
theorem groupBy_eq_foldl (key : α → κ) (xs : List α) :
    groupBy key xs = xs.foldl (fun groups a => enterGroup groups (key a) a) [] := by
  induction xs using List.reverseRecOn with
  | nil => rfl
  | append_singleton before a ih => rw [groupBy_concat, ih, List.foldl_append, List.foldl_cons, List.foldl_nil]

/-- The first member of a list begins the first group; the other groups are those of the other members. -/
theorem groupBy_cons (key : α → κ) (a : α) (rest : List α) :
    groupBy key (a :: rest) = (key a, a :: rest.filter fun x => key x == key a) ::
      (groupBy key rest).filter fun row => !(row.1 == key a) := by
  have first : (a :: rest).filter (fun x => key x == key a) = a :: rest.filter fun x => key x == key a :=
    List.filter_cons_of_pos (beq_self_eq_true _)
  rw [groupBy, List.map_cons, distinct, List.map_cons, first, groupBy, List.filter_map]
  refine congrArg _ (List.map_congr_left fun k member => ?_)
  have other : k ≠ key a := by simpa using (List.mem_filter.mp member).2
  rw [List.filter_cons_of_neg (by simpa using Ne.symm other)]

/-- The groups stand in the order of their first members. -/
theorem pairwise_groupBy (key : α → κ) {before : α → α → Prop} {xs : List α} (ordered : xs.Pairwise before) :
    (groupBy key xs).Pairwise fun row next => ∀ a ∈ row.2.head?, ∀ b ∈ next.2.head?, before a b := by
  induction xs with
  | nil => exact .nil
  | cons a rest ih =>
    rw [List.pairwise_cons] at ordered
    rw [groupBy_cons, List.pairwise_cons]
    refine ⟨fun ⟨k, members⟩ member first isFirst b isHead => ?_, (ih ordered.2).filter _⟩
    obtain ⟨_, rfl⟩ := mem_groupBy.mp (List.mem_filter.mp member).1
    cases isFirst
    exact ordered.1 b (List.mem_filter.mp (List.mem_of_mem_head? isHead)).1

theorem groupBy_keys_nodup (key : α → κ) (xs : List α) : ((groupBy key xs).map (·.1)).Nodup := by
  have keys : (groupBy key xs).map (·.1) = distinct (xs.map key) := by
    rw [groupBy, List.map_map]
    exact List.map_id _
  rw [keys]
  exact distinct_nodup _

end

/-- Groups of positions are the classes of a key that have several positions: each lists its positions in order,
and the groups come in the order of their first positions. -/
structure Partition {κ : Type} {n : Nat} (key : Fin n → κ) (groups : List (List (Fin n))) : Prop where
  several : ∀ g ∈ groups, 2 ≤ g.length
  inOrder : ∀ g ∈ groups, g.Pairwise (· < ·)
  disjoint : groups.Pairwise List.Disjoint
  together : ∀ i j, i ≠ j → key i = key j → ∃ g ∈ groups, i ∈ g ∧ j ∈ g
  alike : ∀ g ∈ groups, ∀ i ∈ g, ∀ j ∈ g, key i = key j
  differ : groups.Pairwise fun g h => ∀ i ∈ g, ∀ j ∈ h, key i ≠ key j
  byFirst : groups.Pairwise fun g h => ∀ i ∈ g.head?, ∀ j ∈ h.head?, i < j

section

variable {κ : Type} [BEq κ] [LawfulBEq κ] {n : Nat}

/-- The groups of at least two positions of one key. -/
def positionGroups (key : Fin n → κ) : List (κ × List (Fin n)) :=
  (groupBy key (List.finRange n)).filter fun row => 1 < row.2.length

theorem mem_positionGroups {key : Fin n → κ} {k : κ} {group : List (Fin n)} :
    (k, group) ∈ positionGroups key ↔
      1 < group.length ∧ group = (List.finRange n).filter fun i => key i == k := by
  rw [positionGroups, List.mem_filter, mem_groupBy, decide_eq_true_iff]
  constructor
  · rintro ⟨⟨_, whole⟩, several⟩
    exact ⟨several, whole⟩
  · rintro ⟨several, rfl⟩
    obtain ⟨i, member⟩ := List.exists_mem_of_length_pos (Nat.zero_lt_of_lt several)
    obtain ⟨inside, same⟩ := List.mem_filter.mp member
    exact ⟨⟨beq_iff_eq.mp same ▸ List.mem_map_of_mem inside, rfl⟩, several⟩

theorem key_of_mem_positionGroups {key : Fin n → κ} {row : κ × List (Fin n)} (member : row ∈ positionGroups key)
    {i : Fin n} (inside : i ∈ row.2) : key i = row.1 := by
  obtain ⟨k, group⟩ := row
  obtain ⟨_, rfl⟩ := mem_positionGroups.mp member
  exact beq_iff_eq.mp (List.mem_filter.mp inside).2

theorem one_lt_length_of_mem {α : Type} {a b : α} {xs : List α} (here : a ∈ xs) (there : b ∈ xs) (ne : a ≠ b) :
    1 < xs.length := by
  match xs with
  | [c] => exact absurd ((List.mem_singleton.mp here).trans (List.mem_singleton.mp there).symm) ne
  | _ :: _ :: _ => simp

theorem partition_positionGroups (key : Fin n → κ) : Partition key ((positionGroups key).map (·.2)) := by
  have keys : (positionGroups key).Pairwise fun row next => row.1 ≠ next.1 :=
    (List.pairwise_map.mp (groupBy_keys_nodup key _)).filter _
  have differ : (positionGroups key).Pairwise fun row next => ∀ i ∈ row.2, ∀ j ∈ next.2, key i ≠ key j := by
    refine keys.imp_of_mem fun {row next} isRow isNext ne i inRow j inNext => ?_
    rwa [key_of_mem_positionGroups isRow inRow, key_of_mem_positionGroups isNext inNext]
  constructor
  case several =>
    intro g member
    obtain ⟨⟨k, _⟩, isRow, rfl⟩ := List.mem_map.mp member
    exact (mem_positionGroups.mp isRow).1
  case inOrder =>
    intro g member
    obtain ⟨⟨k, _⟩, isRow, rfl⟩ := List.mem_map.mp member
    obtain ⟨_, rfl⟩ := mem_positionGroups.mp isRow
    exact (List.pairwise_lt_finRange n).filter _
  case disjoint =>
    refine List.pairwise_map.mpr (differ.imp fun {row next} apart i inRow inNext => ?_)
    exact apart i inRow i inNext rfl
  case together =>
    intro i j ne same
    have here : i ∈ (List.finRange n).filter fun p => key p == key i :=
      List.mem_filter.mpr ⟨List.mem_finRange i, beq_self_eq_true _⟩
    have there : j ∈ (List.finRange n).filter fun p => key p == key i :=
      List.mem_filter.mpr ⟨List.mem_finRange j, beq_iff_eq.mpr same.symm⟩
    have isRow := mem_positionGroups.mpr ⟨one_lt_length_of_mem here there ne, rfl⟩
    exact ⟨_, List.mem_map_of_mem isRow, here, there⟩
  case alike =>
    intro g member i inside j there
    obtain ⟨row, isRow, rfl⟩ := List.mem_map.mp member
    rw [key_of_mem_positionGroups isRow inside, key_of_mem_positionGroups isRow there]
  case differ => exact List.pairwise_map.mpr differ
  case byFirst => exact List.pairwise_map.mpr ((pairwise_groupBy key (List.pairwise_lt_finRange n)).filter _)

end

namespace Container

variable (c : Container) (kind : Comparable)

/-- The signature of the entity at a position. -/
def signatureAt (i : Fin (c.entitiesOf kind).length) : String := kind.signature ((c.entitiesOf kind).get i)

theorem duplicates_eq_positions : c.duplicates kind =
    (positionGroups (c.signatureAt kind)).map fun row => (row.1, row.2.map (c.entitiesOf kind).get) := by
  have whole := groupBy_map (c.entitiesOf kind).get kind.signature (List.finRange (c.entitiesOf kind).length)
  rw [List.map_get_finRange] at whole
  rw [duplicates, whole, List.filter_map, positionGroups]
  refine congrArg (List.map _) (List.filter_congr fun row _ => ?_)
  simp

/-- The groups of duplicates are made by entering the entities one after the other and leaving out what has stayed
alone. Their positions are the partition by signature without the single ones. -/
theorem duplicates_partition :
    c.duplicates kind = ((c.entitiesOf kind).foldl (fun groups e => enterGroup groups (kind.signature e) e) []).filter
      (fun row => 1 < row.2.length) ∧
    ∃ positions, List.Forall₂ (fun row ps => row.2 = ps.map (c.entitiesOf kind).get ∧
        ∀ i ∈ ps, c.signatureAt kind i = row.1) (c.duplicates kind) positions ∧
      Partition (c.signatureAt kind) positions := by
  refine ⟨?_, (positionGroups (c.signatureAt kind)).map (·.2), ?_, partition_positionGroups _⟩
  · rw [duplicates, groupBy_eq_foldl]
  · rw [duplicates_eq_positions, List.forall₂_map_left_iff, List.forall₂_map_right_iff]
    exact List.forall₂_same.mpr fun row member => ⟨rfl, fun i inside => key_of_mem_positionGroups member inside⟩

end Container

end TagAudit

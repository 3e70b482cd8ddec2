namespace TagAudit

/-- The members of a list without repetitions, in the order of their first occurrences. -/
def distinct {α : Type} [BEq α] : List α → List α
  | [] => []
  | a :: rest => a :: (distinct rest).filter fun b => !(b == a)

/-- The members of a list by key, in the order in which the keys occur first. -/
def groupBy {α κ : Type} [BEq κ] (key : α → κ) (xs : List α) : List (κ × List α) :=
  (distinct (xs.map key)).map fun k => (k, xs.filter fun x => key x == k)

/-- Gives a key of a table a new value in its place, or appends the key. -/
def put {α : Type} (table : List (String × α)) (key : String) (value : α) : List (String × α) :=
  match table with
  | [] => [(key, value)]
  | (k, v) :: rest => if k = key then (k, value) :: rest else (k, v) :: put rest key value

/-- The value that a table has for a key, the latest one of several. -/
def latest? {α : Type} (rows : List (String × α)) (key : String) : Option α :=
  rows.foldl (fun found (k, v) => if k = key then some v else found) none

/-- A part of a list up to a position, which is counted from the end if it is negative. -/
def upTo {α : Type} (limit : Int) (xs : List α) : List α :=
  if limit < 0 then xs.take (xs.length - limit.natAbs) else xs.take limit.toNat

/-- The sum of some counts. -/
def sumOf (counts : List Nat) : Nat := counts.foldr (· + ·) 0

theorem eq_or_mem_of_mem_put {α : Type} {table : List (String × α)} {key : String} {value : α}
    {row : String × α} (member : row ∈ put table key value) : row = (key, value) ∨ row ∈ table := by
  induction table with
  | nil => exact Or.inl (List.mem_singleton.mp member)
  | cons first rest ih =>
    unfold put at member
    split at member
    · rename_i same
      rcases List.mem_cons.mp member with new | old
      · exact Or.inl (same ▸ new)
      · exact Or.inr (List.mem_cons_of_mem _ old)
    · rcases List.mem_cons.mp member with here | later
      · exact Or.inr (here ▸ List.mem_cons_self)
      · exact (ih later).imp_right (List.mem_cons_of_mem _)

theorem mem_keys_put {α : Type} {table : List (String × α)} {key other : String} {value : α} :
    other ∈ (put table key value).map (·.1) ↔ other = key ∨ other ∈ table.map (·.1) := by
  induction table with
  | nil => simp [put]
  | cons first rest ih =>
    obtain ⟨k, v⟩ := first
    by_cases same : k = key
    · simp [put, same]
    · simp only [put, same, if_false, List.map_cons, List.mem_cons, ih]
      exact or_left_comm

/-- Rows that are put into a table one after the other: all rows of the table are among them, and all their
keys are in it. -/
theorem mem_foldl_put {α : Type} {rows table : List (String × α)} {row : String × α}
    (member : row ∈ rows.foldl (fun table (key, value) => put table key value) table) :
    row ∈ rows ∨ row ∈ table := by
  induction rows generalizing table with
  | nil => exact Or.inr member
  | cons first rest ih =>
    rcases ih member with later | here
    · exact Or.inl (List.mem_cons_of_mem _ later)
    · rcases eq_or_mem_of_mem_put here with rfl | old
      · exact Or.inl List.mem_cons_self
      · exact Or.inr old

theorem mem_keys_foldl_put {α : Type} {rows table : List (String × α)} {key : String} :
    key ∈ (rows.foldl (fun table (key, value) => put table key value) table).map (·.1) ↔
      key ∈ rows.map (·.1) ∨ key ∈ table.map (·.1) := by
  induction rows generalizing table with
  | nil => simp
  | cons first rest ih =>
    rw [List.foldl_cons, ih, mem_keys_put, List.map_cons, List.mem_cons, or_assoc]
    exact or_left_comm

theorem lookup_put_self {α : Type} (table : List (String × α)) (key : String) (value : α) :
    (put table key value).lookup key = some value := by
  induction table with
  | nil => simp [put]
  | cons first rest ih =>
    obtain ⟨k, v⟩ := first
    by_cases same : k = key
    · simp [put, same]
    · have other : (key == k) = false := beq_eq_false_iff_ne.mpr (Ne.symm same)
      simp only [put, same, if_false, List.lookup_cons, other, ih]

theorem lookup_put_of_ne {α : Type} {key other : String} (ne : other ≠ key)
    (table : List (String × α)) (value : α) :
    (put table key value).lookup other = table.lookup other := by
  have differ : (other == key) = false := beq_eq_false_iff_ne.mpr ne
  induction table with
  | nil => simp only [put, List.lookup_cons, differ, List.lookup_nil]
  | cons first rest ih =>
    obtain ⟨k, v⟩ := first
    by_cases same : k = key
    · simp only [put, same, if_true, List.lookup_cons, differ]
    · simp only [put, same, if_false, List.lookup_cons, ih]

theorem mem_of_lookup {α : Type} {table : List (String × α)} {key : String} {value : α}
    (found : table.lookup key = some value) : (key, value) ∈ table := by
  obtain ⟨before, after, rfl, _⟩ := List.lookup_eq_some_iff.mp found
  exact List.mem_append_right before List.mem_cons_self

theorem foldl_latest {α : Type} (rows : List (String × α)) (key : String) (found : Option α) :
    ((∀ value, (key, value) ∉ rows) ∧
      rows.foldl (fun found (k, v) => if k = key then some v else found) found = found) ∨
    ∃ value, (key, value) ∈ rows ∧
      rows.foldl (fun found (k, v) => if k = key then some v else found) found = some value := by
  induction rows generalizing found with
  | nil => exact Or.inl ⟨fun _ => List.not_mem_nil, rfl⟩
  | cons first rest ih =>
    obtain ⟨k, v⟩ := first
    rw [List.foldl_cons]
    dsimp only
    by_cases same : k = key
    · subst same
      rw [if_pos rfl]
      rcases ih (some v) with ⟨_, unchanged⟩ | ⟨value, member, changed⟩
      · exact Or.inr ⟨v, List.mem_cons_self, unchanged⟩
      · exact Or.inr ⟨value, List.mem_cons_of_mem _ member, changed⟩
    · rw [if_neg same]
      rcases ih found with ⟨absent, unchanged⟩ | ⟨value, member, changed⟩
      · refine Or.inl ⟨fun value member => ?_, unchanged⟩
        rcases List.mem_cons.mp member with here | later
        · exact same (congrArg Prod.fst here).symm
        · exact absent value later
      · exact Or.inr ⟨value, List.mem_cons_of_mem _ member, changed⟩

/-- The latest value of a key is one of its values, and is there if the key has any. -/
theorem latest?_cases {α : Type} (rows : List (String × α)) (key : String) :
    ((∀ value, (key, value) ∉ rows) ∧ latest? rows key = none) ∨
      ∃ value, (key, value) ∈ rows ∧ latest? rows key = some value :=
  foldl_latest rows key none

theorem mem_of_mem_distinct {α : Type} [BEq α] {a : α} {xs : List α} (member : a ∈ distinct xs) : a ∈ xs := by
  induction xs with
  | nil => exact member
  | cons b rest ih =>
    rcases List.mem_cons.mp member with rfl | later
    · exact List.mem_cons_self
    · exact List.mem_cons_of_mem _ (ih (List.mem_filter.mp later).1)

theorem mem_distinct {α : Type} [BEq α] [LawfulBEq α] {a : α} {xs : List α} :
    a ∈ distinct xs ↔ a ∈ xs := by
  induction xs with
  | nil => simp [distinct]
  | cons b rest ih =>
    by_cases h : a = b <;> simp [distinct, ih, h]

theorem mem_groupBy {α κ : Type} [BEq κ] [LawfulBEq κ] {key : α → κ} {xs : List α} {k : κ}
    {group : List α} :
    (k, group) ∈ groupBy key xs ↔ k ∈ xs.map key ∧ group = xs.filter fun x => key x == k := by
  simp only [groupBy, List.mem_map, mem_distinct, Prod.mk.injEq]
  constructor
  · rintro ⟨_, member, rfl, rfl⟩
    exact ⟨member, rfl⟩
  · rintro ⟨member, rfl⟩
    exact ⟨k, member, rfl, rfl⟩

theorem distinct_nodup {α : Type} [BEq α] [LawfulBEq α] (xs : List α) : (distinct xs).Nodup := by
  induction xs with
  | nil => exact List.nodup_nil
  | cons b rest ih =>
    refine List.nodup_cons.2 ⟨?_, List.Pairwise.filter _ ih⟩
    simp [List.mem_filter]

/-- What is left is in the order of first occurrences. -/
theorem pairwise_distinct {α : Type} [BEq α] [LawfulBEq α] (xs : List α) :
    (distinct xs).Pairwise fun a b => xs.idxOf a < xs.idxOf b := by
  induction xs with
  | nil => exact List.Pairwise.nil
  | cons first rest ih =>
    have behind (a : α) (other : a ≠ first) : (first :: rest).idxOf a = rest.idxOf a + 1 := by
      rw [List.idxOf_cons, cond_eq_ite, if_neg (by simpa using Ne.symm other)]
    have others (a : α) (member : a ∈ (distinct rest).filter fun b => !(b == first)) : a ≠ first := by
      simpa using (List.mem_filter.mp member).2
    rw [distinct, List.pairwise_cons]
    constructor
    · intro a member
      rw [behind a (others a member), List.idxOf_cons_self]
      exact Nat.succ_pos _
    · refine (ih.filter _).imp_of_mem fun {a b} isA isB before => ?_
      rw [behind a (others a isA), behind b (others b isB)]
      exact Nat.succ_lt_succ before

theorem filter_distinct {α : Type} [BEq α] [LawfulBEq α] (p : α → Bool) (xs : List α) :
    (distinct xs).filter p = distinct (xs.filter p) := by
  induction xs with
  | nil => rfl
  | cons a rest ih =>
    cases holds : p a with
    | true => simp only [distinct, List.filter_cons, holds, if_true, ← ih, List.filter_filter, Bool.and_comm]
    | false =>
      have other (b : α) : (p b && !(b == a)) = p b := by
        by_cases same : b = a <;> simp [same, holds]
      simp only [distinct, List.filter_cons, holds, Bool.false_eq_true, if_false, List.filter_filter, other, ih]

/-- Repetitions can be dropped before or after a function is applied. -/
theorem distinct_map_distinct {α β : Type} [BEq α] [LawfulBEq α] [BEq β] [LawfulBEq β] (f : α → β)
    (xs : List α) : distinct ((distinct xs).map f) = distinct (xs.map f) := by
  induction xs with
  | nil => rfl
  | cons a rest ih =>
    have others : (((distinct rest).filter fun b => !(b == a)).map f).filter (fun c => !(c == f a)) =
        ((distinct rest).map f).filter fun c => !(c == f a) := by
      rw [List.filter_map, List.filter_map, List.filter_filter]
      refine congrArg (List.map f) (List.filter_congr fun b _ => ?_)
      by_cases same : b = a <;> simp [same]
    simp only [distinct, List.map_cons]
    rw [filter_distinct, others, ← filter_distinct, ih]

end TagAudit

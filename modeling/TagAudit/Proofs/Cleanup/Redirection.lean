import Mathlib.Data.List.Forall2
import TagAudit.Cleanup.Optimize

namespace TagAudit

theorem forall₂_of_mapM {α β ε : Type} {f : α → Except ε β} {xs : List α} {ys : List β}
    (run : xs.mapM f = .ok ys) : List.Forall₂ (fun x y => f x = .ok y) xs ys := by
  induction xs generalizing ys with
  | nil =>
    cases run
    exact .nil
  | cons x rest ih =>
    rw [List.mapM_cons] at run
    obtain ⟨y, here, remaining⟩ := ok_of_bind run
    obtain ⟨zs, later, done⟩ := ok_of_bind remaining
    cases done
    exact .cons here (ih later)

theorem forall₂_of_mem_left {α β : Type} {R : α → β → Prop} {xs : List α} {ys : List β}
    (related : List.Forall₂ R xs ys) {x : α} (member : x ∈ xs) : ∃ y ∈ ys, R x y := by
  induction related with
  | nil => cases member
  | cons here _ ih =>
    rcases List.mem_cons.mp member with rfl | later
    · exact ⟨_, List.mem_cons_self, here⟩
    · obtain ⟨y, inside, holds⟩ := ih later
      exact ⟨y, List.mem_cons_of_mem _ inside, holds⟩

theorem forall₂_of_mem_right {α β : Type} {R : α → β → Prop} {xs : List α} {ys : List β}
    (related : List.Forall₂ R xs ys) {y : β} (member : y ∈ ys) : ∃ x ∈ xs, R x y := by
  obtain ⟨x, inside, holds⟩ := forall₂_of_mem_left related.flip member
  exact ⟨x, inside, holds⟩

theorem forall₂_forall_iff {α β : Type} {R : α → β → Prop} {P : α → Prop} {Q : β → Prop} {xs : List α} {ys : List β}
    (related : List.Forall₂ R xs ys) (same : ∀ x ∈ xs, ∀ y, R x y → (Q y ↔ P x)) :
    (∀ y ∈ ys, Q y) ↔ ∀ x ∈ xs, P x := by
  constructor
  · intro all x member
    obtain ⟨y, inside, holds⟩ := forall₂_of_mem_left related member
    exact (same x member y holds).mp (all y inside)
  · intro all y inside
    obtain ⟨x, member, holds⟩ := forall₂_of_mem_right related inside
    exact (same x member y holds).mpr (all x member)

theorem forall₂_exists_iff {α β : Type} {R : α → β → Prop} {P : α → Prop} {Q : β → Prop} {xs : List α} {ys : List β}
    (related : List.Forall₂ R xs ys) (same : ∀ x ∈ xs, ∀ y, R x y → (Q y ↔ P x)) :
    (∃ y ∈ ys, Q y) ↔ ∃ x ∈ xs, P x := by
  constructor
  · rintro ⟨y, inside, holds⟩
    obtain ⟨x, member, relates⟩ := forall₂_of_mem_right related inside
    exact ⟨x, member, (same x member y relates).mp holds⟩
  · rintro ⟨x, member, holds⟩
    obtain ⟨y, inside, relates⟩ := forall₂_of_mem_left related member
    exact ⟨y, inside, (same x member y relates).mpr holds⟩

theorem forall₂_pairwise_iff {α β : Type} {R : α → β → Prop} {S : β → β → Prop} {xs : List α} {ys : List β}
    (related : List.Forall₂ R xs ys) (single : ∀ x y z, R x y → R x z → y = z) :
    ys.Pairwise S ↔ xs.Pairwise fun a b => ∀ y z, R a y → R b z → S y z := by
  induction related with
  | nil => simp
  | @cons x y xs ys here later ih =>
    rw [List.pairwise_cons, List.pairwise_cons, ih]
    refine and_congr_left fun _ => forall₂_forall_iff later fun b _ z other => ?_
    refine ⟨fun holds y' z' first second => ?_, fun holds => holds y z here other⟩
    rwa [← single x y y' here first, ← single b z z' other second]

theorem Comparable.key_mem (kind : Comparable) : kind.key ∈ Cleanup.referringKeys := by
  cases kind <;> decide

theorem Comparable.key_injective {kind other : Comparable} (same : kind.key = other.key) : kind = other := by
  revert same
  cases kind <;> cases other <;> decide

namespace Cleanup

/-- The entries of an array of a version. -/
def itemsAt (version : List (String × Json)) (key : String) : List Json :=
  ((Json.lookup version key).getD .null).items

theorem itemsAt_of_no_list {version : List (String × Json)} {key : String}
    (noList : ∀ items, Json.lookup version key ≠ some (.arr items)) : itemsAt version key = [] := by
  unfold itemsAt
  cases found : Json.lookup version key with
  | none => rfl
  | some value =>
    cases value with
    | arr items => exact absurd found (noList items)
    | _ => rfl

/-- The entries before and after a change are related as the change relates them. -/
theorem changeItems_self {version v : List (String × Json)} {key : String}
    {change : List Json → Except Fault (List Json)} {R : List Json → List Json → Prop}
    (run : changeItems version key change = .ok v) (empty : R [] [])
    (changes : ∀ items changed, change items = .ok changed → R items changed) :
    R (itemsAt version key) (itemsAt v key) := by
  unfold changeItems at run
  split at run
  · rename_i items found
    obtain ⟨changed, done, assigned⟩ := ok_of_bind run
    cases assigned
    rw [itemsAt, itemsAt, found, Json.lookup_assign_self]
    exact changes items changed done
  · rename_i noList
    cases run
    rwa [itemsAt_of_no_list noList]

theorem changeItems_of_ne {version v : List (String × Json)} {key other : String}
    {change : List Json → Except Fault (List Json)} (run : changeItems version key change = .ok v)
    (ne : other ≠ key) : itemsAt v other = itemsAt version other := by
  unfold changeItems at run
  split at run
  · obtain ⟨changed, _, assigned⟩ := ok_of_bind run
    cases assigned
    rw [itemsAt, Json.lookup_assign_of_ne ne, itemsAt]
  · cases run
    rfl

theorem renameItems_eq {table : Text.Renames} {items renamed : List Json}
    (run : renameItems table items = .ok renamed) : renamed = items.map (Json.renameReferences table) := by
  unfold renameItems at run
  split at run
  · exact (Except.ok.inj run).symm
  · cases run

/-- Renaming in some arrays changes their entries and leaves the other arrays alone. -/
theorem renameAll_items {table : Text.Renames} {keys : List String} (nodup : keys.Nodup)
    {version v : List (String × Json)}
    (run : keys.foldlM (fun v key => changeItems v key (renameItems table)) version = .ok v) (key : String) :
    itemsAt v key = if key ∈ keys then (itemsAt version key).map (Json.renameReferences table)
      else itemsAt version key := by
  induction keys generalizing version with
  | nil =>
    cases run
    simp
  | cons first rest ih =>
    rw [List.nodup_cons] at nodup
    rw [List.foldlM_cons] at run
    obtain ⟨middle, here, later⟩ := ok_of_bind run
    rw [ih nodup.2 later]
    by_cases same : key = first
    · subst same
      rw [if_neg nodup.1, if_pos List.mem_cons_self]
      exact changeItems_self
        (R := fun items changed => changed = items.map (Json.renameReferences table)) here rfl
        fun _ _ done => renameItems_eq done
    · rw [changeItems_of_ne here same]
      simp only [List.mem_cons, same, false_or]

/-- One entry of an array of a version, with its references to what was removed redirected. -/
def redirectItem (triggers : List (String × String)) (table : Text.Renames) (kind : Comparable)
    (item : Json) : Except Fault Json :=
  match kind with
  | .tags => (remapTag triggers item).map (Json.renameReferences table)
  | _ => .ok (item.renameReferences table)

/-- Redirecting keeps all entries, in their order. -/
theorem redirect_items {version v : List (String × Json)} {triggers : List (String × String)}
    {renamed : List (Scalar × Json)} (run : redirect version triggers renamed = .ok v) :
    ∃ written, writtenRenames renamed = .ok written ∧ ∀ kind : Comparable,
      List.Forall₂ (fun old new => redirectItem triggers (renameTable written) kind old = .ok new)
        (itemsAt version kind.key) (itemsAt v kind.key) := by
  obtain ⟨remapped, tags, run⟩ := ok_of_bind run
  obtain ⟨written, texts, run⟩ := ok_of_bind run
  refine ⟨written, texts, fun kind => ?_⟩
  rw [renameAll_items (by decide) run, if_pos kind.key_mem, List.forall₂_map_right_iff]
  cases kind with
  | tags =>
    refine (changeItems_self (R := List.Forall₂ fun old new => remapTag triggers old = .ok new) tags .nil
      fun _ _ done => forall₂_of_mapM done).imp ?_
    intro old new remapped
    simp only [redirectItem, remapped, Except.map]
  | triggers =>
    rw [changeItems_of_ne tags (by decide)]
    exact List.forall₂_same.mpr fun _ _ => rfl
  | userVariables =>
    rw [changeItems_of_ne tags (by decide)]
    exact List.forall₂_same.mpr fun _ _ => rfl

/-- In all arrays but that of the tags only the references to variables are redirected. -/
theorem redirect_others {version v : List (String × Json)} {triggers : List (String × String)}
    {renamed : List (Scalar × Json)} (run : redirect version triggers renamed = .ok v) :
    ∃ written, writtenRenames renamed = .ok written ∧ ∀ key ∈ referringKeys, key ≠ "tag" →
      itemsAt v key = (itemsAt version key).map (Json.renameReferences (renameTable written)) := by
  obtain ⟨remapped, tags, run⟩ := ok_of_bind run
  obtain ⟨written, texts, run⟩ := ok_of_bind run
  refine ⟨written, texts, fun key referring notTag => ?_⟩
  rw [renameAll_items (by decide) run, if_pos referring, changeItems_of_ne tags notTag]

end Cleanup

end TagAudit

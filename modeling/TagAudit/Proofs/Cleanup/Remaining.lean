import TagAudit.Proofs.Cleanup.Members

namespace TagAudit

namespace Container

open Cleanup

/-- Whether an entity of the document is looked at. -/
def looksAt (c : Container) (kind : Kind) (e : Entity) : Bool :=
  !(e.get "liveOnly").holds && (kind != .tag || c.includePaused || !(e.get "paused").holds)

theorem regarded_eq (c : Container) (kind : Kind) :
    c.regarded kind = (c.objects kind.label).filter (c.looksAt kind) := by
  match kind with
  | .tag =>
    rw [regarded, tags, entities, List.filter_filter]
    exact List.filter_congr fun e _ => Bool.and_comm _ _
  | .trigger | .variable | .client =>
    exact List.filter_congr fun e _ => by simp [looksAt]

theorem entitiesOf_eq (c : Container) (kind : Comparable) : c.entitiesOf kind = c.regarded kind.asKind := by
  cases kind <;> rfl

theorem allOf_eq (c : Container) (kind : Comparable) : c.allOf kind = c.objects kind.asKind.label := by
  cases kind <;> rfl

theorem mem_entitiesOf {c : Container} {kind : Comparable} {e : Entity} :
    e ∈ c.entitiesOf kind ↔ e ∈ c.allOf kind ∧ c.looksAt kind.asKind e = true := by
  rw [entitiesOf_eq, regarded_eq, List.mem_filter, allOf_eq]

/-- What is left of the entities that are looked at when first the unused ones are removed and then the
duplicates, as they were before. -/
def remaining (c : Container) (kind : Kind) : List Entity := (c.left true kind).filter (c.looksAt kind)

theorem mem_base (c : Container) (kind : Comparable) {e : Entity} : e ∈ (c.base true).entities kind ↔
    e ∈ c.allOf kind ∧ e.idOf kind ∉ (unusedOf c kind).map (Entity.idOf kind) := by
  have items : (c.base true).items kind = (c.get kind.key).items.filter fun item =>
      !isNamed kind ((unusedOf c kind).map (Entity.idOf kind)) item := removeUnused_items _ c kind
  rw [Cleanup.entities, Entity.mem_filterMap_ofJson?, items, List.mem_filter, allOf, Entity.mem_filterMap_ofJson?]
  refine and_congr_right fun _ => ?_
  rw [Bool.not_eq_true', ← Bool.not_eq_true]
  exact not_congr List.contains_iff_mem

theorem objects_of_left (c : Container) {kind : Kind} {e : Entity} (member : e ∈ c.left true kind) :
    e ∈ c.objects kind.label := by
  have compared (comparable : Comparable) (present : e ∈ c.left true comparable.asKind) : e ∈ c.allOf comparable :=
    ((c.mem_base comparable).mp ((c.mem_left true comparable).mp present).1).1
  revert member
  match kind with
  | .tag => exact compared .tags
  | .trigger => exact compared .triggers
  | .variable => exact compared .userVariables
  | .client => exact fun member => c.left_clients true ▸ member

theorem mem_remaining {c : Container} (kind : Comparable) {e : Entity} :
    e ∈ c.remaining kind.asKind ↔ e ∈ c.left true kind.asKind ∧ e ∈ c.entitiesOf kind := by
  rw [remaining, List.mem_filter, mem_entitiesOf]
  refine and_congr_right fun member => ?_
  rw [allOf_eq]
  exact (and_iff_right (c.objects_of_left member)).symm

section

variable {c : Container} {kind : Comparable} (distinct : c.DistinctIds kind)
include distinct

theorem DistinctIds.mem_base {e : Entity} :
    e ∈ (c.base true).entities kind ↔ e ∈ c.allOf kind ∧ e ∉ unusedOf c kind := by
  rw [Container.mem_base]
  refine and_congr_right fun present => not_congr (distinct.idOf_mem_iff ?_ present)
  exact fun f unused => (c.unusedOf_sublist kind).subset unused

/-- Where identifiers are unique, exactly the unused entities and the duplicates of others are not left. -/
theorem DistinctIds.mem_left {e : Entity} : e ∈ c.left true kind.asKind ↔ e ∈ c.allOf kind ∧
    e ∉ unusedOf c kind ∧ ∀ p ∈ (c.base true).pairs c kind, p.duplicate ≠ e := by
  rw [Container.mem_left, distinct.mem_base, and_assoc]
  refine and_congr_right fun present => and_congr_right fun _ => ?_
  have duplicates : (((c.base true).pairs c kind).map fun p => p.duplicate.idOf kind) =
      (((c.base true).pairs c kind).map Pair.duplicate).map (Entity.idOf kind) := by
    rw [List.map_map]
    rfl
  rw [duplicates, distinct.idOf_mem_iff ?_ present]
  · simp
  · intro f removed
    obtain ⟨p, member, rfl⟩ := List.mem_map.mp removed
    exact (c.entitiesOf_sublist kind).subset (pair_of_mem member).2.1

/-- The first entity of a pair is left. -/
theorem DistinctIds.keep_remaining {p : Pair} (member : p ∈ (c.base true).pairs c kind) :
    p.keep ∈ c.remaining kind.asKind := by
  obtain ⟨ofKind, _⟩ := pair_of_mem member
  obtain ⟨rest, shape, _⟩ := mem_pairs member
  have present : p.keep ∈ (c.base true).present c kind (kind.signature p.keep) := shape ▸ List.mem_cons_self
  have there := List.contains_iff_mem.mp (List.mem_filter.mp present).2
  rw [distinct.idOf_mem_iff (fun f inside => (distinct.mem_base.mp inside).1)
    ((c.entitiesOf_sublist kind).subset ofKind)] at there
  obtain ⟨inAll, used⟩ := distinct.mem_base.mp there
  refine (mem_remaining kind).mpr ⟨distinct.mem_left.mpr ⟨inAll, used, fun q removed same => ?_⟩, ofKind⟩
  exact (coherent_pairs distinct (c.base true)).apart q removed p member (congrArg (Entity.idOf kind) same)

/-- What is kept in place of an entity that is used and looked at is left. -/
theorem DistinctIds.kept_remaining {e : Entity} (member : e ∈ c.entitiesOf kind) (used : e ∉ unusedOf c kind) :
    ∃ keep ∈ c.remaining kind.asKind,
      keep.idOf kind = kept (Entity.idOf kind) ((c.base true).pairs c kind) (e.idOf kind) := by
  have present := (c.entitiesOf_sublist kind).subset member
  by_cases removed : ∃ p ∈ (c.base true).pairs c kind, p.duplicate = e
  · obtain ⟨p, inside, rfl⟩ := removed
    exact ⟨p.keep, distinct.keep_remaining inside,
      ((coherent_pairs distinct (c.base true)).kept_of_mem inside).symm⟩
  · have single : ∀ p ∈ (c.base true).pairs c kind, p.duplicate ≠ e := fun p inside same =>
      removed ⟨p, inside, same⟩
    refine ⟨e, (mem_remaining kind).mpr ⟨distinct.mem_left.mpr ⟨present, used, single⟩, member⟩, ?_⟩
    refine (kept_of_not_mem fun p inside same => single p inside ?_).symm
    exact distinct.eq_of_idOf ((c.entitiesOf_sublist kind).subset (pair_of_mem inside).2.1) present same

end

/-- What a redirected entity is looked at for is not changed. -/
theorem looksAt_redirected {c optimized : Container} (sameFlag : optimized.includePaused = c.includePaused)
    {triggers : List (String × String)} {table : Text.Renames} {kind : Kind} {old new : Entity}
    (redirected : Redirected triggers table kind old new) : optimized.looksAt kind new = c.looksAt kind old := by
  rw [looksAt, redirected.get (by decide) (by decide), redirected.get (by decide) (by decide),
    Json.holds_renameReferences, Json.holds_renameReferences, sameFlag, looksAt]

/-- What is looked at in the cleaned document is what remains, with the references redirected. -/
theorem regarded_redirected {c optimized : Container} (sameFlag : optimized.includePaused = c.includePaused)
    {triggers : List (String × String)} {table : Text.Renames} {kind : Kind}
    (left : List.Forall₂ (Redirected triggers table kind) (c.left true kind) (optimized.objects kind.label)) :
    List.Forall₂ (Redirected triggers table kind) (c.remaining kind) (optimized.regarded kind) := by
  rw [remaining, regarded_eq]
  refine List.rel_filter ?_ left
  intro old new redirected
  exact Bool.eq_iff_iff.mp (looksAt_redirected sameFlag redirected).symm

end Container

end TagAudit

import Mathlib.Data.List.Nodup
import TagAudit.Cleanup.Optimize

namespace TagAudit

theorem Entity.mem_filterMap_ofJson? {items : List Json} {e : Entity} :
    e ∈ items.filterMap ofJson? ↔ e.toJson ∈ items := by
  rw [List.mem_filterMap]
  constructor
  · rintro ⟨item, member, read⟩
    cases item <;> cases read
    exact member
  · exact fun member => ⟨_, member, rfl⟩

namespace Container

/-- The objects of a kind in the document, also those that are not looked at. -/
def allOf (c : Container) (kind : Comparable) : List Entity :=
  (c.get kind.key).items.filterMap Entity.ofJson?

/-- The identifiers of the entities that come after another one of their signature. -/
def repeatedIds (c : Container) (kind : Comparable) : List String :=
  (c.duplicates kind).flatMap fun (_, group) => group.tail.map (Entity.idOf kind)

/-- The entities of a signature. -/
def group (c : Container) (kind : Comparable) (signature : String) : List Entity :=
  (c.entitiesOf kind).filter fun e => kind.signature e == signature

theorem mem_group {c : Container} {kind : Comparable} {signature : String} {e : Entity} :
    e ∈ c.group kind signature ↔ e ∈ c.entitiesOf kind ∧ kind.signature e = signature := by
  simp [group]

theorem entitiesOf_sublist (c : Container) (kind : Comparable) :
    (c.entitiesOf kind).Sublist (c.allOf kind) := by
  cases kind with
  | tags => exact List.filter_sublist.trans List.filter_sublist
  | triggers => exact List.filter_sublist
  | userVariables => exact List.filter_sublist

theorem mem_repeatedIds {c : Container} {kind : Comparable} {id : String} :
    id ∈ c.repeatedIds kind ↔ ∃ keep rest, (∃ e ∈ rest, e.idOf kind = id) ∧
      c.group kind (kind.signature keep) = keep :: rest := by
  simp only [repeatedIds, List.mem_flatMap, duplicates, List.mem_filter, decide_eq_true_eq, List.mem_map]
  constructor
  · rintro ⟨⟨signature, members⟩, ⟨grouped, _⟩, e, repeated, named⟩
    obtain ⟨_, rfl⟩ := mem_groupBy.mp grouped
    cases shape : c.group kind signature with
    | nil =>
      simp only [group] at shape
      simp [shape] at repeated
    | cons keep rest =>
      have first : keep ∈ c.group kind signature := shape ▸ List.mem_cons_self
      refine ⟨keep, rest, ⟨e, ?_, named⟩, ?_⟩
      · simp only [group] at shape
        simpa [shape] using repeated
      · rw [(mem_group.mp first).2, shape]
  · rintro ⟨keep, rest, ⟨e, repeated, named⟩, shape⟩
    have first : keep ∈ c.group kind (kind.signature keep) := shape ▸ List.mem_cons_self
    refine ⟨(kind.signature keep, c.group kind (kind.signature keep)), ⟨?_, ?_⟩, e, ?_, named⟩
    · exact mem_groupBy.mpr ⟨List.mem_map_of_mem (mem_group.mp first).1, rfl⟩
    · rw [shape, List.length_cons]
      have := List.length_pos_of_mem repeated
      omega
    · rw [shape]
      exact repeated

/-- No two objects of a kind share an identifier. -/
def DistinctIds (c : Container) (kind : Comparable) : Prop :=
  ((c.allOf kind).map (Entity.idOf kind)).Nodup

section

variable {c : Container} {kind : Comparable} (distinct : c.DistinctIds kind)
include distinct

theorem DistinctIds.eq_of_idOf {e f : Entity} (here : e ∈ c.allOf kind) (there : f ∈ c.allOf kind)
    (same : e.idOf kind = f.idOf kind) : e = f :=
  List.inj_on_of_nodup_map distinct here there same

/-- Identifiers are unique, so some entities are told from the others by their identifiers. -/
theorem DistinctIds.idOf_mem_iff {es : List Entity} (present : ∀ f ∈ es, f ∈ c.allOf kind) {e : Entity}
    (here : e ∈ c.allOf kind) : e.idOf kind ∈ es.map (Entity.idOf kind) ↔ e ∈ es := by
  refine ⟨fun shared => ?_, List.mem_map_of_mem⟩
  obtain ⟨f, member, same⟩ := List.mem_map.mp shared
  exact distinct.eq_of_idOf (present f member) here same ▸ member

theorem DistinctIds.group_nodup (signature : String) : (c.group kind signature).Nodup :=
  (List.Nodup.of_map _ distinct).sublist
    (List.filter_sublist.trans (c.entitiesOf_sublist kind))

theorem DistinctIds.first_not_repeated {keep : Entity} {rest : List Entity}
    (shape : c.group kind (kind.signature keep) = keep :: rest) :
    keep.idOf kind ∉ c.repeatedIds kind := by
  intro repeated
  obtain ⟨first, others, ⟨e, later, named⟩, groupOfFirst⟩ := mem_repeatedIds.mp repeated
  have inGroup : e ∈ c.group kind (kind.signature first) :=
    groupOfFirst ▸ List.mem_cons_of_mem _ later
  have keepInGroup : keep ∈ c.group kind (kind.signature keep) := shape ▸ List.mem_cons_self
  have here := (c.entitiesOf_sublist kind).subset (mem_group.mp inGroup).1
  have there := (c.entitiesOf_sublist kind).subset (mem_group.mp keepInGroup).1
  cases distinct.eq_of_idOf here there named
  -- Both lists are the group of one signature, so the first of the one would come later in itself.
  rw [(mem_group.mp inGroup).2, groupOfFirst] at shape
  obtain ⟨rfl, rfl⟩ := List.cons.inj shape
  have nodup := distinct.group_nodup (kind.signature first)
  rw [groupOfFirst, List.nodup_cons] at nodup
  exact nodup.1 later

/-- A repeated entity follows the one entity of its signature that is not repeated. -/
theorem DistinctIds.repeated_origin {e : Entity} (member : e ∈ c.allOf kind)
    (repeated : e.idOf kind ∈ c.repeatedIds kind) :
    e ∈ c.entitiesOf kind ∧ ∃ keep ∈ c.entitiesOf kind, kind.signature keep = kind.signature e ∧
      keep.idOf kind ∉ c.repeatedIds kind ∧
      ∀ s ∈ c.entitiesOf kind, s.idOf kind ∉ c.repeatedIds kind →
        kind.signature s = kind.signature e → s = keep := by
  obtain ⟨keep, rest, ⟨f, later, named⟩, shape⟩ := mem_repeatedIds.mp repeated
  have inGroup : f ∈ c.group kind (kind.signature keep) := shape ▸ List.mem_cons_of_mem _ later
  obtain ⟨present, signature⟩ := mem_group.mp inGroup
  cases distinct.eq_of_idOf ((c.entitiesOf_sublist kind).subset present) member named
  have keepInGroup : keep ∈ c.group kind (kind.signature keep) := shape ▸ List.mem_cons_self
  refine ⟨present, keep, (mem_group.mp keepInGroup).1, signature.symm, distinct.first_not_repeated shape, ?_⟩
  intro s ofKind single sameSignature
  have sInGroup : s ∈ c.group kind (kind.signature keep) :=
    mem_group.mpr ⟨ofKind, sameSignature.trans signature⟩
  rw [shape, List.mem_cons] at sInGroup
  rcases sInGroup with first | other
  · exact first
  · exact absurd (mem_repeatedIds.mpr ⟨keep, rest, ⟨s, other, rfl⟩, shape⟩) single

theorem DistinctIds.skipped_not_repeated {e : Entity} (member : e ∈ c.allOf kind)
    (skipped : e ∉ c.entitiesOf kind) : e.idOf kind ∉ c.repeatedIds kind :=
  fun repeated => skipped (distinct.repeated_origin member repeated).1

end

end Container

end TagAudit

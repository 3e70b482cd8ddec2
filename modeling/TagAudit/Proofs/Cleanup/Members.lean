import TagAudit.Proofs.Cleanup.Renamed

namespace TagAudit

namespace Entity

/-- The values by which a trigger group refers to its members. -/
def members (trigger : Entity) : List Json := (trigger.get "parameter").members

/-- The identifiers of the members of a trigger group. -/
def memberIds (trigger : Entity) : List String := Json.triggerReferences (trigger.get "parameter")

theorem memberIds_eq (trigger : Entity) : trigger.memberIds = trigger.members.map Json.text :=
  Json.triggerReferences_eq _

theorem mem_triggerIds {tag : Entity} {id : String} :
    id ∈ tag.triggerIds ↔ ∃ field ∈ Cleanup.triggerFields, ∃ value ∈ (tag.get field).items, value.text = id := by
  simp [triggerIds, Cleanup.triggerFields, or_and_right, exists_or]

end Entity

namespace Cleanup

section

variable {triggers : List (String × String)} {table : Text.Renames} {kind : Kind} {old new : Entity}
  (redirected : Redirected triggers table kind old new)
include redirected

theorem Redirected.id {key : String} (notValue : key ≠ "value") (notIds : key ∉ triggerFields)
    (plain : (old.get key).scalar?.isSome = true) : new.id key = old.id key := by
  rw [Entity.id, redirected.get notValue notIds, Json.renameReferences_of_scalar table plain, Entity.id]

/-- The members of a trigger group stay the same, whatever is removed. -/
theorem Redirected.memberIds (plain : ∀ value ∈ old.members, value.scalar?.isSome = true) :
    new.memberIds = old.memberIds := by
  have members : new.members = old.members.map (Json.renameReferences table) := by
    rw [Entity.members, redirected.get (by decide) (by decide)]
    exact Json.members_mapTemplates _ _
  have same : old.members.map (Json.renameReferences table) = old.members :=
    (List.map_congr_left fun value inside => Json.renameReferences_of_scalar table (plain value inside)).trans
      (List.map_id _)
  rw [Entity.memberIds_eq, members, same, Entity.memberIds_eq]

end

/-- A tag refers to what is kept in place of what it referred to. -/
theorem Redirected.triggerIds {pairs : List Pair} (coherent : Coherent (Entity.idOf .triggers) pairs)
    {table : Text.Renames} {old new : Entity} (redirected : Redirected (triggerRenames pairs) table .tag old new)
    {id : String} (refers : id ∈ new.triggerIds) :
    ∃ former ∈ old.triggerIds, id = kept (Entity.idOf .triggers) pairs former := by
  obtain ⟨field, member, value, inside, rfl⟩ := Entity.mem_triggerIds.mp refers
  obtain ⟨_, former, there, rfl⟩ := mem_of_mem_remapTriggers (redirected.remapped rfl member) inside
  exact ⟨former.text, Entity.mem_triggerIds.mpr ⟨field, member, former, there, rfl⟩,
    remapTrigger_text coherent former⟩

end Cleanup

namespace Container

open Cleanup

section

variable {c optimized : Container} {triggers : List (String × String)} {table : Text.Renames}
  (left : List.Forall₂ (Redirected triggers table .trigger) (c.left false .trigger) (optimized.objects "trigger"))
  (plain : ∀ t ∈ c.allOf .triggers, (t.get "triggerId").scalar?.isSome = true)
include left plain

/-- The identifiers that name a trigger of the cleaned document are those of the triggers that are no removed
duplicates. -/
theorem namesTrigger_iff {id : String} :
    optimized.NamesTrigger id ↔ c.NamesTrigger id ∧ id ∉ c.repeatedIds .triggers := by
  constructor
  · rintro ⟨t, present, rfl⟩
    obtain ⟨old, inside, redirected⟩ := forall₂_of_mem_right left present
    obtain ⟨member, unrepeated⟩ := survives_iff.mp ((mem_left_iff_survives _ .triggers).mp inside)
    rw [redirected.id (by decide) (by decide) (plain old member)]
    exact ⟨⟨old, member, rfl⟩, unrepeated⟩
  · rintro ⟨⟨old, member, rfl⟩, unrepeated⟩
    have survives : c.Survives .triggers old := survives_iff.mpr ⟨member, unrepeated⟩
    obtain ⟨t, present, redirected⟩ := forall₂_of_mem_left left ((mem_left_iff_survives _ .triggers).mpr survives)
    exact ⟨t, present, redirected.id (by decide) (by decide) (plain old member)⟩

end

/-- What is kept in place of an identifier that names a trigger is not removed. -/
theorem namesTrigger_kept {c : Container} (coherent : Coherent (Entity.idOf .triggers) (c.pairs .triggers))
    {id : String} (named : c.NamesTrigger id) :
    c.NamesTrigger (kept (Entity.idOf .triggers) (c.pairs .triggers) id) ∧
      kept (Entity.idOf .triggers) (c.pairs .triggers) id ∉ c.repeatedIds .triggers := by
  constructor
  · by_cases removed : ∃ p ∈ c.pairs .triggers, p.duplicate.idOf .triggers = id
    · obtain ⟨p, member, rfl⟩ := removed
      rw [coherent.kept_of_mem member]
      rw [← c.base_pairs .triggers] at member
      exact ⟨p.keep, (c.entitiesOf_sublist .triggers).subset (pair_of_mem member).1, rfl⟩
    · rwa [kept_of_not_mem fun p member same => removed ⟨p, member, same⟩]
  · rw [← pairs_ids]
    intro removed
    obtain ⟨p, member, same⟩ := List.mem_map.mp removed
    exact coherent.kept_ne member id same.symm

/-- Removing duplicates leaves no reference of a tag to a trigger dangling. The members of trigger groups are
not redirected, so a reference of a group is left dangling exactly if it is one to a removed duplicate. -/
theorem optimizedDocument_members {c : Container} {stamp : String} {document : List (String × Json)}
    (distinct : c.DistinctIds .triggers)
    (plain : ∀ t ∈ c.allOf .triggers, (t.get "triggerId").scalar?.isSome = true)
    (run : c.optimizedDocument (c.cleanUp false true) stamp = .ok document) (includePaused : Bool)
    (source : Option String) : ∃ optimized,
      Container.ofJson (.obj document) includePaused source = .ok optimized ∧
      List.Forall₂ (fun old new => ∀ id ∈ new.triggerIds, ∃ former ∈ old.triggerIds,
          id = kept (Entity.idOf .triggers) (c.pairs .triggers) former ∧
            (c.NamesTrigger former → optimized.NamesTrigger id))
        (c.left false .tag) (optimized.objects "tag") ∧
      List.Forall₂ (fun old new => (∀ value ∈ old.members, value.scalar?.isSome = true) →
          new.memberIds = old.memberIds ∧ ∀ id ∈ new.memberIds, c.NamesTrigger id →
            (optimized.NamesTrigger id ↔ id ∉ c.repeatedIds .triggers))
        (c.left false .trigger) (optimized.objects "trigger") := by
  obtain ⟨_, _, optimized, _, _, read, _, left⟩ := optimizedDocument_redirected run includePaused source
  have names : ∀ {id : String}, optimized.NamesTrigger id ↔ c.NamesTrigger id ∧ id ∉ c.repeatedIds .triggers :=
    namesTrigger_iff (left .trigger) plain
  have coherent := coherent_pairs distinct (c.base false)
  rw [c.base_pairs .triggers] at left coherent
  refine ⟨optimized, read, (left .tag).imp ?_, (left .trigger).imp ?_⟩
  · intro old new redirected id refers
    obtain ⟨former, there, same⟩ := redirected.triggerIds coherent refers
    refine ⟨former, there, same, fun named => ?_⟩
    rw [names, same]
    exact namesTrigger_kept coherent named
  · intro old new redirected members
    refine ⟨redirected.memberIds members, fun id _ named => ?_⟩
    rw [names]
    exact and_iff_right named

def plainTrigger (id name type : String) : Entity :=
  ⟨[("triggerId", .str id), ("name", .str name), ("type", .str type)]⟩

def triggerGroup (id name : String) (ids : List String) : Entity :=
  ⟨[("triggerId", .str id), ("name", .str name), ("type", "TRIGGER_GROUP"),
    ("parameter", .arr [.obj [("type", "LIST"), ("key", "triggerIds"),
      ("list", .arr (ids.map fun id => .obj [("type", "TRIGGER_REFERENCE"), ("value", .str id)]))]])]⟩

def clickTriggers : List Entity :=
  [plainTrigger "10" "All clicks" "CLICK", plainTrigger "11" "All clicks (copy)" "CLICK",
    plainTrigger "12" "All links" "LINK_CLICK", triggerGroup "13" "Click and link" ["11", "12"]]

/-- A container with a trigger, a copy of it, another one, and a group of the copy and the other one. -/
def grouped : Container :=
  ⟨[("containerVersion", .obj [("trigger", .arr (clickTriggers.map Entity.toJson))])],
    [("trigger", .arr (clickTriggers.map Entity.toJson))], true, none, rfl⟩

theorem grouped_allOf : grouped.allOf .triggers = clickTriggers := rfl

theorem grouped_distinct (kind : Comparable) : grouped.DistinctIds kind := by
  cases kind <;> (unfold DistinctIds; decide)

theorem grouped_plain : ∀ t ∈ grouped.allOf .triggers, (t.get "triggerId").scalar?.isSome = true := by
  decide

theorem grouped_repeated : grouped.repeatedIds .triggers = ["11"] := by decide +kernel

theorem exists_grouped_document :
    ∃ document, grouped.optimizedDocument (grouped.cleanUp false true) "7" = .ok document :=
  exists_optimizedDocument _ _ _ (fun _ member => nomatch (show _ ∈ [] from member))
    fun _ member => nomatch (show _ ∈ [] from member)

theorem group_left : triggerGroup "13" "Click and link" ["11", "12"] ∈ grouped.left false .trigger := by
  refine (mem_left_iff_survives _ .triggers).mpr (survives_iff.mpr ⟨?_, ?_⟩)
  · simp [grouped_allOf, clickTriggers]
  · rw [grouped_repeated]
    decide

theorem group_plain : ∀ value ∈ (triggerGroup "13" "Click and link" ["11", "12"]).members,
    value.scalar?.isSome = true := by
  decide

/-- Of the members of the group the trigger that is no copy is still there. -/
theorem grouped_names : grouped.DistinctIds .triggers ∧
    (∀ t ∈ grouped.allOf .triggers, (t.get "triggerId").scalar?.isSome = true) ∧ ∃ document optimized,
      grouped.optimizedDocument (grouped.cleanUp false true) "7" = .ok document ∧
      Container.ofJson (.obj document) true none = .ok optimized ∧
      ∃ group ∈ optimized.objects "trigger", "12" ∈ group.memberIds ∧ optimized.NamesTrigger "12" := by
  obtain ⟨document, run⟩ := exists_grouped_document
  obtain ⟨optimized, read, _, groups⟩ :=
    optimizedDocument_members (grouped_distinct .triggers) grouped_plain run true none
  obtain ⟨group, present, redirected⟩ := forall₂_of_mem_left groups group_left
  obtain ⟨same, names⟩ := redirected group_plain
  have refers : "12" ∈ group.memberIds := by
    rw [same]
    decide
  have named : grouped.NamesTrigger "12" :=
    ⟨plainTrigger "12" "All links" "LINK_CLICK", by simp [grouped_allOf, clickTriggers], rfl⟩
  refine ⟨grouped_distinct .triggers, grouped_plain, document, optimized, run, read, group, present, refers, ?_⟩
  refine (names "12" refers named).mpr ?_
  rw [grouped_repeated]
  decide

/-- The group still refers to the copy, which is gone. -/
theorem grouped_dangles : (∀ kind, grouped.DistinctIds kind) ∧ grouped.NamesTrigger "11" ∧
    ∃ document optimized,
      grouped.optimizedDocument (grouped.cleanUp false true) "7" = .ok document ∧
      Container.ofJson (.obj document) true none = .ok optimized ∧
      (∃ group ∈ optimized.objects "trigger", "11" ∈ group.memberIds) ∧ ¬ optimized.NamesTrigger "11" := by
  obtain ⟨document, run⟩ := exists_grouped_document
  obtain ⟨_, _, optimized, _, _, read, _, left⟩ := optimizedDocument_redirected run true none
  obtain ⟨group, present, redirected⟩ := forall₂_of_mem_left (left .trigger) group_left
  refine ⟨grouped_distinct, ⟨plainTrigger "11" "All clicks (copy)" "CLICK", ?_, rfl⟩,
    document, optimized, run, read, ⟨group, present, ?_⟩, ?_⟩
  · simp [grouped_allOf, clickTriggers]
  · rw [redirected.memberIds group_plain]
    decide
  · rw [namesTrigger_iff (left .trigger) grouped_plain, grouped_repeated]
    simp

end Container

end TagAudit

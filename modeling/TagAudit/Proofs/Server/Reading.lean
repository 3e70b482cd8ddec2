import Mathlib.Data.List.Count
import TagAudit.Proofs.Server.Soundness

namespace TagAudit

/-- Objects that are not marked `liveOnly` are all read. -/
theorem Container.entities_eq_map {α : Type} {c : Container} {key : String} {xs : List α}
    {entity : α → Entity} (read : c.get key = .arr (xs.map fun x => (entity x).toJson))
    (live : ∀ x, (entity x).get "liveOnly" = .null) : c.entities key = xs.map entity := by
  have objects : (xs.map fun x => (entity x).toJson).filterMap Entity.ofJson? = xs.map entity := by
    rw [List.filterMap_map, ← List.filterMap_eq_map]
    rfl
  rw [entities, read, Json.items, objects, List.filter_eq_self]
  intro e member
  obtain ⟨x, _, rfl⟩ := List.mem_map.mp member
  simp [live, Json.holds]

namespace Server

def ServerTag.entity (fingerprint : String) (t : ServerTag) : Entity :=
  Entity.ofJson (t.toJson fingerprint)

def EventTrigger.entity (fingerprint : String) (t : EventTrigger) : Entity :=
  Entity.ofJson (t.toJson fingerprint)

theorem ServerTag.toJson_eq (fingerprint : String) (t : ServerTag) :
    t.toJson fingerprint = (t.entity fingerprint).toJson := rfl

theorem EventTrigger.toJson_eq (fingerprint : String) (t : EventTrigger) :
    t.toJson fingerprint = (t.entity fingerprint).toJson := rfl

@[simp] theorem ServerTag.entity_name (fingerprint : String) (t : ServerTag) :
    (t.entity fingerprint).get "name" = .str t.name := by
  simp [entity, toJson, owned, Entity.ofJson, Entity.ofJson?, Entity.get, Entity.get?, Json.lookup]

@[simp] theorem ServerTag.entity_type (fingerprint : String) (t : ServerTag) :
    (t.entity fingerprint).type = t.type := by
  simp [entity, toJson, owned, Entity.type, Entity.ofJson, Entity.ofJson?, Entity.get, Entity.get?,
    Json.lookup]

@[simp] theorem ServerTag.entity_firingTriggerId (fingerprint : String) (t : ServerTag) :
    (t.entity fingerprint).get "firingTriggerId" = .arr [idJson t.trigger] := by
  simp [entity, toJson, owned, Entity.ofJson, Entity.ofJson?, Entity.get, Entity.get?, Json.lookup]

@[simp] theorem ServerTag.entity_liveOnly (fingerprint : String) (t : ServerTag) :
    (t.entity fingerprint).get "liveOnly" = .null := by
  cases folder : t.folder <;>
    simp [entity, toJson, owned, parentFolder, folder, Entity.ofJson, Entity.ofJson?, Entity.get,
      Entity.get?, Json.lookup]

@[simp] theorem ServerTag.entity_paused (fingerprint : String) (t : ServerTag) :
    (t.entity fingerprint).get "paused" = .null := by
  cases folder : t.folder <;>
    simp [entity, toJson, owned, parentFolder, folder, Entity.ofJson, Entity.ofJson?, Entity.get,
      Entity.get?, Json.lookup]

@[simp] theorem EventTrigger.entity_triggerId (fingerprint : String) (t : EventTrigger) :
    (t.entity fingerprint).get "triggerId" = idJson t.id := by
  simp [entity, toJson, owned, Entity.ofJson, Entity.ofJson?, Entity.get, Entity.get?, Json.lookup]

@[simp] theorem EventTrigger.entity_type (fingerprint : String) (t : EventTrigger) :
    (t.entity fingerprint).type = .str "CUSTOM_EVENT" := by
  simp [entity, toJson, owned, Entity.type, Entity.ofJson, Entity.ofJson?, Entity.get, Entity.get?,
    Json.lookup]

@[simp] theorem EventTrigger.entity_customEventFilter (fingerprint : String) (t : EventTrigger) :
    (t.entity fingerprint).get "customEventFilter" = .arr [t.eventCondition] := by
  simp [entity, toJson, owned, Entity.ofJson, Entity.ofJson?, Entity.get, Entity.get?, Json.lookup]

@[simp] theorem EventTrigger.entity_filter (fingerprint : String) (t : EventTrigger) :
    (t.entity fingerprint).get "filter" = .arr [condition "CONTAINS" "Client Name" t.client] := by
  simp [entity, toJson, owned, Entity.ofJson, Entity.ofJson?, Entity.get, Entity.get?, Json.lookup]

@[simp] theorem EventTrigger.entity_liveOnly (fingerprint : String) (t : EventTrigger) :
    (t.entity fingerprint).get "liveOnly" = .null := by
  simp [entity, toJson, owned, Entity.ofJson, Entity.ofJson?, Entity.get, Entity.get?, Json.lookup]

namespace Draft

variable (includePaused : Bool) (source : Option String) (fingerprint name exportTime : String)
  (d : Draft)

/-- The container that an export is read as. -/
def toContainer : Container where
  document := d.exportFields fingerprint name exportTime
  version := d.versionFields fingerprint name
  includePaused := includePaused
  source := source
  version_eq := rfl

theorem ofJson_toExport : Container.ofJson (d.toExport fingerprint name exportTime) includePaused source =
    .ok (d.toContainer includePaused source fingerprint name exportTime) := rfl

theorem toContainer_get_tag :
    (d.toContainer includePaused source fingerprint name exportTime).get "tag" =
      .arr (d.tags.map fun t => (t.entity fingerprint).toJson) := by
  simp [Container.get, toContainer, versionFields, Json.lookup, ServerTag.toJson_eq]

theorem toContainer_get_trigger :
    (d.toContainer includePaused source fingerprint name exportTime).get "trigger" =
      .arr (d.triggers.map fun t => (t.entity fingerprint).toJson) := by
  simp [Container.get, toContainer, versionFields, Json.lookup, EventTrigger.toJson_eq]

theorem toContainer_tags : (d.toContainer includePaused source fingerprint name exportTime).tags =
    d.tags.map (ServerTag.entity fingerprint) := by
  have read : (d.toContainer includePaused source fingerprint name exportTime).entities "tag" =
      d.tags.map (ServerTag.entity fingerprint) :=
    Container.entities_eq_map (d.toContainer_get_tag _ _ _ _ _) (ServerTag.entity_liveOnly fingerprint)
  rw [Container.tags, read, List.filter_eq_self]
  intro e member
  obtain ⟨t, _, rfl⟩ := List.mem_map.mp member
  simp [Json.holds]

theorem toContainer_triggers :
    (d.toContainer includePaused source fingerprint name exportTime).triggers =
      d.triggers.map (EventTrigger.entity fingerprint) :=
  Container.entities_eq_map (d.toContainer_get_trigger _ _ _ _ _)
    (EventTrigger.entity_liveOnly fingerprint)

theorem toContainer_triggerIds :
    (d.toContainer includePaused source fingerprint name exportTime).triggers.map (·.id "triggerId") =
      (d.triggers.map (·.id)).map fun id : Nat => Numeral.ofInt id := by
  rw [toContainer_triggers, List.map_map, List.map_map]
  refine List.map_congr_left fun t _ => ?_
  simp [Entity.id, idJson, Json.text]

/-- An identifier that is registered for an event is that of one trigger of the export. -/
theorem toContainer_triggerId_once {d : Draft} (sound : d.Sound) {event : String} {id : Nat}
    (registered : d.triggerFor? event = some id) :
    ((d.toContainer includePaused source fingerprint name exportTime).triggers.map
      (·.id "triggerId")).count (Numeral.ofInt id) = 1 := by
  have injective : Function.Injective fun id : Nat => Numeral.ofInt id := fun _ _ same =>
    Numeral.ofInt_natCast_injective same
  rw [toContainer_triggerIds, List.count_map_of_injective _ _ injective]
  exact sound.triggerFor?_once registered

/-- A tag that fires on a trigger of the draft is no unused tag of the export. -/
theorem toContainer_unusedTags {d : Draft} (sound : d.Sound) :
    (d.toContainer includePaused source fingerprint name exportTime).unusedTags = [] := by
  rw [Container.unusedTags, toContainer_tags, List.filter_eq_nil_iff]
  intro e member
  obtain ⟨t, ofDraft, rfl⟩ := List.mem_map.mp member
  have known : t.trigger ∈ d.triggers.map (·.id) :=
    List.count_pos_iff.mp (by rw [sound.tag_trigger_once t ofDraft]; exact Nat.one_pos)
  obtain ⟨trigger, present, same⟩ := List.mem_map.mp known
  have found : ((d.toContainer includePaused source fingerprint name exportTime).triggerById
      (Numeral.ofInt t.trigger)).isSome = true := by
    rw [Container.triggerById, Container.findById, toContainer_triggers, List.find?_isSome]
    refine ⟨trigger.entity fingerprint, List.mem_reverse.mpr (List.mem_map_of_mem present), ?_⟩
    simp [Entity.id, idJson, Json.text, Json.isNull, same]
  simp [Entity.firingIds, Json.items, idJson, Json.text, Container.isTriggerId, found]

end Draft

end Server

end TagAudit

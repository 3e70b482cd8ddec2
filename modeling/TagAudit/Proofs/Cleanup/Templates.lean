import Mathlib.Data.List.Basic
import TagAudit.Cleanup.Rename
import TagAudit.Proofs.Json.Objects

namespace TagAudit.Json

theorem lookup_mapTemplatesOfFields (change : String → String) (inTemplate : Bool)
    (fields : List (String × Json)) (key : String) :
    lookup (mapTemplatesOfFields change inTemplate fields) key =
      (lookup fields key).map fun value => changeField change inTemplate key (value.mapTemplates change) := by
  induction fields with
  | nil => rfl
  | cons entry rest ih =>
    obtain ⟨k, value⟩ := entry
    rw [mapTemplatesOfFields, lookup, lookup, ih]
    split
    · rename_i same
      subst same
      rfl
    · rfl

theorem changeField_of_ne {key : String} (ne : key ≠ "value") (change : String → String) (inTemplate : Bool)
    (value : Json) : changeField change inTemplate key value = value := by
  unfold changeField
  split
  · simp [ne]
  · rfl

/-- Only the field "value" of a template is changed in itself. -/
theorem lookup_mapTemplates_of_ne {key : String} (ne : key ≠ "value") (change : String → String)
    (inTemplate : Bool) (fields : List (String × Json)) :
    lookup (mapTemplatesOfFields change inTemplate fields) key =
      (lookup fields key).map (mapTemplates change) := by
  rw [lookup_mapTemplatesOfFields]
  exact congrArg (fun f => (lookup fields key).map f) (funext fun _ => changeField_of_ne ne _ _ _)

section

variable (change : String → String)

theorem isTemplate_mapTemplates (inTemplate : Bool) (fields : List (String × Json)) :
    isTemplate (mapTemplatesOfFields change inTemplate fields) = isTemplate fields := by
  unfold isTemplate
  rw [lookup_mapTemplates_of_ne (by decide)]
  cases lookup fields "type" with
  | none => rfl
  | some value => cases value <;> simp [mapTemplates]

theorem ownTemplate_mapTemplates (fields : List (String × Json)) :
    ownTemplate (mapTemplatesOfFields change (isTemplate fields) fields) = (ownTemplate fields).map change := by
  unfold ownTemplate
  rw [isTemplate_mapTemplates, lookup_mapTemplatesOfFields]
  cases lookup fields "value" with
  | none => rfl
  | some value =>
    cases value with
    | str s => cases template : isTemplate fields <;> simp [mapTemplates, changeField, text?]
    | _ => simp [mapTemplates, changeField, text?]

mutual

/-- Changing the values that may hold references changes each of them. -/
theorem templates_mapTemplates : ∀ value : Json,
    (value.mapTemplates change).templates = value.templates.map change
  | .arr items => by
    rw [mapTemplates, templates, templates, templatesOfItems_mapTemplates items]
  | .obj fields => by
    rw [mapTemplates, templates, templates, ownTemplate_mapTemplates, templatesOfFields_mapTemplates,
      List.map_append]
  | .null | .bool _ | .int _ | .float _ | .str _ => by simp [mapTemplates, templates]

theorem templatesOfItems_mapTemplates : ∀ items : List Json,
    templatesOfItems (mapTemplatesOfItems change items) = (templatesOfItems items).map change
  | [] => rfl
  | value :: rest => by
    rw [mapTemplatesOfItems, templatesOfItems, templatesOfItems, templates_mapTemplates value,
      templatesOfItems_mapTemplates rest, List.map_append]

theorem templatesOfFields_mapTemplates : ∀ (inTemplate : Bool) (fields : List (String × Json)),
    templatesOfFields (mapTemplatesOfFields change inTemplate fields) = (templatesOfFields fields).map change
  | _, [] => rfl
  | inTemplate, (key, value) :: rest => by
    have inner : (changeField change inTemplate key (value.mapTemplates change)).templates =
        (value.mapTemplates change).templates := by
      unfold changeField
      split
      · rename_i s same
        rw [same]
        split <;> simp [templates]
      · rfl
    rw [mapTemplatesOfFields, templatesOfFields, templatesOfFields, inner, templates_mapTemplates value,
      templatesOfFields_mapTemplates inTemplate rest, List.map_append]

end

end

theorem ownReferences_eq (fields : List (String × Json)) :
    ownReferences fields = (ownTemplate fields).flatMap Text.references := by
  unfold ownReferences ownTemplate
  cases lookup fields "value" with
  | none => cases isTemplate fields <;> rfl
  | some value =>
    cases value with
    | str s => cases isTemplate fields <;> simp [text?, textOrEmpty]
    | _ => cases isTemplate fields <;> rfl

theorem collects_templates : Collects ownTemplate templates templatesOfItems templatesOfFields where
  scalar value plain := by
    cases value with
    | arr items | obj fields => cases plain
    | _ => simp [templates]
  items _ := by rw [templates]
  fields _ := by rw [templates]
  no_items := rfl
  more_items _ _ := rfl
  no_fields := rfl
  more_fields _ _ _ := rfl

/-- References are read in the values that may hold them. -/
theorem references_eq (value : Json) : value.references = value.templates.flatMap Text.references := by
  rw [collects_references.eq_flatMap, collects_templates.eq_flatMap, List.flatMap_assoc]
  exact List.flatMap_congr fun fields _ => ownReferences_eq fields

/-- The value by which a node refers to a trigger. -/
def ownMember (fields : List (String × Json)) : List Json :=
  let value := (lookup fields "value").getD null
  let type := (lookup fields "type").getD null
  if type.isOneOf ["triggerReference", "TRIGGER_REFERENCE"] && !value.isNull then [value] else []

mutual

/-- The values by which a parameter tree refers to triggers. -/
def members : Json → List Json
  | arr items => membersOfItems items
  | obj fields => ownMember fields ++ membersOfFields fields
  | _ => []

def membersOfItems : List Json → List Json
  | [] => []
  | value :: rest => members value ++ membersOfItems rest

def membersOfFields : List (String × Json) → List Json
  | [] => []
  | (_, value) :: rest => members value ++ membersOfFields rest

end

theorem collects_members : Collects ownMember members membersOfItems membersOfFields where
  scalar value plain := by
    cases value with
    | arr items | obj fields => cases plain
    | _ => simp [members]
  items _ := by rw [members]
  fields _ := by rw [members]
  no_items := rfl
  more_items _ _ := rfl
  no_fields := rfl
  more_fields _ _ _ := rfl

theorem triggerReferences_eq (value : Json) : value.triggerReferences = value.members.map text := by
  have own (fields : List (String × Json)) : ownTriggerReference fields = (ownMember fields).map text := by
    unfold ownTriggerReference ownMember
    dsimp only
    split <;> rfl
  rw [collects_triggerReferences.eq_flatMap, collects_members.eq_flatMap, List.map_flatMap]
  exact List.flatMap_congr fun fields _ => own fields

section

variable (change : String → String)

theorem isOneOf_mapTemplates (value : Json) (texts : List String) :
    (value.mapTemplates change).isOneOf texts = value.isOneOf texts := by
  cases value <;> simp [mapTemplates, isOneOf]

theorem isNull_mapTemplates (value : Json) : (value.mapTemplates change).isNull = value.isNull := by
  cases value <;> simp [mapTemplates, isNull]

theorem isTemplate_of_isOneOf {fields : List (String × Json)} (refers : ((lookup fields "type").getD null).isOneOf
    ["triggerReference", "TRIGGER_REFERENCE"] = true) : isTemplate fields = false := by
  unfold isTemplate
  cases found : lookup fields "type" with
  | none => rfl
  | some value =>
    rw [found] at refers
    cases value with
    | str s =>
      simp only [Option.getD_some, isOneOf, List.contains_cons, List.contains_nil, Bool.or_false, Bool.or_eq_true,
        beq_iff_eq] at refers
      rcases refers with rfl | rfl <;> decide +kernel
    | _ => rfl

theorem ownMember_mapTemplates (fields : List (String × Json)) :
    ownMember (mapTemplatesOfFields change (isTemplate fields) fields) =
      (ownMember fields).map (mapTemplates change) := by
  have type : ((lookup (mapTemplatesOfFields change (isTemplate fields) fields) "type").getD null).isOneOf
      ["triggerReference", "TRIGGER_REFERENCE"] =
      ((lookup fields "type").getD null).isOneOf ["triggerReference", "TRIGGER_REFERENCE"] := by
    rw [lookup_mapTemplates_of_ne (by decide)]
    cases lookup fields "type" with
    | none => rfl
    | some value => exact isOneOf_mapTemplates change value _
  unfold ownMember
  dsimp only
  rw [type, lookup_mapTemplatesOfFields]
  cases refers : ((lookup fields "type").getD null).isOneOf ["triggerReference", "TRIGGER_REFERENCE"] with
  | false => rfl
  | true =>
    rw [isTemplate_of_isOneOf refers]
    cases lookup fields "value" with
    | none => rfl
    | some value =>
      have kept : changeField change false "value" (value.mapTemplates change) = value.mapTemplates change := by
        unfold changeField
        split <;> rfl
      rw [Option.map_some, Option.getD_some, Option.getD_some, kept, isNull_mapTemplates]
      split <;> rfl

mutual

/-- Changing templates changes what stands inside a value that refers to a trigger, and nothing else about
what refers to triggers. -/
theorem members_mapTemplates : ∀ value : Json,
    (value.mapTemplates change).members = value.members.map (mapTemplates change)
  | .arr items => by rw [mapTemplates, members, members, membersOfItems_mapTemplates items]
  | .obj fields => by
    rw [mapTemplates, members, members, ownMember_mapTemplates, membersOfFields_mapTemplates, List.map_append]
  | .null | .bool _ | .int _ | .float _ | .str _ => by simp [mapTemplates, members]

theorem membersOfItems_mapTemplates : ∀ items : List Json,
    membersOfItems (mapTemplatesOfItems change items) = (membersOfItems items).map (mapTemplates change)
  | [] => rfl
  | value :: rest => by
    rw [mapTemplatesOfItems, membersOfItems, membersOfItems, members_mapTemplates value,
      membersOfItems_mapTemplates rest, List.map_append]

theorem membersOfFields_mapTemplates : ∀ (inTemplate : Bool) (fields : List (String × Json)),
    membersOfFields (mapTemplatesOfFields change inTemplate fields) =
      (membersOfFields fields).map (mapTemplates change)
  | _, [] => rfl
  | inTemplate, (key, value) :: rest => by
    have inner : (changeField change inTemplate key (value.mapTemplates change)).members =
        (value.mapTemplates change).members := by
      unfold changeField
      split
      · rename_i s same
        rw [same]
        split <;> simp [members]
      · rfl
    rw [mapTemplatesOfFields, membersOfFields, membersOfFields, inner, members_mapTemplates value,
      membersOfFields_mapTemplates inTemplate rest, List.map_append]

end

end

section

variable (renames : Text.Renames)

/-- What is no list and no object has no references inside. -/
theorem renameReferences_of_scalar {value : Json} (plain : value.scalar?.isSome = true) :
    value.renameReferences renames = value := by
  cases value with
  | arr items => cases plain
  | obj fields => cases plain
  | _ => simp [renameReferences, mapTemplates]

theorem mapTemplatesOfItems_eq (change : String → String) (items : List Json) :
    mapTemplatesOfItems change items = items.map (mapTemplates change) := by
  induction items with
  | nil => rfl
  | cons value rest ih => rw [mapTemplatesOfItems, ih, List.map_cons]

theorem items_renameReferences (value : Json) :
    (value.renameReferences renames).items = value.items.map (renameReferences renames) := by
  cases value with
  | arr items => exact mapTemplatesOfItems_eq _ items
  | _ => simp [renameReferences, mapTemplates, items]

theorem isEmpty_mapTemplatesOfFields (change : String → String) (inTemplate : Bool)
    (fields : List (String × Json)) :
    (mapTemplatesOfFields change inTemplate fields).isEmpty = fields.isEmpty := by
  cases fields <;> rfl

theorem holds_renameReferences (value : Json) : (value.renameReferences renames).holds = value.holds := by
  unfold renameReferences
  cases value with
  | arr items => simp [mapTemplates, holds, mapTemplatesOfItems_eq]
  | obj fields => simp [mapTemplates, holds, isEmpty_mapTemplatesOfFields]
  | _ => simp [mapTemplates]

theorem textOrEmpty_renameReferences (value : Json) :
    (value.renameReferences renames).textOrEmpty = value.textOrEmpty := by
  unfold renameReferences
  cases value <;> simp [mapTemplates, textOrEmpty]

end

end TagAudit.Json

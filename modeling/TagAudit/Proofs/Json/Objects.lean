import TagAudit.Container.Reference

namespace TagAudit.Json

/-- A value stands in another one: it is this value itself, or stands in an item of a list or in a field of an
object. -/
inductive StandsIn (part : Json) : Json → Prop
  | self : StandsIn part part
  | item {items : List Json} {value : Json} :
      value ∈ items → StandsIn part value → StandsIn part (.arr items)
  | field {fields : List (String × Json)} {key : String} {value : Json} :
      (key, value) ∈ fields → StandsIn part value → StandsIn part (.obj fields)

mutual

/-- The objects that stand in a value in pre-order: each before those in its fields, items and fields from the
first to the last. -/
def objects : Json → List (List (String × Json))
  | arr items => objectsOfItems items
  | obj fields => fields :: objectsOfFields fields
  | _ => []

def objectsOfItems : List Json → List (List (String × Json))
  | [] => []
  | value :: rest => objects value ++ objectsOfItems rest

def objectsOfFields : List (String × Json) → List (List (String × Json))
  | [] => []
  | (_, value) :: rest => objects value ++ objectsOfFields rest

end

theorem objectsOfItems_eq (items : List Json) : objectsOfItems items = items.flatMap objects := by
  induction items with
  | nil => rfl
  | cons value rest ih => rw [objectsOfItems, ih, List.flatMap_cons]

theorem objectsOfFields_eq (fields : List (String × Json)) :
    objectsOfFields fields = fields.flatMap fun entry => entry.2.objects := by
  induction fields with
  | nil => rfl
  | cons entry rest ih =>
    obtain ⟨key, value⟩ := entry
    rw [objectsOfFields, ih, List.flatMap_cons]

theorem objects_arr (items : List Json) : (arr items).objects = items.flatMap objects := by
  rw [objects, objectsOfItems_eq]

theorem objects_obj (fields : List (String × Json)) :
    (obj fields).objects = fields :: fields.flatMap fun entry => entry.2.objects := by
  rw [objects, objectsOfFields_eq]

mutual

theorem standsIn_of_mem_objects {fields : List (String × Json)} : ∀ value : Json,
    fields ∈ value.objects → StandsIn (.obj fields) value
  | .arr items, member => by
    rw [objects] at member
    obtain ⟨value, isItem, inside⟩ := standsIn_of_mem_objectsOfItems items member
    exact .item isItem inside
  | .obj entries, member => by
    rw [objects] at member
    rcases List.mem_cons.mp member with same | deeper
    · rw [same]
      exact .self
    · obtain ⟨key, value, isField, inside⟩ := standsIn_of_mem_objectsOfFields entries deeper
      exact .field isField inside
  | .null, member | .bool _, member | .int _, member | .float _, member | .str _, member => by
    simp [objects] at member

theorem standsIn_of_mem_objectsOfItems {fields : List (String × Json)} : ∀ items : List Json,
    fields ∈ objectsOfItems items → ∃ value ∈ items, StandsIn (.obj fields) value
  | [], member => by simp [objectsOfItems] at member
  | first :: rest, member => by
    rw [objectsOfItems] at member
    rcases List.mem_append.mp member with here | later
    · exact ⟨first, List.mem_cons_self, standsIn_of_mem_objects first here⟩
    · obtain ⟨value, isItem, inside⟩ := standsIn_of_mem_objectsOfItems rest later
      exact ⟨value, List.mem_cons_of_mem _ isItem, inside⟩

theorem standsIn_of_mem_objectsOfFields {fields : List (String × Json)} : ∀ entries : List (String × Json),
    fields ∈ objectsOfFields entries → ∃ key value, (key, value) ∈ entries ∧ StandsIn (.obj fields) value
  | [], member => by simp [objectsOfFields] at member
  | (key, first) :: rest, member => by
    rw [objectsOfFields] at member
    rcases List.mem_append.mp member with here | later
    · exact ⟨key, first, List.mem_cons_self, standsIn_of_mem_objects first here⟩
    · obtain ⟨other, value, isField, inside⟩ := standsIn_of_mem_objectsOfFields rest later
      exact ⟨other, value, List.mem_cons_of_mem _ isField, inside⟩

end

/-- The walk comes to exactly the objects that stand in the value, at whatever depth. -/
theorem mem_objects {fields : List (String × Json)} {value : Json} :
    fields ∈ value.objects ↔ StandsIn (.obj fields) value := by
  refine ⟨standsIn_of_mem_objects value, fun inside => ?_⟩
  induction inside with
  | self =>
    rw [objects_obj]
    exact List.mem_cons_self
  | item isItem _ ih =>
    rw [objects_arr]
    exact List.mem_flatMap.mpr ⟨_, isItem, ih⟩
  | field isField _ ih =>
    rw [objects_obj]
    exact List.mem_cons_of_mem _ (List.mem_flatMap.mpr ⟨_, isField, ih⟩)

/-- A function collects from a value what its objects hold themselves, in pre-order; the other two do so for the
items of a list and for the fields of an object. -/
structure Collects {α : Type} (own : List (String × Json) → List α) (collect : Json → List α)
    (ofItems : List Json → List α) (ofFields : List (String × Json) → List α) : Prop where
  scalar : ∀ value : Json, value.scalar?.isSome = true → collect value = []
  items : ∀ items, collect (.arr items) = ofItems items
  fields : ∀ fields, collect (.obj fields) = own fields ++ ofFields fields
  no_items : ofItems [] = []
  more_items : ∀ value rest, ofItems (value :: rest) = collect value ++ ofItems rest
  no_fields : ofFields [] = []
  more_fields : ∀ key value rest, ofFields ((key, value) :: rest) = collect value ++ ofFields rest

section

variable {α : Type} {own : List (String × Json) → List α} {collect : Json → List α}
  {ofItems : List Json → List α} {ofFields : List (String × Json) → List α}

mutual

theorem Collects.eq_flatMap (collects : Collects own collect ofItems ofFields) : ∀ value : Json,
    collect value = value.objects.flatMap own
  | .arr items => by rw [collects.items, objects, collects.ofItems_eq_flatMap items]
  | .obj fields => by
    rw [collects.fields, objects, List.flatMap_cons, collects.ofFields_eq_flatMap fields]
  | .null | .bool _ | .int _ | .float _ | .str _ => by
    rw [collects.scalar _ rfl]
    simp [objects]

theorem Collects.ofItems_eq_flatMap (collects : Collects own collect ofItems ofFields) : ∀ items : List Json,
    ofItems items = (objectsOfItems items).flatMap own
  | [] => collects.no_items
  | value :: rest => by
    rw [collects.more_items, objectsOfItems, List.flatMap_append, collects.eq_flatMap value,
      collects.ofItems_eq_flatMap rest]

theorem Collects.ofFields_eq_flatMap (collects : Collects own collect ofItems ofFields) :
    ∀ fields : List (String × Json), ofFields fields = (objectsOfFields fields).flatMap own
  | [] => collects.no_fields
  | (key, value) :: rest => by
    rw [collects.more_fields, objectsOfFields, List.flatMap_append, collects.eq_flatMap value,
      collects.ofFields_eq_flatMap rest]

end

end

theorem collects_references : Collects ownReferences references referencesOfItems referencesOfFields where
  scalar value plain := by
    cases value with
    | arr items | obj fields => cases plain
    | _ => simp [references]
  items _ := by rw [references]
  fields _ := by rw [references]
  no_items := rfl
  more_items _ _ := rfl
  no_fields := rfl
  more_fields _ _ _ := rfl

theorem collects_triggerReferences :
    Collects ownTriggerReference triggerReferences triggerReferencesOfItems triggerReferencesOfFields where
  scalar value plain := by
    cases value with
    | arr items | obj fields => cases plain
    | _ => simp [triggerReferences]
  items _ := by rw [triggerReferences]
  fields _ := by rw [triggerReferences]
  no_items := rfl
  more_items _ _ := rfl
  no_fields := rfl
  more_fields _ _ _ := rfl

end TagAudit.Json

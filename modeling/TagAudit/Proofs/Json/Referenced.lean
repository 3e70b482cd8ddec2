import TagAudit.Proofs.Cleanup.Templates

namespace TagAudit.Json

/-- The names that the templates in a value reference, template by template in the pre-order of the objects. -/
def namesInOrder (value : Json) : List String := (value.objects.flatMap ownTemplate).flatMap Text.references

/-- An object is a template whose text references a name. -/
def RefersTo (fields : List (String × Json)) (name : String) : Prop :=
  ∃ type text, lookup fields "type" = some (.str type) ∧ Text.lower type = "template" ∧
    lookup fields "value" = some (.str text) ∧ name ∈ Text.references text

/-- An object refers to a trigger by its identifier. -/
def RefersToTrigger (fields : List (String × Json)) (id : String) : Prop :=
  ∃ type value, lookup fields "type" = some (.str type) ∧
    (type = "triggerReference" ∨ type = "TRIGGER_REFERENCE") ∧
    lookup fields "value" = some value ∧ value.isNull = false ∧ value.text = id

theorem isTemplate_iff {fields : List (String × Json)} : isTemplate fields = true ↔
    ∃ type, lookup fields "type" = some (.str type) ∧ Text.lower type = "template" := by
  unfold isTemplate
  split
  · rename_i type found
    simp [found]
  · rename_i other
    constructor
    · intro impossible
      cases impossible
    · rintro ⟨type, found, _⟩
      exact absurd found (other type)

theorem mem_ownTemplate {fields : List (String × Json)} {text : String} :
    text ∈ ownTemplate fields ↔ isTemplate fields = true ∧ lookup fields "value" = some (.str text) := by
  unfold ownTemplate
  cases lookup fields "value" with
  | none => simp
  | some value =>
    cases value with
    | str s => cases isTemplate fields <;> simp [text?, eq_comm]
    | _ => simp [text?]

theorem references_eq_namesInOrder (value : Json) : value.references = value.namesInOrder := by
  rw [references_eq, collects_templates.eq_flatMap, namesInOrder]

theorem mem_references_iff {value : Json} {name : String} :
    name ∈ value.references ↔ ∃ fields, StandsIn (.obj fields) value ∧ RefersTo fields name := by
  rw [references_eq_namesInOrder, namesInOrder, List.mem_flatMap]
  constructor
  · rintro ⟨text, isText, referenced⟩
    obtain ⟨fields, inside, ofObject⟩ := List.mem_flatMap.mp isText
    obtain ⟨isTemplate, isValue⟩ := mem_ownTemplate.mp ofObject
    obtain ⟨type, isType, lower⟩ := isTemplate_iff.mp isTemplate
    exact ⟨fields, mem_objects.mp inside, type, text, isType, lower, isValue, referenced⟩
  · rintro ⟨fields, inside, type, text, isType, lower, isValue, referenced⟩
    have ofObject := mem_ownTemplate.mpr ⟨isTemplate_iff.mpr ⟨type, isType, lower⟩, isValue⟩
    exact ⟨text, List.mem_flatMap.mpr ⟨fields, mem_objects.mpr inside, ofObject⟩, referenced⟩

theorem isOneOf_iff {value : Json} {texts : List String} :
    value.isOneOf texts = true ↔ ∃ s ∈ texts, value = .str s := by
  cases value <;> simp [isOneOf]

theorem mem_ownTriggerReference {fields : List (String × Json)} {id : String} :
    id ∈ ownTriggerReference fields ↔ RefersToTrigger fields id := by
  unfold ownTriggerReference
  dsimp only
  constructor
  · intro member
    split at member
    · rename_i refers
      obtain ⟨isReference, present⟩ := Bool.and_eq_true_iff.mp refers
      obtain ⟨type, isOne, written⟩ := isOneOf_iff.mp isReference
      have isType : lookup fields "type" = some (.str type) := by
        cases found : lookup fields "type" with
        | none => simp [found] at written
        | some value => simpa [found] using written
      cases found : lookup fields "value" with
      | none => simp [found, isNull] at present
      | some value =>
        rw [found, Option.getD_some] at present member
        exact ⟨type, value, isType, by simpa using isOne, found, by simpa using present,
          (List.mem_singleton.mp member).symm⟩
    · cases member
  · rintro ⟨type, value, isType, isOne, found, present, rfl⟩
    have isReference : (Json.str type).isOneOf ["triggerReference", "TRIGGER_REFERENCE"] = true :=
      isOneOf_iff.mpr ⟨type, by simpa using isOne, rfl⟩
    rw [isType, found, Option.getD_some, Option.getD_some, isReference, present]
    exact List.mem_singleton_self _

theorem mem_triggerReferences_iff {value : Json} {id : String} :
    id ∈ value.triggerReferences ↔ ∃ fields, StandsIn (.obj fields) value ∧ RefersToTrigger fields id := by
  rw [collects_triggerReferences.eq_flatMap, List.mem_flatMap]
  exact exists_congr fun fields => and_congr mem_objects mem_ownTriggerReference

/-- The names referenced in a value are those that the templates in it reference, whatever their depth. Each is
listed once, in the order in which a walk through the value comes to the names first. -/
theorem distinct_references (value : Json) :
    (distinct value.references).Nodup ∧
    (∀ name, name ∈ distinct value.references ↔
      ∃ fields, StandsIn (.obj fields) value ∧ RefersTo fields name) ∧
    (distinct value.references).Pairwise fun a b => value.namesInOrder.idxOf a < value.namesInOrder.idxOf b := by
  refine ⟨distinct_nodup _, fun name => ?_, ?_⟩
  · rw [mem_distinct, mem_references_iff]
  · rw [references_eq_namesInOrder]
    exact pairwise_distinct _

end TagAudit.Json

import TagAudit.Proofs.Server.VendorTemplates
import TagAudit.Proofs.Text.Plain

namespace TagAudit

theorem Json.referencesOfItems_eq_flatMap (items : List Json) :
    referencesOfItems items = items.flatMap references := by
  induction items with
  | nil => rfl
  | cons value rest ih => rw [referencesOfItems, ih, List.flatMap_cons]

/-- The names that an entity references, use by use. -/
def Entity.mentions (kind : Kind) (e : Entity) : List String := Json.references (.arr (kind.scannedFields.map e.get))

namespace Container

/-- A name is that of a variable of the container, of a built-in variable that is listed, or an internal one. -/
def knows (c : Container) (name : String) : Bool :=
  (c.userVariables ++ c.builtInVariables).any (fun v => (v.get "name").isStr name) || Text.startsWith name "_"

/-- Every reference in the container is to a name that it knows. -/
def Closed (c : Container) : Prop := ∀ r ∈ c.references, c.knows r.target = true

theorem closed_iff {c : Container} : c.Closed ↔
    (∀ t ∈ c.tags, ∀ name ∈ t.mentions .tag, c.knows name = true) ∧
      (∀ t ∈ c.triggers, ∀ name ∈ t.mentions .trigger, c.knows name = true) ∧
      (∀ v ∈ c.userVariables, ∀ name ∈ v.mentions .variable, c.knows name = true) ∧
      ∀ e ∈ c.clients, ∀ name ∈ e.mentions .client, c.knows name = true := by
  have made (kind : Kind) (e : Entity) : (∀ r ∈ Reference.ofEntity kind e, c.knows r.target = true) ↔
      ∀ name ∈ e.mentions kind, c.knows name = true := by
    simp only [Reference.ofEntity, List.forall_mem_map, Entity.references, mem_distinct, Entity.mentions]
  simp only [Closed, references, List.forall_mem_append, List.forall_mem_flatMap, made, and_assoc]

end Container

namespace Server

theorem references_templateParameter (key value : String) :
    (templateParameter key value).references = Text.references value := by
  have template : (Text.lower "TEMPLATE" == "template") = true := by decide
  simp [templateParameter, Json.references, Json.referencesOfFields, Json.ownReferences, Json.isTemplate, Json.lookup,
    template, Json.textOrEmpty]

theorem references_booleanParameter (key value : String) : (booleanParameter key value).references = [] := by
  have boolean : (Text.lower "BOOLEAN" == "template") = false := by decide
  simp [booleanParameter, Json.references, Json.referencesOfFields, Json.ownReferences, Json.isTemplate, Json.lookup,
    boolean]

theorem references_condition (type subject value : String) : (condition type subject value).references =
    Text.references (Text.reference subject) ++ Text.references value := by
  have noValue : Text.references Json.null.textOrEmpty = [] := by decide
  simp [condition, Json.references, Json.referencesOfFields, Json.referencesOfItems, Json.ownReferences, Json.lookup,
    references_templateParameter, noValue]

theorem Parameter.references_toJson (p : Parameter) : p.toJson.references = Text.references p.filling.value := by
  cases filling : p.filling with
  | switch on =>
    have plain : Text.references (Filling.switch on).value = [] := by
      cases on <;> decide
    rw [toJson, filling, plain]
    exact references_booleanParameter _ _
  | _ =>
    rw [toJson, filling]
    exact references_templateParameter _ _

theorem ServerTag.entity_mentions (fingerprint : String) (t : ServerTag) :
    (t.entity fingerprint).mentions .tag = t.parameters.flatMap fun p => Text.references p.filling.value := by
  have parameters : (t.entity fingerprint).get "parameter" = .arr (t.parameters.map Parameter.toJson) := by
    simp [entity, toJson, owned, Entity.ofJson, Entity.ofJson?, Entity.get, Entity.get?, Json.lookup]
  rw [Entity.mentions, Kind.scannedFields, List.map_singleton, parameters]
  simp [Json.references, Json.referencesOfItems_eq_flatMap, List.flatMap_map, Parameter.references_toJson]

theorem EventTrigger.references_eventCondition (t : EventTrigger) :
    t.eventCondition.references = "_event" :: Text.references (t.event.getD ".*") := by
  have subject : Text.references (Text.reference "_event") = ["_event"] := by decide
  unfold eventCondition
  split
  · rename_i event found
    rw [references_condition, subject, found]
    rfl
  · rename_i found
    rw [references_condition, subject, found]
    rfl

theorem EventTrigger.entity_mentions (fingerprint : String) (t : EventTrigger) :
    (t.entity fingerprint).mentions .trigger =
      ("Client Name" :: Text.references t.client) ++ ("_event" :: Text.references (t.event.getD ".*")) := by
  have subject : Text.references (Text.reference "Client Name") = ["Client Name"] := by decide
  have parameter : (t.entity fingerprint).get "parameter" = .null := by
    simp [entity, toJson, owned, Entity.ofJson, Entity.ofJson?, Entity.get, Entity.get?, Json.lookup]
  have autoEventFilter : (t.entity fingerprint).get "autoEventFilter" = .null := by
    simp [entity, toJson, owned, Entity.ofJson, Entity.ofJson?, Entity.get, Entity.get?, Json.lookup]
  simp [Entity.mentions, Kind.scannedFields, filterFields, parameter, autoEventFilter, Json.references,
    Json.referencesOfItems_eq_flatMap, references_condition, subject, EventTrigger.references_eventCondition]

theorem Constant.entity_mentions (fingerprint : String) (c : Constant) :
    (c.entity fingerprint).mentions .variable = Text.references c.value := by
  have parameter : (c.entity fingerprint).get "parameter" = .arr [templateParameter "value" c.value] := by
    simp [entity, toJson, owned, Entity.ofJson, Entity.ofJson?, Entity.get, Entity.get?, Json.lookup]
  have format : (c.entity fingerprint).get "formatValue" = .obj [] := by
    simp [entity, toJson, owned, Entity.ofJson, Entity.ofJson?, Entity.get, Entity.get?, Json.lookup]
  simp [Entity.mentions, Kind.scannedFields, parameter, format, Json.references, Json.referencesOfItems_eq_flatMap,
    Json.referencesOfFields, Json.ownReferences, Json.isTemplate, Json.lookup, references_templateParameter]

theorem EventVariable.entity_mentions (fingerprint : String) (v : EventVariable) :
    (v.entity fingerprint).mentions .variable = Text.references v.key := by
  have parameter : (v.entity fingerprint).get "parameter" = .arr [booleanParameter "setDefaultValue" "false",
      templateParameter "keyPath" v.key] := by
    simp [entity, toJson, owned, Entity.ofJson, Entity.ofJson?, Entity.get, Entity.get?, Json.lookup]
  have format : (v.entity fingerprint).get "formatValue" = .obj [] := by
    simp [entity, toJson, owned, Entity.ofJson, Entity.ofJson?, Entity.get, Entity.get?, Json.lookup]
  simp [Entity.mentions, Kind.scannedFields, parameter, format, Json.references, Json.referencesOfItems_eq_flatMap,
    Json.referencesOfFields, Json.ownReferences, Json.isTemplate, Json.lookup, references_templateParameter,
    references_booleanParameter]

theorem Ga4Client.entity_mentions (fingerprint : String) (c : Ga4Client) :
    (c.entity fingerprint).mentions .client = [] := by
  have plain : ["auto", "63072000", "/", "server", "FPID"].flatMap Text.references = [] := by decide
  have parameter : (c.entity fingerprint).get "parameter" = .arr [templateParameter "cookieDomain" "auto",
      templateParameter "cookieMaxAgeInSec" "63072000", booleanParameter "activateDefaultPaths" "true",
      templateParameter "cookiePath" "/", templateParameter "cookieManagement" "server",
      templateParameter "cookieName" "FPID"] := by
    simp [entity, toJson, owned, Entity.ofJson, Entity.ofJson?, Entity.get, Entity.get?, Json.lookup]
  simpa [Entity.mentions, Kind.scannedFields, parameter, Json.references, Json.referencesOfItems_eq_flatMap,
    references_templateParameter, references_booleanParameter] using plain

namespace Draft

/-- The texts of a draft that are read as texts with references when its export is read. -/
def texts (d : Draft) : List String :=
  d.tags.flatMap (fun t => t.parameters.map (·.filling.value)) ++
    d.triggers.flatMap (fun t => [t.client, t.event.getD ".*"]) ++ d.constants.map (·.value) ++
    d.eventVariables.map (·.key)

theorem mem_texts {d : Draft} {text : String} : text ∈ d.texts ↔
    (∃ t ∈ d.tags, ∃ p ∈ t.parameters, p.filling.value = text) ∨
      (∃ t ∈ d.triggers, text = t.client ∨ text = t.event.getD ".*") ∨
      (∃ c ∈ d.constants, c.value = text) ∨ ∃ v ∈ d.eventVariables, v.key = text := by
  simp only [texts, List.mem_append, List.mem_flatMap, List.mem_map, List.mem_cons, List.not_mem_nil, or_false,
    or_assoc]

variable (includePaused : Bool) (source : Option String) (fingerprint name exportTime : String) (d : Draft)

theorem toContainer_builtInVariables :
    (d.toContainer includePaused source fingerprint name exportTime).builtInVariables =
      [Entity.ofJson (builtInVariable "EVENT_NAME" "Event Name"),
        Entity.ofJson (builtInVariable "CLIENT_NAME" "Client Name")] := by
  have written : (d.toContainer includePaused source fingerprint name exportTime).get "builtInVariable" =
      .arr [builtInVariable "EVENT_NAME" "Event Name", builtInVariable "CLIENT_NAME" "Client Name"] := by
    simp [Container.get, toContainer, versionFields, Json.lookup]
  rw [Container.builtInVariables, Container.entities, written]
  rfl

theorem toContainer_knows_constant {c : Constant} (member : c ∈ d.constants) :
    (d.toContainer includePaused source fingerprint name exportTime).knows c.name = true := by
  have present : (d.toContainer includePaused source fingerprint name exportTime).userVariables.any
      (fun v => (v.get "name").isStr c.name) = true := by
    refine List.any_eq_true.mpr ⟨c.entity fingerprint, ?_, ?_⟩
    · rw [toContainer_userVariables]
      exact List.mem_append_left _ (List.mem_map_of_mem member)
    · rw [Constant.entity_name, Json.isStr_iff]
  rw [Container.knows, List.any_append, present, Bool.true_or, Bool.true_or]

/-- The conditions of an exported trigger refer to a built-in variable that is listed and to an internal name. -/
theorem toContainer_knows_subjects :
    (d.toContainer includePaused source fingerprint name exportTime).knows "Client Name" = true ∧
      (d.toContainer includePaused source fingerprint name exportTime).knows "_event" = true := by
  have listed : ([Entity.ofJson (builtInVariable "EVENT_NAME" "Event Name"),
      Entity.ofJson (builtInVariable "CLIENT_NAME" "Client Name")].any fun v =>
        (v.get "name").isStr "Client Name") = true := by decide
  have internal : Text.startsWith "_event" "_" = true := by decide
  constructor
  · rw [Container.knows, List.any_append, toContainer_builtInVariables, listed, Bool.or_true, Bool.true_or]
  · rw [Container.knows, internal, Bool.or_true]

/-- An export has no references but those in the texts of its draft, and those of its conditions. -/
theorem toContainer_closed_iff :
    (d.toContainer includePaused source fingerprint name exportTime).Closed ↔
      ∀ text ∈ d.texts, ∀ target ∈ Text.references text,
        (d.toContainer includePaused source fingerprint name exportTime).knows target = true := by
  obtain ⟨client, event⟩ := d.toContainer_knows_subjects includePaused source fingerprint name exportTime
  rw [Container.closed_iff, toContainer_tags, toContainer_triggers, toContainer_userVariables, toContainer_clients]
  simp only [texts, List.forall_mem_append, List.forall_mem_map, List.forall_mem_flatMap, List.forall_mem_cons,
    ServerTag.entity_mentions, EventTrigger.entity_mentions, Constant.entity_mentions, EventVariable.entity_mentions,
    Ga4Client.entity_mentions, client, event]
  simp [and_assoc]

end Draft

end Server

end TagAudit

import TagAudit.Proofs.Cleanup.Merging
import TagAudit.Proofs.Rules.Views

namespace TagAudit

theorem Json.lookup_map_fields (change : String → Json → Json) (fields : List (String × Json)) (key : String) :
    lookup (fields.map fun (k, v) => (k, change k v)) key = (lookup fields key).map (change key) := by
  induction fields with
  | nil => rfl
  | cons entry rest ih =>
    obtain ⟨k, v⟩ := entry
    rw [List.map_cons]
    by_cases same : k = key
    · subst same
      simp [lookup]
    · simp [lookup, same, ih]

/-- The objects among some values that pass a test are the objects among the values whose objects pass it. -/
theorem Entity.filterMap_filter (test : Entity → Bool) (items : List Json) :
    (items.filter fun item => (ofJson? item).any test).filterMap ofJson? =
      (items.filterMap ofJson?).filter test := by
  rw [List.filterMap_filter, List.filter_filterMap]
  refine List.filterMap_congr fun item _ => ?_
  cases ofJson? item with
  | none => rfl
  | some e => simp [Option.filter]

namespace Container

/-- Whether an entity of an array is looked at. -/
def isLookedAt (includePaused : Bool) (key : String) (e : Entity) : Bool :=
  !(e.get "liveOnly").holds && (key != "tag" || includePaused || !(e.get "paused").holds)

/-- A field of a container version; an array of entities without what is not looked at. -/
def regardedField (includePaused : Bool) (key : String) (value : Json) : Json :=
  match value with
  | .arr items =>
    if entityKeys.contains key then
      .arr (items.filter fun item => (Entity.ofJson? item).any (isLookedAt includePaused key))
    else value
  | _ => value

/-- The version of a container without what is not looked at: entries that are no objects, what is marked
`liveOnly`, and paused tags unless they are included. -/
def regardedVersion (c : Container) : List (String × Json) :=
  c.version.map fun (key, value) => (key, regardedField c.includePaused key value)

def regardedDocument (c : Container) : List (String × Json) :=
  Json.assign c.document "containerVersion" (.obj c.regardedVersion)

/-- An entry that is no object, a tag that is marked `liveOnly` and a paused tag go; only tags can be paused. -/
example (document : List (String × Json)) (source : Option String) (accepted : _) :
    let version : List (String × Json) := [("tag", .arr ["note", .obj [("name", "A"), ("liveOnly", true)],
      .obj [("name", "B"), ("paused", true)], .obj [("name", "C")]]), ("folder", .arr [.obj [("paused", true)]])]
    regardedVersion ⟨document, version, false, source, accepted⟩ =
      [("tag", .arr [.obj [("name", "C")]]), ("folder", .arr [.obj [("paused", true)]])] := rfl

/-- The container of that document. -/
def regardedOnly (c : Container) (source : Option String) : Container :=
  ⟨c.regardedDocument, c.regardedVersion, true, source, Json.lookup_assign_self _ _ _⟩

variable (c : Container) (source : Option String)

theorem regardedOnly_lookup (key : String) : Json.lookup (c.regardedOnly source).version key =
    (Json.lookup c.version key).map (regardedField c.includePaused key) :=
  Json.lookup_map_fields (regardedField c.includePaused) c.version key

theorem regardedOnly_items {key : String} (isEntity : key ∈ entityKeys) : ((c.regardedOnly source).get key).items =
    (c.get key).items.filter fun item => (Entity.ofJson? item).any (isLookedAt c.includePaused key) := by
  rw [Container.get, regardedOnly_lookup, Container.get]
  cases Json.lookup c.version key with
  | none => rfl
  | some value =>
    cases value with
    | arr items => simp [regardedField, isEntity, Json.items]
    | _ => rfl

theorem regardedOnly_entities {key : String} (isEntity : key ∈ entityKeys) : (c.regardedOnly source).entities key =
    (c.entities key).filter fun e => key != "tag" || c.includePaused || !(e.get "paused").holds := by
  rw [entities, regardedOnly_items c source isEntity, Entity.filterMap_filter, List.filter_filter, entities,
    List.filter_filter]
  refine List.filter_congr fun e _ => ?_
  rw [isLookedAt]
  cases (e.get "liveOnly").holds <;> simp

theorem alike_regardedOnly : Alike c (c.regardedOnly source) where
  tags := by
    have tags : (c.regardedOnly source).tags = (c.regardedOnly source).entities "tag" := by
      simp [Container.tags, regardedOnly]
    rw [tags, regardedOnly_entities c source (by decide), Container.tags]
    rfl
  entities key isEntity notTag := by
    rw [regardedOnly_entities c source isEntity]
    simp [notTag]
  version key other := by
    have same : regardedField c.includePaused key = id := by
      funext value
      cases value with
      | arr items => simp [regardedField, other]
      | _ => rfl
    rw [regardedOnly_lookup, same, Option.map_id, id]
  document key other := Json.lookup_assign_of_ne other _ _

/-- All that is read off two containers, and all that the rules say about them, is the same. -/
structure ReadsAlike (c d : Container) : Prop where
  tags : d.tags = c.tags
  triggers : d.triggers = c.triggers
  userVariables : d.userVariables = c.userVariables
  folders : d.folders = c.folders
  templates : d.templates = c.templates
  clients : d.clients = c.clients
  zones : d.zones = c.zones
  builtInVariables : d.builtInVariables = c.builtInVariables
  info : d.info = c.info
  tagById : ∀ id, d.tagById id = c.tagById id
  triggerById : ∀ id, d.triggerById id = c.triggerById id
  variableByName : ∀ name, d.variableByName name = c.variableByName name
  folderById : ∀ id, d.folderById id = c.folderById id
  references : d.references = c.references
  referenceGraph : d.referenceGraph = c.referenceGraph
  variableUsage : d.variableUsage = c.variableUsage
  triggerUsage : d.triggerUsage = c.triggerUsage
  duplicates : ∀ kind, d.duplicates kind = c.duplicates kind
  unused : d.unused = c.unused
  analyze : ∀ config, d.analyze config = c.analyze config

theorem Alike.readsAlike {c d : Container} (alike : Alike c d) : ReadsAlike c d where
  tags := alike.tags
  triggers := alike.triggers
  userVariables := alike.userVariables
  folders := alike.folders
  templates := alike.templates
  clients := alike.clients
  zones := alike.zones
  builtInVariables := alike.builtInVariables
  info := alike.info
  tagById := alike.tagById
  triggerById := alike.triggerById
  variableByName name := congrFun alike.variableByName name
  folderById := alike.folderById
  references := alike.references
  referenceGraph := alike.referenceGraph
  variableUsage := alike.variableUsage
  triggerUsage := alike.triggerUsage
  duplicates := alike.duplicates
  unused := alike.unused
  analyze := alike.analyze

/-- What is not looked at has no influence: the document without it is accepted, and read with paused tags included
it gives the same in all respects. -/
theorem regardedDocument_readsAlike :
    ∃ d, Container.ofJson (.obj c.regardedDocument) true source = .ok d ∧ ReadsAlike c d :=
  ⟨c.regardedOnly source, Container.ofJson_obj _ _ _, (c.alike_regardedOnly source).readsAlike⟩

end Container

end TagAudit

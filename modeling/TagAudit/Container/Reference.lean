import TagAudit.Container
import TagAudit.Grouping
import TagAudit.Text.CaseMap
import TagAudit.Text.Reference

namespace TagAudit

namespace Json

/-- A node of a parameter tree whose value may hold references. -/
def isTemplate (fields : List (String × Json)) : Bool :=
  match lookup fields "type" with
  | some (str s) => Text.lower s == "template"
  | _ => false

/-- The names that the value of a node itself references. -/
def ownReferences (fields : List (String × Json)) : List String :=
  if isTemplate fields then Text.references ((lookup fields "value").getD null).textOrEmpty else []

mutual

/-- The names referenced in a parameter tree: a node's own value first, then its children. -/
def references : Json → List String
  | arr items => referencesOfItems items
  | obj fields => ownReferences fields ++ referencesOfFields fields
  | _ => []

def referencesOfItems : List Json → List String
  | [] => []
  | value :: rest => references value ++ referencesOfItems rest

def referencesOfFields : List (String × Json) → List String
  | [] => []
  | (_, value) :: rest => references value ++ referencesOfFields rest

end

/-- The trigger that a node refers to. -/
def ownTriggerReference (fields : List (String × Json)) : List String :=
  let value := (lookup fields "value").getD null
  let type := (lookup fields "type").getD null
  if type.isOneOf ["triggerReference", "TRIGGER_REFERENCE"] && !value.isNull then [value.text]
  else []

mutual

/-- The identifiers of the triggers that a parameter tree refers to, as a trigger group does. -/
def triggerReferences : Json → List String
  | arr items => triggerReferencesOfItems items
  | obj fields => ownTriggerReference fields ++ triggerReferencesOfFields fields
  | _ => []

def triggerReferencesOfItems : List Json → List String
  | [] => []
  | value :: rest => triggerReferences value ++ triggerReferencesOfItems rest

def triggerReferencesOfFields : List (String × Json) → List String
  | [] => []
  | (_, value) :: rest => triggerReferences value ++ triggerReferencesOfFields rest

end

end Json

/-- The kinds of entities that can reference variables. -/
inductive Kind where
  | tag
  | trigger
  | variable
  | client
  deriving DecidableEq

def Kind.label : Kind → String
  | .tag => "tag"
  | .trigger => "trigger"
  | .variable => "variable"
  | .client => "client"

/-- The field that identifies an entity. -/
def Kind.idField : Kind → String
  | .tag => "tagId"
  | .trigger => "triggerId"
  | .variable => "variableId"
  | .client => "clientId"

/-- The fields of a trigger that hold conditions. -/
def filterFields : List String := ["filter", "autoEventFilter", "customEventFilter"]

/-- The fields in which references of an entity are looked for. -/
def Kind.scannedFields : Kind → List String
  | .tag | .client => ["parameter"]
  | .trigger => "parameter" :: filterFields
  | .variable => ["parameter", "formatValue"]

/-- The names that an entity references, each once, in the order of their first occurrences. -/
def Entity.references (kind : Kind) (e : Entity) : List String :=
  distinct (Json.references (.arr (kind.scannedFields.map e.get)))

/-- An entity `source` references the variable `target`. -/
structure Reference where
  kind : Kind
  id : String
  source : String
  target : String

def Reference.ofEntity (kind : Kind) (e : Entity) : List Reference :=
  (e.references kind).map fun target => ⟨kind, e.idOrEmpty kind.idField, e.name, target⟩

/-- A variable that mentions itself. -/
def Reference.isSelf (r : Reference) : Bool := r.kind == .variable && r.source == r.target

namespace Container

def references (c : Container) : List Reference :=
  c.tags.flatMap (Reference.ofEntity .tag) ++ c.triggers.flatMap (Reference.ofEntity .trigger) ++
    c.userVariables.flatMap (Reference.ofEntity .variable) ++
    c.clients.flatMap (Reference.ofEntity .client)

/-- The names that the entities of a kind and name reference. -/
def referencesOf (c : Container) (kind name : Json) : List String :=
  (c.references.filter fun r => kind.isStr r.kind.label && name.isStr r.source).map (·.target)

/-- The references to each variable. A variable that mentions itself does not use itself. -/
def variableUsage (c : Container) : List (String × List Reference) :=
  groupBy (·.target) (c.references.filter fun r => !r.isSelf)

/-- A trigger's identifier and the name of a tag or trigger group that uses it, use by use. -/
def triggerUses (c : Container) : List (String × String) :=
  c.tags.flatMap (fun t =>
    ((t.get "firingTriggerId").items ++ (t.get "blockingTriggerId").items).map fun id =>
      (id.text, t.name)) ++
  c.triggers.flatMap fun t => (Json.triggerReferences (t.get "parameter")).map fun id => (id, t.name)

def triggerUsage (c : Container) : List (String × List String) :=
  (groupBy (·.1) c.triggerUses).map fun (id, uses) => (id, uses.map (·.2))

end Container

end TagAudit

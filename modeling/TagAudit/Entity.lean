import TagAudit.Checksum
import TagAudit.Json.Display
import TagAudit.Json.Scalar
import TagAudit.Json.Writer
import TagAudit.Text.Search

namespace TagAudit

/-- A tag, trigger, variable or other object of a container. Its fields may have any type. -/
structure Entity where
  fields : List (String × Json)

namespace Entity

def ofJson? : Json → Option Entity
  | .obj fields => some ⟨fields⟩
  | _ => none

/-- A value that is no object has no fields. -/
def ofJson (value : Json) : Entity := (ofJson? value).getD ⟨[]⟩

def need (value : Json) : Except Fault Entity :=
  match ofJson? value with
  | some e => .ok e
  | none => .error .notObject

def toJson (e : Entity) : Json := .obj e.fields

def get? (e : Entity) (key : String) : Option Json := Json.lookup e.fields key

/-- The value of a field; null where the field is absent. -/
def get (e : Entity) (key : String) : Json := (e.get? key).getD .null

def getOr (e : Entity) (key : String) (default : Json) : Json := (e.get? key).getD default

def type (e : Entity) : Json := e.get "type"

/-- A name that is no text counts as the empty name. -/
def name (e : Entity) : String := (e.get "name").textOrEmpty

/-- The name as it is written, of any type; empty where absent. -/
def rawName (e : Entity) : Json := e.getOr "name" ""

/-- The identifier in a field; an absent one reads like null. -/
def id (e : Entity) (key : String) : String := (e.get key).text

/-- The identifier in a field; empty where absent. -/
def idOrEmpty (e : Entity) (key : String) : String := (e.getOr key "").text

/-- The first parameter with a key. -/
def parameter? (e : Entity) (key : Json) : Option Entity :=
  ((e.get "parameter").items.filterMap ofJson?).find? fun p => (p.get "key").same key

def parameterValueOr (e : Entity) (key default : Json) : Json :=
  match e.parameter? key with
  | some p => p.getOr "value" default
  | none => default

def parameterValue (e : Entity) (key : String) : Json := e.parameterValueOr key .null

/-- Entities of the system, which users cannot delete. -/
def isBuiltIn (e : Entity) : Bool :=
  Text.contains (e.get "tagManagerUrl").textOrEmpty "/builtins/" ||
    Text.startsWith e.type.textOrEmpty "k"

/-- The fields that an identifier made from content depends on. -/
def contentKeys : List String := ["type", "name", "parameter", "filter", "triggerId", "fingerprint"]

def content (e : Entity) : List (String × Json) :=
  contentKeys.filterMap fun key =>
    let value := e.get key
    if value.isNull then none else some (key, value)

/-- An identifier that depends on the content alone. -/
def uniqueId (e : Entity) : String := Checksum.name "uid_" (Json.compact (.obj e.content))

end Entity

end TagAudit

import TagAudit.Entity
import TagAudit.Json.Reader

namespace TagAudit

/-- Why a document is no container export. -/
inductive Rejection where
  | rootNotObject
  | versionMissing
  | versionNotObject
  /-- The text is no JSON; `detail` says where it stops being so. -/
  | notJson (detail : String)

def Rejection.message : Rejection → String
  | rootNotObject => "document root must be a JSON object"
  | versionMissing => "missing 'containerVersion'"
  | versionNotObject => "'containerVersion' must be an object"
  | notJson detail => "not valid JSON (" ++ detail ++ ")"

structure InvalidContainer where
  reason : Rejection
  source : Option String

def InvalidContainer.message (e : InvalidContainer) : String :=
  match e.source with
  | none | some "" => "Invalid GTM container export: " ++ e.reason.message
  | some source => "Invalid GTM container export (" ++ source ++ "): " ++ e.reason.message

/-- The identifier of the trigger that fires on all pages without being part of a container. -/
def allPagesId : String := "2147479553"

/-- An accepted container export. `version` holds its entities. -/
structure Container where
  document : List (String × Json)
  version : List (String × Json)
  includePaused : Bool
  source : Option String
  version_eq : Json.lookup document "containerVersion" = some (.obj version)

namespace Container

def ofJson (document : Json) (includePaused : Bool) (source : Option String) :
    Except InvalidContainer Container :=
  match document with
  | .obj fields =>
    match h : Json.lookup fields "containerVersion" with
    | some (.obj version) => .ok ⟨fields, version, includePaused, source, h⟩
    | some _ => .error ⟨.versionNotObject, source⟩
    | none => .error ⟨.versionMissing, source⟩
  | _ => .error ⟨.rootNotObject, source⟩

/-- A field of the container version; null where absent. -/
def get (c : Container) (key : String) : Json := (Json.lookup c.version key).getD .null

/-- The objects of an array of the container version; what is marked `liveOnly` is left out. -/
def entities (c : Container) (key : String) : List Entity :=
  ((c.get key).items.filterMap Entity.ofJson?).filter fun e => !(e.get "liveOnly").holds

def tags (c : Container) : List Entity :=
  (c.entities "tag").filter fun t => c.includePaused || !(t.get "paused").holds

def triggers (c : Container) : List Entity := c.entities "trigger"
def userVariables (c : Container) : List Entity := c.entities "variable"
def folders (c : Container) : List Entity := c.entities "folder"
def templates (c : Container) : List Entity := c.entities "customTemplate"
def clients (c : Container) : List Entity := c.entities "client"
def zones (c : Container) : List Entity := c.entities "zone"
def builtInVariables (c : Container) : List Entity := c.entities "builtInVariable"

/-- The last of several entities with an identifier is the one that it names. -/
def findById (entities : List Entity) (key id : String) : Option Entity :=
  entities.reverse.find? fun e => !(e.get key).isNull && e.id key == id

def tagById (c : Container) (id : String) : Option Entity := findById c.tags "tagId" id
def triggerById (c : Container) (id : String) : Option Entity := findById c.triggers "triggerId" id
def folderById (c : Container) (id : String) : Option Entity := findById c.folders "folderId" id

def variableByName (c : Container) (name : String) : Option Entity :=
  if name.isEmpty then none else c.userVariables.reverse.find? fun v => (v.get "name").isStr name

/-- What a container says about itself. -/
structure Info where
  name : Json
  publicId : Json
  containerId : Json
  accountId : Json
  usageContext : List Json
  containerVersionId : Json
  exportTime : Json
  counts : List (String × Nat)

def info (c : Container) : Info :=
  let own := Entity.ofJson (c.get "container")
  let version : Entity := ⟨c.version⟩
  { name := (own.get "name").orElse "GTM Container"
    publicId := own.getOr "publicId" ""
    containerId := own.getOr "containerId" (version.getOr "containerId" "")
    accountId := own.getOr "accountId" (version.getOr "accountId" "")
    usageContext := (own.get "usageContext").items
    containerVersionId := version.getOr "containerVersionId" ""
    exportTime := (Json.lookup c.document "exportTime").getD ""
    counts := [("tags", c.tags.length), ("triggers", c.triggers.length),
      ("variables", c.userVariables.length), ("folders", c.folders.length),
      ("templates", c.templates.length), ("clients", c.clients.length),
      ("builtInVariables", c.builtInVariables.length)] }

def Info.toJson (i : Info) : Json :=
  .obj [("name", i.name), ("publicId", i.publicId), ("containerId", i.containerId),
    ("accountId", i.accountId), ("usageContext", .arr i.usageContext),
    ("containerVersionId", i.containerVersionId), ("exportTime", i.exportTime),
    ("counts", .obj (i.counts.map fun (k, n) => (k, .int n)))]

end Container

end TagAudit

import TagAudit.Moment
import TagAudit.Server.Draft

namespace TagAudit.Server

/-- An identifier in an export. -/
def idJson (id : Nat) : Json := .str (Numeral.ofInt id)

/-- The fields of a thing of the container `0` of the account `0`. -/
def owned (fields : List (String × Json)) : Json :=
  .obj (("accountId", .str "0") :: ("containerId", .str "0") :: fields)

def parentFolder (folder : Option Nat) : List (String × Json) :=
  (folder.map fun id => ("parentFolderId", idJson id)).toList

def templateParameter (key value : String) : Json :=
  .obj [("type", "TEMPLATE"), ("key", key), ("value", value)]

def booleanParameter (key value : String) : Json :=
  .obj [("type", "BOOLEAN"), ("key", key), ("value", value)]

def Parameter.toJson (p : Parameter) : Json :=
  match p.filling with
  | .switch _ => booleanParameter p.key p.filling.value
  | _ => templateParameter p.key p.filling.value

def Folder.toJson (fingerprint : String) (f : Folder) : Json :=
  owned [("folderId", idJson f.id), ("name", f.name), ("fingerprint", fingerprint)]

def Constant.toJson (fingerprint : String) (c : Constant) : Json :=
  owned ([("variableId", idJson c.id), ("name", .str c.name), ("type", .str "c"),
    ("parameter", .arr [templateParameter "value" c.value]), ("fingerprint", .str fingerprint),
    ("formatValue", .obj [])] ++ parentFolder c.folder)

def EventVariable.toJson (fingerprint : String) (v : EventVariable) : Json :=
  owned ([("variableId", idJson v.id), ("name", .str ("ed - " ++ v.key)), ("type", .str "ed"),
    ("parameter", .arr [booleanParameter "setDefaultValue" "false",
      templateParameter "keyPath" v.key]),
    ("fingerprint", .str fingerprint), ("formatValue", .obj [])] ++ parentFolder v.folder)

def CustomTemplate.toJson (fingerprint : String) (t : CustomTemplate) : Json :=
  owned [("templateId", idJson t.id), ("name", t.name), ("fingerprint", fingerprint),
    ("templateData", t.source)]

def Ga4Client.toJson (fingerprint : String) (c : Ga4Client) : Json :=
  owned [("clientId", idJson c.id), ("name", "GA4"), ("type", "gaaw_client"),
    ("parameter", .arr [templateParameter "cookieDomain" "auto",
      templateParameter "cookieMaxAgeInSec" "63072000",
      booleanParameter "activateDefaultPaths" "true", templateParameter "cookiePath" "/",
      templateParameter "cookieManagement" "server", templateParameter "cookieName" "FPID"]),
    ("fingerprint", fingerprint)]

/-- A condition that compares a variable with a text. -/
def condition (type subject value : String) : Json :=
  .obj [("type", type), ("parameter", .arr [templateParameter "arg0" (Text.reference subject),
    templateParameter "arg1" value])]

def EventTrigger.eventCondition (t : EventTrigger) : Json :=
  match t.event with
  | some event => condition "EQUALS" "_event" event
  | none => condition "MATCH_REGEX" "_event" ".*"

def EventTrigger.toJson (fingerprint : String) (t : EventTrigger) : Json :=
  owned [("triggerId", idJson t.id), ("name", t.name), ("type", "CUSTOM_EVENT"),
    ("customEventFilter", .arr [t.eventCondition]),
    ("filter", .arr [condition "CONTAINS" "Client Name" t.client]), ("fingerprint", fingerprint)]

def ServerTag.toJson (fingerprint : String) (t : ServerTag) : Json :=
  owned ([("tagId", idJson t.id), ("name", .str t.name), ("type", t.type),
    ("parameter", .arr (t.parameters.map Parameter.toJson)), ("fingerprint", .str fingerprint),
    ("firingTriggerId", .arr [idJson t.trigger]), ("tagFiringOption", .str "ONCE_PER_EVENT"),
    ("consentSettings", .obj [("consentStatus", "NOT_SET")]),
    ("monitoringMetadata", .obj [("type", "MAP")])] ++ parentFolder t.folder)

def Migrated.toJson (m : Migrated) : Json :=
  .obj [("original", m.source), ("serverSide", m.name), ("type", m.type)]

def Gap.toJson (g : Gap) : Json := .obj [("name", g.name), ("placeholder", g.placeholder)]

namespace Draft

/-- What the server container can do. -/
def features : List (String × Bool) :=
  [("supportUserPermissions", true), ("supportEnvironments", true), ("supportWorkspaces", true),
    ("supportGtagConfigs", false), ("supportBuiltInVariables", true), ("supportClients", true),
    ("supportFolders", true), ("supportTags", true), ("supportTemplates", true),
    ("supportTriggers", true), ("supportVariables", true), ("supportVersions", true),
    ("supportZones", true), ("supportTransformations", true)]

def managerUrl : String :=
  "https://tagmanager.google.com/#/container/accounts/0/containers/0/workspaces?apiLink=container"

def builtInVariable (type name : String) : Json := owned [("type", type), ("name", name)]

def variablesJson (fingerprint : String) (d : Draft) : List Json :=
  d.constants.map (Constant.toJson fingerprint) ++
    d.eventVariables.map (EventVariable.toJson fingerprint)

/-- The fields of the container version in an export. -/
def versionFields (fingerprint name : String) (d : Draft) : List (String × Json) :=
  [("path", "accounts/0/containers/0/versions/0"), ("accountId", "0"), ("containerId", "0"),
    ("containerVersionId", "0"), ("fingerprint", fingerprint), ("tagManagerUrl", managerUrl),
    ("container", .obj [
      ("path", "accounts/0/containers/0"), ("accountId", "0"), ("containerId", "0"),
      ("name", "[SSG] " ++ name), ("publicId", "GTM-XXXXXX"), ("usageContext", .arr ["SERVER"]),
      ("fingerprint", fingerprint), ("tagManagerUrl", managerUrl),
      ("features", .obj (features.map fun (feature, has) => (feature, .bool has))),
      ("tagIds", .arr ["GTM-XXXXXX"])]),
    ("tag", .arr (d.tags.map (ServerTag.toJson fingerprint))),
    ("trigger", .arr (d.triggers.map (EventTrigger.toJson fingerprint))),
    ("variable", .arr (d.variablesJson fingerprint)),
    ("folder", .arr (d.folders.map (Folder.toJson fingerprint))),
    ("client", .arr (d.clients.map (Ga4Client.toJson fingerprint))),
    ("builtInVariable", .arr [builtInVariable "EVENT_NAME" "Event Name",
      builtInVariable "CLIENT_NAME" "Client Name"]),
    ("customTemplate", .arr (d.templates.map (CustomTemplate.toJson fingerprint)))]

def exportFields (fingerprint name exportTime : String) (d : Draft) : List (String × Json) :=
  [("exportFormatVersion", .int 2), ("exportTime", exportTime),
    ("containerVersion", .obj (d.versionFields fingerprint name))]

/-- The document of the container, ready to be imported. -/
def toExport (fingerprint name exportTime : String) (d : Draft) : Json :=
  .obj (d.exportFields fingerprint name exportTime)

/-- What has been made, and what is left to be filled in. -/
def summary (d : Draft) : Json :=
  .obj [("tagsCreated", d.tags.length), ("triggersCreated", d.triggers.length),
    ("constantsCreated", d.constants.length), ("eventDataVarsCreated", d.eventVariables.length),
    ("clientsCreated", d.clients.length), ("templatesCreated", d.templates.length),
    ("placeholders", .arr ((d.constantGaps ++ d.tagGaps).map Gap.toJson)),
    ("tagMapping", .arr (d.migrated.map Migrated.toJson)), ("warnings", Json.texts d.warnings)]

end Draft

end TagAudit.Server

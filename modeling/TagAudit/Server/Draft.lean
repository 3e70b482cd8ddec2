import TagAudit.Grouping
import TagAudit.Server.Event
import TagAudit.Server.Selection

namespace TagAudit.Server

structure Folder where
  id : Nat
  name : String

/-- A variable with a fixed value. -/
structure Constant where
  id : Nat
  name : String
  value : String
  folder : Option Nat

/-- A variable that reads a key of the event data. -/
structure EventVariable where
  id : Nat
  key : String
  folder : Option Nat

structure CustomTemplate where
  id : Nat
  name : Json
  source : String

/-- The client that takes GA4 requests. -/
structure Ga4Client where
  id : Nat

/-- A trigger on events of a client: on all of them, or on those of one name. -/
structure EventTrigger where
  id : Nat
  name : String
  event : Option String
  client : String

/-- What stands in a parameter of a server tag. -/
inductive Filling where
  | text (value : String)
  | switch (on : Bool)
  /-- A reference to a constant. -/
  | constant (name : String)
  /-- A value that nobody has given. -/
  | missing (what : String)

def Filling.value : Filling → String
  | text value => value
  | switch on => if on then "true" else "false"
  | constant name => Text.reference name
  | missing what => placeholder what

structure Parameter where
  key : String
  filling : Filling

structure ServerTag where
  id : Nat
  name : String
  type : Json
  parameters : List Parameter
  trigger : Nat
  folder : Option Nat

/-- Which server tag a migrated tag has become. -/
structure Migrated where
  source : Json
  name : String
  type : Json

/-- A value to be filled in, and where it belongs. -/
structure Gap where
  name : String
  placeholder : String

/-- Parameters in the making. What they leave to be filled in is noted behind what has been noted. -/
abbrev Noting := StateM (List Gap)

/-- The last numbers given out, by kind. Constants and event variables are numbered together. -/
structure Counters where
  folder : Nat
  userVariable : Nat
  template : Nat
  client : Nat
  trigger : Nat
  tag : Nat

/-- A server container in the making. Each kind of things is numbered from 1 on, in the order of
their creation. -/
structure Draft where
  counters : Counters
  folders : List Folder
  constants : List Constant
  /-- The set of the names that constants have. -/
  constantNames : List String
  /-- The names of the constants that stand for values. -/
  constantOf : List (String × String)
  eventVariables : List EventVariable
  templates : List CustomTemplate
  clients : List Ga4Client
  triggers : List EventTrigger
  /-- The triggers for events. -/
  triggerOf : List (String × Nat)
  tags : List ServerTag
  migrated : List Migrated
  /-- The parameters of tags that wait for a value, as they have been noted. -/
  tagGaps : List Gap
  warnings : List String

namespace Draft

def empty : Draft := ⟨⟨0, 0, 0, 0, 0, 0⟩, [], [], [], [], [], [], [], [], [], [], [], [], []⟩

/-- The last number of each kind. -/
def counts (d : Draft) : List (String × Nat) :=
  [("tag", d.counters.tag), ("trigger", d.counters.trigger), ("variable", d.counters.userVariable),
    ("client", d.counters.client), ("folder", d.counters.folder),
    ("template", d.counters.template)]

def warn (d : Draft) (warning : String) : Draft := { d with warnings := d.warnings ++ [warning] }

/- Folders -/

def settingsFolder : String := "Einstellungen"

def eventDataFolder : String := "Event Data"

/-- The folders of vendors, and the flags that ask for them. -/
def vendorFolders : List (String × String) :=
  [("hasGA4", "GA4"), ("hasGoogleAds", "Google Ads"), ("hasFacebook", "Facebook"),
    ("hasLinkedIn", "LinkedIn"), ("hasMicrosoftAds", "Microsoft Ads")]

def addFolder (d : Draft) (name : String) : Draft :=
  let id := d.counters.folder + 1
  { d with counters := { d.counters with folder := id }, folders := d.folders ++ [⟨id, name⟩] }

def folderNames (s : Selection) : List String :=
  [settingsFolder, eventDataFolder] ++ (vendorFolders.filter fun (flag, _) => s.flag flag).map (·.2) ++
    if s.tags.any (·.type.isOneOf ["flc", "fls"]) then ["Floodlight"] else []

def addFolders (s : Selection) (d : Draft) : Draft := (folderNames s).foldl addFolder d

def folderId? (d : Draft) (name : String) : Option Nat := (d.folders.find? (·.name == name)).map (·.id)

/- Constants -/

def hasConstant (d : Draft) (name : String) : Bool := d.constantNames.contains name

def addConstant (d : Draft) (name value : String) : Draft :=
  let id := d.counters.userVariable + 1
  { d with
    counters := { d.counters with userVariable := id }
    constants := d.constants ++ [⟨id, name, value, d.folderId? settingsFolder⟩]
    constantNames := d.constantNames.insert name }

/-- Adds a constant unless there is one of the name. -/
def ensureConstant (d : Draft) (name value : String) : Draft :=
  if d.hasConstant name then d else d.addConstant name value

/-- The name with a number that a constant gets where the plain name is taken. -/
def numberedName (base : String) (number : Nat) : String := base ++ " " ++ Numeral.ofInt number

/-- The first name that is free from a number on. Of so many numbers as there are names and one more,
one gives a free name. -/
def freeNameFrom (d : Draft) (base : String) : (tries number : Nat) → String
  | 0, number => numberedName base number
  | tries + 1, number =>
    if d.hasConstant (numberedName base number) then freeNameFrom d base tries (number + 1)
    else numberedName base number

def freeName (d : Draft) (base : String) : String :=
  if d.hasConstant base then d.freeNameFrom base d.constantNames.length 2 else base

/-- Adds a constant for a value that is a text, unless the value has one. A value that cannot be
copied is left to be filled in. -/
def addValue (d : Draft) (value : Json) (base what : String) : Draft :=
  match value with
  | .str text =>
    if text.isEmpty || (d.constantOf.lookup text).isSome then d
    else
      let name := d.freeName base
      let d := d.addConstant name (if isConcrete text then text else placeholder what)
      { d with constantOf := d.constantOf ++ [(text, name)] }
  | _ => d

/-- The name of the constant that stands for a value. -/
def constantFor? (d : Draft) (value : Json) : Option String := value.text?.bind (d.constantOf.lookup ·)

/-- The first constant whose name holds a text. -/
def findConstant? (d : Draft) (part : String) : Option String :=
  (d.constants.find? fun c => Text.contains c.name part).map (·.name)

def measurementId (tag : Entity) : Json :=
  (tag.parameterValue "measurementId").orElse (tag.parameterValue "gaSettings")

/-- The name of the constant for the conversion label of a tag. -/
def conversionLabelName (tag : Entity) : String :=
  let plain := " ".intercalate (Text.plainBlocks Text.isBlank tag.name)
  let default := if tag.type.isStr "adsct" then "remarketing" else "conversion"
  constantName ("google ads " ++ (if plain.isEmpty then default else plain) ++ " conversion label")

def addConversion (d : Draft) (tag : Entity) : Draft :=
  let title := if tag.name.isEmpty then "Tag" else tag.name
  (d.addValue (tag.parameterValue "conversionId") (constantName "google ads conversion id")
      "Google Ads Conversion ID, z.B. AW-123456789").addValue
    (tag.parameterValue "conversionLabel") (conversionLabelName tag)
    ("Conversion Label fuer " ++ title)

def addCredentials (d : Draft) (credentials : List Credential) : Draft :=
  credentials.foldl (fun d c => d.ensureConstant (constantName c.name) (placeholder c.title)) d

/-- The constants that the server tag of a tag refers to. -/
def addConstantsOf (d : Draft) (tag : Entity) : Draft :=
  match tag.type with
  | .str "gaawe" | .str "gawc" =>
    d.addValue (measurementId tag) (constantName "ga4 measurement id")
      "GA4 Measurement ID, z.B. G-XXXXXXXXXX"
  | .str "awct" | .str "adsct" => d.addConversion tag
  | .str type => d.addCredentials (((templateVendor? type).map (·.credentials)).getD [])
  | _ => d

/-- What stands for the address of the tagging server as long as there is none. -/
def addressPlaceholder : String := placeholder "Server-Side GTM URL, z.B. https://sgtm.example.com"

def addressOr (address : Option String) : String :=
  match address with
  | none | some "" => addressPlaceholder
  | some url => url

def addConstants (s : Selection) (address : Option String) (d : Draft) : Draft :=
  (s.tags.foldl addConstantsOf d).ensureConstant (constantName "transport url") (addressOr address)

/- Event data -/

def eventDataKeys : List String :=
  ["email_address", "phone_number", "first_name", "last_name", "user_id", "value", "currency",
    "transaction_id", "event_id", "items", "content_ids", "contents", "postal_code", "city",
    "country", "region"]

def addEventVariable (d : Draft) (key : String) : Draft :=
  let id := d.counters.userVariable + 1
  { d with
    counters := { d.counters with userVariable := id }
    eventVariables := d.eventVariables ++ [⟨id, key, d.folderId? eventDataFolder⟩] }

def addEventVariables (d : Draft) : Draft := eventDataKeys.foldl addEventVariable d

/- Templates and clients -/

def addTemplate (d : Draft) (t : Template) : Draft :=
  let id := d.counters.template + 1
  { d with
    counters := { d.counters with template := id }
    templates := d.templates ++ [⟨id, t.displayName, t.source⟩] }

/-- The template of a vendor whose tags are migrated. -/
def addTemplateOf (catalog : Catalog) (d : Draft) (v : TemplateVendor) : Draft :=
  match catalog.lookup v.key with
  | some t => d.addTemplate t
  | none =>
    d.warn ("No server template in the catalogue for '" ++ v.key ++ "'; its tags fall back to " ++
      defaultTagType)

def addTemplates (s : Selection) (catalog : Catalog) (vendors : List Scalar) (d : Draft) : Draft :=
  (templateVendors.filter fun v =>
    (vendors.isEmpty || vendors.contains (.str v.key)) && s.flag v.flag).foldl
    (addTemplateOf catalog) d

def addClient (d : Draft) : Draft :=
  let id := d.counters.client + 1
  { d with counters := { d.counters with client := id }, clients := d.clients ++ [⟨id⟩] }

def addClients (s : Selection) (d : Draft) : Draft :=
  if s.flag "needsGa4Client" then d.addClient else d

/- Triggers -/

/-- The event that stands for all events. -/
def allEvents : String := "__all_events__"

/-- Adds a trigger and makes it the trigger for an event. -/
def addTrigger (d : Draft) (key name : String) (event : Option String) (client : String) : Draft :=
  let id := d.counters.trigger + 1
  { d with
    counters := { d.counters with trigger := id }
    triggers := d.triggers ++ [⟨id, name, event, client⟩]
    triggerOf := put d.triggerOf key id }

def triggerFor? (d : Draft) (event : String) : Option Nat := d.triggerOf.lookup event

/-- The trigger for the event of a tag, unless the event has one. -/
def addTriggerOf (c : Container) (d : Draft) (tag : Entity) : Draft :=
  let event := c.serverEvent tag
  if (d.triggerFor? event).isSome then d
  else
    d.addTrigger event ("[" ++ tag.serverClient ++ "] " ++ event) (some event) tag.serverClient

def addAllEventsTrigger (s : Selection) (d : Draft) : Draft :=
  if s.wantsAllEvents then d.addTrigger allEvents "All Events - GA4" none "GA4" else d

def addTriggers (s : Selection) (c : Container) (d : Draft) : Draft :=
  s.tags.foldl (addTriggerOf c) (d.addAllEventsTrigger s)

/- Tags -/

/-- Adds a tag, and notes what its parameters leave to be filled in. -/
def addTag (d : Draft) (name : String) (type : Json) (parameters : Noting (List Parameter)) (trigger : Nat)
    (folder : Option Nat) : Draft :=
  let made := parameters.run d.tagGaps
  let id := d.counters.tag + 1
  { d with
    counters := { d.counters with tag := id }
    tags := d.tags ++ [⟨id, name, type, made.1, trigger, folder⟩]
    tagGaps := made.2 }

/-- A parameter of a tag that refers to a constant. Where there is none, it is left to be filled in. -/
def refer (tagName key : String) (constant : Option String) (what : String) : Noting Parameter :=
  match constant with
  | some name => return ⟨key, .constant name⟩
  | none => do
    modify (· ++ [⟨tagName ++ " > " ++ key, placeholder what⟩])
    return ⟨key, .missing what⟩

def ga4Parameters (tagName : String) (constant : Option String) : Noting (List Parameter) := do
  return [← refer tagName "measurementId" constant "GA4 Measurement ID", ⟨"epToIncludeDropdown", .text "all"⟩,
    ⟨"upToIncludeDropdown", .text "all"⟩, ⟨"redactVisitorIp", .switch false⟩]

def conversionParameters (tagName : String) (conversionId conversionLabel : Option String) :
    Noting (List Parameter) := do
  return [← refer tagName "conversionId" conversionId "Google Ads Conversion ID",
    ← refer tagName "conversionLabel" conversionLabel "Conversion Label",
    ⟨"enableConversionLinker", .switch true⟩, ⟨"rdp", .switch false⟩]

def remarketingParameters (tagName : String) (conversionId : Option String) : Noting (List Parameter) := do
  return [← refer tagName "conversionId" conversionId "Google Ads Conversion ID",
    ⟨"enableConversionLinker", .switch true⟩, ⟨"enableDynamicRemarketing", .switch true⟩, ⟨"rdp", .switch false⟩]

/-- The secrets of a vendor are looked up by their names. -/
def vendorParameters (d : Draft) (v : TemplateVendor) (tagName : String) : Noting (List Parameter) := do
  let credentials ← v.credentials.mapM fun c => refer tagName c.parameter (d.findConstant? c.name) c.title
  return credentials ++ if v.tagType == "lnq" then [⟨"eventDataGroup", .text "conversion"⟩] else []

/-- The parameters of the server tag that a tag becomes. The server tag has its name and its type already. -/
def parametersFor (d : Draft) (tag : Entity) (name : String) (serverType : Json) : Noting (List Parameter) :=
  let conversionId := d.constantFor? (tag.parameterValue "conversionId")
  match templateVendor? tag.type.textOrEmpty with
  | some v => d.vendorParameters v name
  | none =>
    match serverType with
    | .str "sgtmadsct" =>
      conversionParameters name conversionId (d.constantFor? (tag.parameterValue "conversionLabel"))
    | .str "sgtmadsremarket" => remarketingParameters name conversionId
    | _ => ga4Parameters name (d.constantFor? (measurementId tag))

def ga4TagName : String := "SSG - GA4 - All Events"

def linkerTagName : String := "SSG - Conversion Linker"

/-- Adds the tag that goes with every migration of GA4. -/
def addGa4Tag (s : Selection) (trigger : Nat) (d : Draft) : Draft :=
  if s.flag "hasGA4Tags" then
    d.addTag ga4TagName defaultTagType (ga4Parameters ga4TagName (d.findConstant? "ga4 measurement id"))
      trigger (d.folderId? "GA4")
  else d

/-- Adds the tag that goes with every migration of advertising. -/
def addLinkerTag (s : Selection) (trigger : Nat) (d : Draft) : Draft :=
  if s.flag "hasGoogleAds" then
    d.addTag linkerTagName "sgtmadscl"
      (return [⟨"enableLinkerParams", .switch false⟩, ⟨"enableCookieOverrides", .switch false⟩]) trigger
      (d.folderId? "Google Ads")
  else d

/-- Adds the tags that fire on all events. -/
def addBaseTags (s : Selection) (d : Draft) : Draft :=
  match d.triggerFor? allEvents with
  | none => d
  | some trigger => (d.addGa4Tag s trigger).addLinkerTag s trigger

def untypedWarning (tag : Entity) : String :=
  "Tag '" ++ (tag.get "name").text ++ "' (" ++ tag.type.text ++
    ") has no server tag type; using default type " ++ defaultTagType

/-- The name of the server tag of a tag. -/
def serverTagName (c : Container) (tag : Entity) : String :=
  "SSG - " ++ label tag.type.textOrEmpty ++ " - " ++ c.serverEvent tag

def serverTagType (catalog : Catalog) (tag : Entity) : Json :=
  (tagType? catalog tag.type.textOrEmpty).getD defaultTagType

/-- What is noted about a migrated tag. -/
def noteOf (c : Container) (catalog : Catalog) (tag : Entity) : Migrated :=
  ⟨tag.get "name", serverTagName c tag, serverTagType catalog tag⟩

/-- Adds the server tag of a tag whose event has a trigger. -/
def addTagOf (c : Container) (catalog : Catalog) (d : Draft) (tag : Entity) : Draft :=
  match d.triggerFor? (c.serverEvent tag) with
  | none => d
  | some trigger =>
    let name := serverTagName c tag
    let type := serverTagType catalog tag
    let d := if (tagType? catalog tag.type.textOrEmpty).isNone then d.warn (untypedWarning tag) else d
    let d := d.addTag name type (d.parametersFor tag name type) trigger
      ((folderName? tag.type.textOrEmpty).bind d.folderId?)
    { d with migrated := d.migrated ++ [noteOf c catalog tag] }

def addTags (s : Selection) (c : Container) (catalog : Catalog) (d : Draft) : Draft :=
  s.tags.foldl (addTagOf c catalog) (d.addBaseTags s)

/- What is left to do -/

/-- The constants that wait for a value. -/
def constantGaps (d : Draft) : List Gap :=
  (d.constants.filter fun c => isPlaceholder c.value).map fun c => ⟨c.name, c.value⟩

end Draft

end TagAudit.Server

import TagAudit.Migration.Vendor
import TagAudit.Container.Reference

namespace TagAudit

/-- Which part of a container can move to a server, and which vendors it involves. -/
structure Analysis where
  tagsToMigrate : List Entity
  clientOnlyTags : List Entity
  triggersToMigrate : List Entity
  complexTriggers : List Entity
  variablesToMigrate : List Entity
  flags : List (String × Bool)
  vendors : List Vendor

namespace Analysis

/-- How well the counts and facts of an analysis speak for a migration, from 0 to 100. -/
def score (tags clientOnly : Nat) (ga4 customEvent withVariables ads : Bool) : Int :=
  let share := if tags + clientOnly = 0 then 0.0
    else tags.toFloat / (tags + clientOnly).toFloat * 40.0
  let points := share + (if ga4 then 20.0 else 0.0)
  let points := points + (if customEvent then 15.0 else 0.0)
  let points := points + (if withVariables then 10.0 else 0.0)
  let points := points + (if ads then 10.0 else 0.0)
  let points := if 10 < clientOnly then points - (min clientOnly 20).toFloat else points
  max 0 (min 100 (floorInt (points + 0.5)))

/-- A client that the server container needs. -/
structure Client where
  name : String
  type : String
  required : Bool
  priority : String
  description : String

def Client.toJson (c : Client) : Json :=
  .obj [("name", c.name), ("type", c.type), ("required", c.required), ("priority", c.priority),
    ("description", c.description)]

def clients (ga4 ads otherMarketing : Bool) : List Client :=
  (if ga4 then
    [⟨"Google Analytics 4", "GA4", true, "critical", "GA4 client that forwards events"⟩] else []) ++
  (if ads then
    [⟨"Google Ads", "GOOGLE_ADS", true, "high", "Google Ads client for conversion tracking"⟩]
    else []) ++
  (if otherMarketing then
    [⟨"HTTP", "HTTP", false, "medium", "Generic HTTP client for other marketing tags"⟩] else []) ++
  [⟨"Google Tag", "GOOGLE_TAG", false, "low", "For Google tag integrations"⟩,
   ⟨"Conversion Linker", "CONVERSION_LINKER", false, "medium", "For cross-domain tracking"⟩]

def requiredCount (clients : List Client) : Nat := (clients.filter (·.required)).length

/-- The hours of work, and how they are spread. -/
def effort (required tags triggers userVariables : Nat) : Json :=
  let ofClients := 0.5 * required.toFloat
  let ofTags := 0.25 * tags.toFloat
  let ofTriggers := 0.15 * triggers.toFloat
  let ofVariables := 0.1 * userVariables.toFloat
  let total := 3.0 + ofClients + ofTags + ofTriggers + ofVariables + 4.0
  let days (x : Float) : Json := Numeral.ofInt (ceilInt x) ++ " days"
  .obj [("total", .int (ceilInt total)),
    ("breakdown", .obj [("setup", .int 2), ("clientChanges", .int 1),
      ("clients", .float ofClients), ("tags", .float ofTags), ("triggers", .float ofTriggers),
      ("variables", .float ofVariables), ("testing", .int 4)]),
    ("byRole", .obj [("GTM Specialist", .int (ceilInt (total * 0.7))),
      ("Developer", .int (ceilInt (total * 0.2))), ("QA", .int (ceilInt (total * 0.1)))]),
    ("timeline", .obj [("minimal", days (total / 8.0)),
      ("withTesting", days ((total + 8.0) / 8.0)),
      ("withBuffer", days ((total + 16.0) / 8.0))])]

/-- The steps of a migration: title, description, duration. -/
def stepTexts (required tags : Nat) : List (String × String × String) :=
  [("Create the server container", "Create a new server container in Google Tag Manager",
      "15 minutes"),
   ("Provision the tagging server", "Deploy the server container on Cloud Run or App Engine",
      "30-60 minutes"),
   ("Adjust the client container", "Add the transport URL to the GA4 configuration tag",
      "1-2 hours"),
   ("Set up server clients",
      "Create " ++ Numeral.ofInt required ++ " required clients in the server container",
      "30-60 minutes"),
   ("Migrate tags", "Move " ++ Numeral.ofInt tags ++ " tags to the server container",
      Numeral.ofInt (ceilInt (tags.toFloat / 5.0)) ++ " hours"),
   ("Test and validate", "Verify every event in server preview mode and in the vendor tools",
      "2-4 hours"),
   ("Remove client tags", "Pause or delete the migrated client-side tags", "30 minutes")]

def steps (required tags : Nat) : Json :=
  .arr (((stepTexts required tags).zipIdx 1).map fun ((title, description, duration), step) =>
    .obj [("step", step), ("title", title), ("description", description), ("duration", duration)])

/- The same numbers for an analysis that is given as a document of any form. -/

def anyCustomEvent : List Json → Except Fault Bool
  | [] => .ok false
  | t :: rest => do
    if (← t.getField "type").isStr "CUSTOM_EVENT" then return true else anyCustomEvent rest

def flagIn (document : Json) (flag : String) : Except Fault Bool := do
  return (← document.getField flag).holds

def sizeIn (document : Json) (field : String) : Except Fault Nat := do
  (← document.need field).size

def scoreOfDocument (document : Json) : Except Fault Int := do
  let tags ← sizeIn document "tagsToMigrate"
  let clientOnly ← sizeIn document "clientOnlyTags"
  let ga4 ← flagIn document "hasGA4"
  let customEvent ← anyCustomEvent (← (← document.need "triggersToMigrate").elements)
  let withVariables := (← document.need "variablesToMigrate").holds
  return score tags clientOnly ga4 customEvent withVariables (← flagIn document "hasGoogleAds")

def clientsOfDocument (document : Json) : Except Fault (List Client) := do
  return clients (← flagIn document "hasGA4") (← flagIn document "hasGoogleAds")
    (← flagIn document "hasOtherMarketing")

def effortOfDocument (document : Json) : Except Fault Json := do
  let required := requiredCount (← clientsOfDocument document)
  return effort required (← sizeIn document "tagsToMigrate") (← sizeIn document "triggersToMigrate")
    (← sizeIn document "variablesToMigrate")

def stepsOfDocument (document : Json) : Except Fault Json := do
  let required := requiredCount (← clientsOfDocument document)
  return steps required (← sizeIn document "tagsToMigrate")

/- An analysis as it is made from a container. -/

def flag (a : Analysis) (name : String) : Bool := (a.flags.lookup name).getD false

def readiness (a : Analysis) : Int :=
  score a.tagsToMigrate.length a.clientOnlyTags.length (a.flag "hasGA4")
    (a.triggersToMigrate.any (·.type.isStr "CUSTOM_EVENT")) (!a.variablesToMigrate.isEmpty)
    (a.flag "hasGoogleAds")

def entitiesJson (es : List Entity) : Json := .arr (es.map Entity.toJson)

/-- The fields of the document that describes an analysis. -/
def toFields (a : Analysis) : List (String × Json) :=
  [("tagsToMigrate", entitiesJson a.tagsToMigrate),
    ("clientOnlyTags", entitiesJson a.clientOnlyTags),
    ("triggersToMigrate", entitiesJson a.triggersToMigrate),
    ("complexTriggers", entitiesJson a.complexTriggers),
    ("variablesToMigrate", entitiesJson a.variablesToMigrate),
    ("readinessScore", .int a.readiness),
    ("vendorsDetected", .arr (a.vendors.map Vendor.toJson))] ++
  Vendor.flagsToJson a.flags ++
  [("hasGA4Tags", .bool (a.tagsToMigrate.any Entity.isGa4)),
    ("needsGa4Client", .bool (!a.tagsToMigrate.isEmpty))]

end Analysis

namespace Container

/-- The variables that users made and that one of the tags references. Variables and tags go
together by name. -/
def variablesFor (c : Container) (tags : List Entity) : Except Fault (List Entity) := do
  let own := c.references.filter fun r => r.kind == .tag
  let referenced := tags.flatMap fun t => (own.filter fun r => t.rawName.isStr r.source).map (·.target)
  c.userVariables.filterM fun v => do
    if v.isBuiltIn then return false
    match ← (v.get "name").scalar with
    | .str name => return referenced.contains name
    | _ => return false

/-- The vendors of a container's tags, in the order in which they occur first. -/
def vendors (c : Container) : List Vendor :=
  let keys := distinct ((c.tags.filterMap (Vendor.ofTag? Vendor.all)).map (·.key))
  keys.filterMap fun key => Vendor.all.find? (·.key == key)

def migrationAnalysis (c : Container) : Except Fault Analysis := do
  let tagsToMigrate := c.tags.filter Entity.isMigratableTag
  return {
    tagsToMigrate
    clientOnlyTags := c.tags.filter fun t => !t.isMigratableTag
    triggersToMigrate := c.triggers.filter Entity.isMigratableTrigger
    complexTriggers := c.triggers.filter fun t => !t.isMigratableTrigger
    flags := ← Vendor.flags c.tags
    variablesToMigrate := ← c.variablesFor tagsToMigrate
    vendors := c.vendors }

/-- An analysis splits the tags of its container, and its flags are set by the types of all of them. -/
theorem of_migrationAnalysis {c : Container} {a : Analysis} (run : c.migrationAnalysis = .ok a) :
    a.tagsToMigrate = c.tags.filter Entity.isMigratableTag ∧
    a.clientOnlyTags = c.tags.filter (fun t => !t.isMigratableTag) ∧
    a.flags = Vendor.flagsOfTypes (c.tags.filterMap (·.type.text?)) := by
  obtain ⟨flags, ofFlags, run⟩ := ok_of_bind run
  obtain ⟨referenced, _, run⟩ := ok_of_bind run
  obtain ⟨_, _, ofFlags⟩ := ok_of_bind ofFlags
  cases run
  cases ofFlags
  exact ⟨rfl, rfl, rfl⟩

end Container

end TagAudit

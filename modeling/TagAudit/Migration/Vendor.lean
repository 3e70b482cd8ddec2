import TagAudit.Rules.Trait

namespace TagAudit

/-- A vendor, and how its tags are recognized. -/
structure Vendor where
  key : String
  label : String
  tagTypes : List String
  nameHints : List String

namespace Vendor

def all : List Vendor :=
  [⟨"ga4", "GA4", ["gawc", "gaawe"], ["ga4"]⟩,
   ⟨"google_ads", "Google Ads", ["awct", "adsct"], ["ads", "google ads"]⟩,
   ⟨"floodlight", "Floodlight", ["flc", "fls"], ["floodlight"]⟩,
   ⟨"facebook", "Facebook", ["fbq"], ["facebook", "meta"]⟩,
   ⟨"linkedin", "LinkedIn", ["lnq"], ["linkedin"]⟩,
   ⟨"microsoft_ads", "Microsoft Ads", ["ms"], ["microsoft", "bing"]⟩]

def toJson (v : Vendor) : Json :=
  .obj [("key", v.key), ("label", v.label), ("supported", true),
    ("tagTypes", Json.texts v.tagTypes), ("nameHints", Json.texts v.nameHints)]

/-- A tag belongs to a vendor by its type or by a hint in its name. -/
def owns (v : Vendor) (tag : Entity) : Bool :=
  tag.type.isOneOf v.tagTypes || Text.containsAny tag.lowerName v.nameHints

/-- The first vendor of a list that a tag belongs to. -/
def ofTag? (vendors : List Vendor) (tag : Entity) : Option Vendor := vendors.find? (·.owns tag)

/-- Whether a tag belongs to the vendor that a document of any form describes. -/
def describedOwns (vendor : Json) (tag : Entity) : Except Fault Bool := do
  if ← tag.type.isIn (← vendor.need "tagTypes") then return true
  let hints ← (← vendor.need "nameHints").elements
  hints.anyM fun hint => do return Text.contains tag.lowerName (← hint.joinable)

/-- The key of the first described vendor that a tag belongs to; null where there is none. -/
def keyIn : (vendors : List Json) → (tag : Entity) → Except Fault Json
  | [], _ => .ok .null
  | v :: rest, tag => do
    if ← describedOwns v tag then v.need "key" else keyIn rest tag

/-- The flags of an analysis and the tag types that set them. -/
def flagTypes : List (String × List String) :=
  [("hasGA4", ["gawc", "gaawe"]), ("hasGoogleAds", ["awct", "adsct"]),
    ("hasOtherMarketing", ["fbq", "lnq", "ms"]), ("hasFacebook", ["fbq"]),
    ("hasLinkedIn", ["lnq"]), ("hasMicrosoftAds", ["ms"])]

/-- The flags that tags of these types set. -/
def flagsOfTypes (types : List String) : List (String × Bool) :=
  flagTypes.map fun (flag, setting) => (flag, setting.any types.contains)

/-- The flags that some tags set. Types are collected as a set. -/
def flags (tags : List Entity) : Except Fault (List (String × Bool)) := do
  let _ ← tags.mapM (·.type.scalar)
  return flagsOfTypes (tags.filterMap (·.type.text?))

def flagsToJson (flags : List (String × Bool)) : List (String × Json) :=
  flags.map fun (flag, set) => (flag, .bool set)

end Vendor

namespace Entity

def migratableTypes : List String :=
  ["gaawe", "gawc", "awct", "adsct", "flc", "fls", "img", "fbq", "lnq", "ms"]

/-- Whether a tag can move to a server: by its type, or a custom HTML tag by its network calls. -/
def isMigratableTag (tag : Entity) : Bool :=
  if tag.type.isStr "html" then Text.containsAny tag.html ["fetch(", "XMLHttpRequest", "sendBeacon"]
  else tag.type.isOneOf migratableTypes

def isMigratableTrigger (trigger : Entity) : Bool :=
  trigger.type.isOneOf
    ["PAGE_VIEW", "CUSTOM_EVENT", "LINK_CLICK", "FORM_SUBMIT", "SCROLL", "TIMER"]

/-- Why a tag has to stay in the browser. -/
def clientSideReason (tag : Entity) : Except Fault String := do
  let rawName := tag.get "name"
  let name := Text.lower (← if rawName.holds then rawName.needText else .ok "")
  let type := if tag.type.holds then tag.type else .str ""
  if type.isStr "html" then return "Custom HTML with DOM manipulation"
  if type.isStr "cmp" || Text.contains name "consent" then
    return "Consent management needs browser APIs"
  if type.isStr "a" || Text.containsAny name ["optimizely", "ab test"] then
    return "A/B testing must run client-side"
  if Text.startsWith (← type.needText) "k" then return "Built-in tag"
  return "Requires browser context"

/-- The server client that a migrated tag goes with. -/
def suggestedClient (tag : Entity) : String :=
  if tag.type.isOneOf ["gaawe", "gawc", "flc", "fls"] then "Google Analytics 4"
  else if tag.type.isOneOf ["awct", "adsct"] then "Google Ads"
  else "HTTP"

def triggerNote (trigger : Entity) : String :=
  match trigger.type with
  | .str "CUSTOM_EVENT" => "Available automatically as a server event trigger"
  | .str "PAGE_VIEW" => "Client page views arrive as server-side page_view events"
  | .str "LINK_CLICK" => "Link click events must be sent by the client"
  | .str "FORM_SUBMIT" => "Form submit events must be sent by the client"
  | _ => "Can be used as an event trigger"

/-- How urgent the migration of a tag is. Types are looked up as keys. -/
def migrationPriority (tag : Entity) : Except Fault String := do
  match ← tag.type.scalar with
  | .str "gawc" => return "critical"
  | .str "gaawe" | .str "awct" | .str "flc" | .str "fls" => return "high"
  | _ => return "medium"

end Entity

end TagAudit

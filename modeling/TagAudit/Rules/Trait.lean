import TagAudit.Container
import TagAudit.Container.Unused
import TagAudit.Text.CaseMap
import TagAudit.Text.Word

namespace TagAudit.Entity

def lowerName (e : Entity) : String := Text.lower e.name

/-- The code of a custom HTML tag. -/
def html (tag : Entity) : String :=
  if tag.type.isStr "html" then (tag.parameterValueOr "html" "").textOrEmpty else ""

/-- The names of the markers that hold of a text. -/
def marked (rows : List (String × Bool)) : List String :=
  (rows.filter (·.2)).map (·.1)

/-- Why a custom HTML tag may block rendering. -/
def blockingReasons (tag : Entity) : List String :=
  let html := tag.html
  marked [("document.write", Text.contains html "document.write"),
    ("async=false", Text.contains html "async=false"),
    ("synchronous <script>", Text.contains html "<script" && !Text.contains html "async")]

/-- Why the code of a custom HTML tag is a risk. -/
def riskReasons (tag : Entity) : List String :=
  let html := Text.lower tag.html
  marked [("document.write", Text.contains html "document.write"),
    ("eval()", Text.contains html "eval("),
    ("inline event handler", Text.containsAny html ["onerror=", "onload="])]

def personalDataWords : List String :=
  ["email", "mail", "e-mail", "phone", "telephone", "mobile", "name", "firstname", "lastname",
    "fullname", "address", "street", "zip", "postal", "ssn", "social", "creditcard", "card"]

/-- Whether a variable may read personal data from the page. -/
def capturesPersonalData (v : Entity) : Bool :=
  !v.isBuiltIn && Text.containsAny v.lowerName personalDataWords && v.type.isOneOf ["jsm", "d"]

def marketingTypes : List String := ["awct", "adsct", "flc", "fls", "ms", "fbq", "lnq", "baut"]

def isMarketing (tag : Entity) : Bool :=
  tag.type.isOneOf marketingTypes ||
    Text.containsAny tag.lowerName ["facebook", "linkedin", "tiktok"]

def isConsent (tag : Entity) : Bool :=
  tag.type.isStr "cmp" ||
    Text.containsAny tag.lowerName ["consent", "cookiebot", "onetrust", "one-trust"]

/-- A parameter's value where it is a text without references. -/
def literalParameter? (tag : Entity) (key : String) : Option String :=
  match tag.parameterValue key with
  | .str s => if s.isEmpty || Text.contains s "\x7b\x7b" then none else some s
  | _ => none

def firesOnAllPages (tag : Entity) : Bool := tag.firingIds.contains allPagesId

/-- What a deprecated tag type stands for. Types are looked up as keys. -/
def deprecation? (tag : Entity) : Except Fault (Option String) := do
  match ← tag.type.scalar with
  | .str "ua" => return some "Universal Analytics (sunset July 2023)"
  | .str "ga" => return some "Classic Analytics (sunset)"
  | .str "utm" => return some "Legacy UTM tag"
  | .str "tc" => return some "Legacy conversion linker"
  | _ => return none

def isLegacyAnalytics (tag : Entity) : Bool := tag.type.isOneOf ["ua", "ga"]

def isGa4 (tag : Entity) : Bool := tag.type.isOneOf ["gaawe", "gawc"]

/-- Whether the name starts with at least two capitals and a dash, as in `GA - Pageview`. -/
def hasTypeLabel (tag : Entity) : Bool :=
  let name := tag.name.toList
  2 ≤ (name.takeWhile Char.isUpper).length &&
    (Text.trimStart (name.dropWhile Char.isUpper)).head? == some '-'

/-- Whether the name holds more than word characters, blanks, dashes and parentheses. -/
def hasSpecialCharacters (tag : Entity) : Bool :=
  tag.name.toList.any fun c => !(Text.isWord c || Text.isBlank c || ['-', '(', ')'].contains c)

def isMisnamedPageView (trigger : Entity) : Bool :=
  trigger.type.isStr "PAGE_VIEW" && !Text.containsAny trigger.lowerName ["page", "seite"]

def hasBlankInName (v : Entity) : Bool := !v.isBuiltIn && v.name.toList.contains ' '

def isComplexTrigger (trigger : Entity) : Bool :=
  let conditions := (trigger.get "filter").items.length + (trigger.get "condition").items.length
  (trigger.type.isStr "CUSTOM_EVENT" && 5 < conditions) ||
    (trigger.type.isOneOf ["CLICK", "SUBMIT"] && (trigger.parameter? "waitForTags").isSome)

def hasBlockingTriggers (tag : Entity) : Bool := !(tag.get "blockingTriggerId").items.isEmpty

def hasHardcodedId (tag : Entity) : Bool :=
  (tag.literalParameter? "measurementId").isSome || (tag.literalParameter? "conversionId").isSome

/-- A GA4 event tag that sends no event parameters. -/
def isBareEvent (tag : Entity) : Bool :=
  let parameters := (tag.parameter? "eventParameters").or (tag.parameter? "eventSettingsTable")
  tag.type.isStr "gaawe" && (parameters.all fun p => (p.get "list").items.isEmpty)

def isEarly (tag : Entity) : Bool := (tag.parameter? "earlyEventParams").isSome

/-- Whether a tag says which consent it needs. -/
def hasConsentSetting (tag : Entity) : Bool :=
  match tag.get "consentSettings" with
  | .obj fields =>
    let status := (Json.lookup fields "consentStatus").getD .null
    !status.isNull && !status.isStr "NOT_SET"
  | _ => false

def hasNotes (e : Entity) : Bool :=
  let notes := e.get "notes"
  notes.holds && !(Text.trim notes.text.toList).isEmpty

end TagAudit.Entity

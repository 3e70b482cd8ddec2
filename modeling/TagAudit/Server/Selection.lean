import TagAudit.Migration.Vendor
import TagAudit.Server.Mapping

namespace TagAudit.Server

/-- What a server container is made from: an analysis, and the tags to migrate. The type of each of
the tags is a text. -/
structure Selection where
  analysis : List (String × Json)
  tags : List Entity

namespace Selection

def flag (s : Selection) (name : String) : Bool :=
  ((Json.lookup s.analysis name).getD .null).holds

/-- Whether there is something to migrate that listens to all events. -/
def wantsAllEvents (s : Selection) : Bool := s.flag "needsGa4Client" || s.flag "hasGoogleAds"

/-- The objects among the tags to migrate whose type is a text. -/
def candidates (analysis : List (String × Json)) : List Entity :=
  (((Json.lookup analysis "tagsToMigrate").getD .null).items.filterMap Entity.ofJson?).filter
    (·.type.isText)

def vendorKey (tag : Entity) : Scalar :=
  match vendorKey? tag.type.textOrEmpty with
  | some key => .str key
  | none => .null

/-- Sets a field unless the analysis has it. -/
def complete (analysis : List (String × Json)) (flag : String) (value : Bool) : List (String × Json) :=
  if (Json.lookup analysis flag).isSome then analysis else Json.assign analysis flag value

/-- Whether the members of a set have an order among them. -/
def areOrdered (set : List Scalar) : Bool :=
  set.length ≤ 1 || set.all (·.toJson.isText) || set.all fun s => (Number.ofJson? s.toJson).isSome

def ga4Types : List String := ["gawc", "gaawe"]

/-- All tags to migrate. Flags that are absent are filled in. -/
def ofAll (analysis : List (String × Json)) : Selection :=
  let tags := candidates analysis
  let fields := Json.assign analysis "tagsToMigrate" (.arr (tags.map Entity.toJson))
  let fields := complete fields "hasGA4Tags" (tags.any (·.type.isOneOf ga4Types))
  ⟨complete fields "needsGa4Client" !tags.isEmpty, tags⟩

/-- The tags of some vendors. The flags are those of the tags that are left. -/
def ofVendors (analysis : List (String × Json)) (vendors : List Scalar) : Selection :=
  let tags := (candidates analysis).filter fun t => vendors.contains (vendorKey t)
  let flags := Vendor.flagsOfTypes (tags.map (·.type.textOrEmpty))
  let fields := Json.assign analysis "tagsToMigrate" (.arr (tags.map Entity.toJson))
  let fields := Json.assignAll fields (Vendor.flagsToJson flags)
  let fields := Json.assign fields "hasGA4Tags" ((flags.lookup "hasGA4").getD false)
  ⟨Json.assign fields "needsGa4Client" !tags.isEmpty, tags⟩

/-- The tags of the selected vendors, which are listed in order; an empty set selects all tags. -/
def ofAnalysis (analysis : List (String × Json)) (vendors : List Scalar) : Except Fault Selection :=
  if vendors.isEmpty then .ok (ofAll analysis)
  else if areOrdered vendors then .ok (ofVendors analysis vendors)
  else .error .notOrdered

end Selection

end TagAudit.Server

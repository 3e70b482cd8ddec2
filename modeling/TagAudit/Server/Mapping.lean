import TagAudit.Server.Catalog
import TagAudit.Text.Blank

namespace TagAudit.Server

def tagVendors : List (String × String) :=
  [("gawc", "ga4"), ("gaawe", "ga4"), ("awct", "google_ads"), ("adsct", "google_ads"),
    ("flc", "floodlight"), ("fls", "floodlight"), ("fbq", "facebook"), ("lnq", "linkedin"),
    ("ms", "microsoft_ads")]

/-- The key of the vendor that a client tag type is selected with. -/
def vendorKey? (type : String) : Option String := tagVendors.lookup type

def tagFolders : List (String × String) :=
  [("gaawe", "GA4"), ("gawc", "GA4"), ("awct", "Google Ads"), ("adsct", "Google Ads"),
    ("flc", "Floodlight"), ("fls", "Floodlight"), ("fbq", "Facebook"), ("lnq", "LinkedIn"),
    ("ms", "Microsoft Ads")]

/-- The folder for the server tags of a client tag type. -/
def folderName? (type : String) : Option String := tagFolders.lookup type

def labels : List (String × String) :=
  [("gaawe", "GA4"), ("gawc", "GA4"), ("awct", "ADS"), ("adsct", "ADS"), ("flc", "Floodlight"),
    ("fls", "Floodlight"), ("img", "Image"), ("fbq", "Facebook"), ("lnq", "LinkedIn"),
    ("ms", "Microsoft Ads")]

/-- What stands for a client tag type in the names of server tags. -/
def label (type : String) : String := (labels.lookup type).getD "Custom"

/-- A text that marks a value to be filled in by hand. -/
def placeholder (what : String) : String := "[HIER_EINFUEGEN: " ++ what ++ "]"

def isPlaceholder (value : String) : Bool := Text.startsWith value "[HIER_EINFUEGEN:"

/-- A text that can be copied as it is: neither blank nor with a reference in it. -/
def isConcrete (value : String) : Bool :=
  !(Text.trim value.toList).isEmpty && !Text.contains value "\x7b\x7b"

/-- A secret that the server tags of a vendor need. -/
structure Credential where
  /-- The parameter of the server tags. -/
  parameter : String
  /-- How the secret's constant is called, and how its placeholder calls it. -/
  name : String
  title : String

def constantName (what : String) : String := "const - " ++ what

/-- A vendor without a server tag type of its own, whose tags need a template. -/
structure TemplateVendor where
  key : String
  tagType : String
  /-- The flag of an analysis that tells of such tags. -/
  flag : String
  credentials : List Credential

def templateVendors : List TemplateVendor :=
  [⟨"facebook", "fbq", "hasFacebook",
      [⟨"accessToken", "facebook access token", "Facebook Access Token"⟩,
       ⟨"pixelId", "facebook pixel id", "Facebook Pixel ID"⟩]⟩,
   ⟨"linkedin", "lnq", "hasLinkedIn",
      [⟨"accessToken", "linkedin access token", "LinkedIn Access Token"⟩,
       ⟨"conversionRuleUrn", "linkedin conversion rule urn", "LinkedIn Conversion Rule URN"⟩]⟩,
   ⟨"microsoft_ads", "ms", "hasMicrosoftAds",
      [⟨"uetTagId", "microsoft uet tag id", "Microsoft UET Tag ID"⟩]⟩]

def templateVendor? (type : String) : Option TemplateVendor :=
  templateVendors.find? fun v => v.tagType == type

/-- The type of server tags that need nothing of their own. -/
def defaultTagType : String := "sgtmgaaw"

def tagTypes : List (String × String) :=
  [("gaawe", "sgtmgaaw"), ("gawc", "sgtmgaaw"), ("awct", "sgtmadsct"), ("adsct", "sgtmadsremarket"),
    ("flc", "sgtmgaaw"), ("fls", "sgtmgaaw"), ("img", "sgtmgaaw")]

/-- The server tag type for a client tag type: from the catalog, where the vendor needs a template. -/
def tagType? (catalog : Catalog) (type : String) : Option Json :=
  match templateVendor? type with
  | some v => (catalog.lookup v.key).map (·.typeId)
  | none => (tagTypes.lookup type).map .str

end TagAudit.Server

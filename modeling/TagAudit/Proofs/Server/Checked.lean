import TagAudit.Proofs.Server.Addressing
import TagAudit.Proofs.Server.Preselection

namespace TagAudit

namespace Json

/-- What a table has for a key. Lists and objects are no keys, and a table has nothing for keys that are no texts. -/
def entryIn {α : Type} (key : Json) (table : String → Option α) : Except Fault (Option α) := do
  match ← key.scalar with
  | .str s => return table s
  | _ => return none

/-- A text as it is. Any other value counts as the empty text and is not read as one. -/
def guardedText (value : Json) : Except Fault String := if value.isText then value.needText else .ok ""

theorem entryIn_str {α : Type} (s : String) (table : String → Option α) :
    (Json.str s).entryIn table = .ok (table s) := rfl

theorem entryIn_ok {α : Type} {key : Json} (text : key.isText = true) (table : String → Option α) :
    key.entryIn table = .ok (table key.textOrEmpty) := by
  obtain ⟨s, rfl⟩ := exists_of_isText text
  rfl

theorem scalar_ok {value : Json} (text : value.isText = true) : value.scalar = .ok (.str value.textOrEmpty) := by
  obtain ⟨s, rfl⟩ := exists_of_isText text
  rfl

theorem guardedText_ok (value : Json) : value.guardedText = .ok value.textOrEmpty := by
  cases value <;> rfl

end Json

namespace Server.Checked

/- The steps of a generation once more. Every operation that is not defined for values of all types is one that may
fail here: lists and objects are no keys and no members of sets, and only texts can be searched, trimmed and put in
lower case. -/

/-- The key of a tag's vendor. Types are looked up as keys. -/
def vendorKey (tag : Entity) : Except Fault Scalar := do
  match ← tag.type.entryIn vendorKey? with
  | some key => return .str key
  | none => return .null

/-- The selection of the tags of some vendors. The vendors are sorted, and the types of the tags collected. -/
def selection (analysis : List (String × Json)) (vendors : List Scalar) : Except Fault Selection := do
  if vendors.isEmpty then return Selection.ofAll analysis
  let tags ← (Selection.candidates analysis).filterM fun t => do return vendors.contains (← vendorKey t)
  let flags ← Vendor.flags tags
  let fields := Json.assign analysis "tagsToMigrate" (.arr (tags.map Entity.toJson))
  let fields := Json.assignAll fields (Vendor.flagsToJson flags)
  let fields := Json.assign fields "hasGA4Tags" ((flags.lookup "hasGA4").getD false)
  if Selection.areOrdered vendors then return ⟨Json.assign fields "needsGa4Client" !tags.isEmpty, tags⟩
  else .error .notOrdered

/-- A value is looked up and copied as a text. -/
def addValue (d : Draft) (value : Json) (base what : String) : Except Fault Draft := do
  if !value.isText || !value.holds then return d
  if (← value.entryIn (d.constantOf.lookup ·)).isSome then return d
  let text ← value.needText
  let name := d.freeName base
  let d := d.addConstant name (if isConcrete text then text else placeholder what)
  return { d with constantOf := d.constantOf ++ [(text, name)] }

def constantFor (d : Draft) (value : Json) : Except Fault (Option String) :=
  if value.isText then value.entryIn (d.constantOf.lookup ·) else .ok none

/-- The name of a tag is put in lower case. -/
def conversionLabelName (tag : Entity) : Except Fault String := do
  let plain := " ".intercalate (Text.plainBlocks Text.isBlank (← (tag.get "name").guardedText))
  let default := if tag.type.isStr "adsct" then "remarketing" else "conversion"
  return constantName ("google ads " ++ (if plain.isEmpty then default else plain) ++ " conversion label")

def addConversion (d : Draft) (tag : Entity) : Except Fault Draft := do
  let title := if tag.name.isEmpty then "Tag" else tag.name
  let d ← addValue d (tag.parameterValue "conversionId") (constantName "google ads conversion id")
    "Google Ads Conversion ID, z.B. AW-123456789"
  addValue d (tag.parameterValue "conversionLabel") (← conversionLabelName tag) ("Conversion Label fuer " ++ title)

/-- The secrets of a vendor are looked up by the type of the tag. -/
def addConstantsOf (d : Draft) (tag : Entity) : Except Fault Draft := do
  let d ← if tag.type.isOneOf ["gaawe", "gawc"] then
      addValue d (Draft.measurementId tag) (constantName "ga4 measurement id")
        "GA4 Measurement ID, z.B. G-XXXXXXXXXX"
    else if tag.type.isOneOf ["awct", "adsct"] then addConversion d tag
    else .ok d
  return d.addCredentials ((← tag.type.entryIn fun type => (templateVendor? type).map (·.credentials)).getD [])

def addConstants (s : Selection) (address : Option String) (d : Draft) : Except Fault Draft := do
  return (← s.tags.foldlM addConstantsOf d).ensureConstant (constantName "transport url") (Draft.addressOr address)

/-- The event of a trigger. Its type is looked up where it is a text, and its name is put in lower case. -/
def eventName (trigger : Entity) : Except Fault String := do
  let slug := Text.slug "unknown_event" (← (trigger.get "name").guardedText)
  if trigger.type.isStr "CUSTOM_EVENT" then return trigger.eventValues.head?.getD slug
  if trigger.type.isText then return (← trigger.type.entryIn (Entity.fixedEvents.lookup ·)).getD slug
  return slug

def serverEvent (c : Container) (tag : Entity) : Except Fault String :=
  match c.firstTrigger? tag with
  | some trigger => eventName trigger
  | none => .ok "unknown_event"

def addTriggerOf (c : Container) (d : Draft) (tag : Entity) : Except Fault Draft := do
  let event ← serverEvent c tag
  if (d.triggerFor? event).isSome then return d
  return d.addTrigger event ("[" ++ tag.serverClient ++ "] " ++ event) (some event) tag.serverClient

def addTriggers (s : Selection) (c : Container) (d : Draft) : Except Fault Draft :=
  s.tags.foldlM (addTriggerOf c) (d.addAllEventsTrigger s)

/-- The types of vendors with templates are compared, all others looked up. -/
def tagType (catalog : Catalog) (tag : Entity) : Except Fault (Option Json) :=
  match templateVendors.find? fun v => tag.type.isStr v.tagType with
  | some v => .ok ((catalog.lookup v.key).map (·.typeId))
  | none => do return (← tag.type.entryIn (tagTypes.lookup ·)).map .str

/-- The parameters of a server tag, still to be made. Values are looked up where they are texts. -/
def parametersFor (d : Draft) (tag : Entity) (name : String) (serverType : Json) :
    Except Fault (Noting (List Parameter)) := do
  match templateVendors.find? fun v => tag.type.isStr v.tagType with
  | some _ => return d.parametersFor tag name serverType
  | none =>
    if serverType.isOneOf ["sgtmadsct", "sgtmadsremarket"] then
      let conversionId ← constantFor d (tag.parameterValue "conversionId")
      if serverType.isStr "sgtmadsct" then
        return Draft.conversionParameters name conversionId (← constantFor d (tag.parameterValue "conversionLabel"))
      return Draft.remarketingParameters name conversionId
    else return Draft.ga4Parameters name (← constantFor d (Draft.measurementId tag))

/-- The server tag of a tag. Its type, its label and its folder are looked up by the type of the tag. -/
def addTagOf (c : Container) (catalog : Catalog) (d : Draft) (tag : Entity) : Except Fault Draft := do
  let event ← serverEvent c tag
  match d.triggerFor? event with
  | none => return d
  | some trigger =>
    let mapped ← tagType catalog tag
    let type := mapped.getD defaultTagType
    let d := if mapped.isNone then d.warn (Draft.untypedWarning tag) else d
    let label := (← tag.type.entryIn (labels.lookup ·)).getD "Custom"
    let name := "SSG - " ++ label ++ " - " ++ event
    let folder ← tag.type.entryIn folderName?
    let parameters ← parametersFor d tag name type
    let d := d.addTag name type parameters trigger (folder.bind d.folderId?)
    return { d with migrated := d.migrated ++ [⟨tag.get "name", name, type⟩] }

def addTags (s : Selection) (c : Container) (catalog : Catalog) (d : Draft) : Except Fault Draft :=
  s.tags.foldlM (addTagOf c catalog) (d.addBaseTags s)

/-- The parameters of a tag become a list before they are gone through. -/
def upsertParameter (tag : List (String × Json)) (key value : String) : Except Fault (List (String × Json)) := do
  let tag := if ((Json.lookup tag "parameter").getD .null).isList then tag
    else Json.assign tag "parameter" (.arr [])
  let parameters ← (← (Json.obj tag).need "parameter").elements
  return Json.assign tag "parameter" (.arr (setParameter key value parameters))

def patchTag (address : String) (configured : Bool) (tag : Json) : Except Fault Json :=
  match tag, addressKey? configured tag with
  | .obj fields, some key => do return .obj (← upsertParameter fields key address)
  | _, _ => .ok tag

def clientPatch (c : Container) (address : Option String) : Except Fault (List (String × Json)) := do
  match ← (← (Json.obj c.document).need "containerVersion").getField "tag" with
  | .arr tags =>
    let patched ← tags.mapM (patchTag (Draft.addressOr address) (tags.any (isOfType "gawc")))
    return Json.assign c.document "containerVersion" (.obj (Json.assign c.version "tag" (.arr patched)))
  | _ => return c.document

/- None of the operations fails, whatever the tags and the container are, as the tags of a selection have texts as
their types. -/

theorem vendorKey_ok {tag : Entity} (text : tag.type.isText = true) :
    vendorKey tag = .ok (Selection.vendorKey tag) := by
  rw [vendorKey, Json.entryIn_ok text, Selection.vendorKey]
  cases vendorKey? tag.type.textOrEmpty <;> rfl

theorem flags_ok {tags : List Entity} (text : ∀ tag ∈ tags, tag.type.isText = true) :
    Vendor.flags tags = .ok (Vendor.flagsOfTypes (tags.map (·.type.textOrEmpty))) := by
  have keys : tags.mapM (·.type.scalar) = .ok (tags.map fun tag => Scalar.str tag.type.textOrEmpty) :=
    mapM_ok fun tag member => Json.scalar_ok (text tag member)
  have types : tags.filterMap (·.type.text?) = tags.map (·.type.textOrEmpty) := by
    rw [← List.filterMap_eq_map]
    refine List.filterMap_congr fun tag member => ?_
    obtain ⟨s, type⟩ := Json.exists_of_isText (text tag member)
    rw [Function.comp_apply, type]
    rfl
  rw [Vendor.flags, keys, types]
  rfl

theorem selection_eq (analysis : List (String × Json)) (vendors : List Scalar) :
    selection analysis vendors = Selection.ofAnalysis analysis vendors := by
  unfold selection Selection.ofAnalysis
  split
  · rfl
  · have kept : (Selection.candidates analysis).filterM (fun t => do return vendors.contains (← vendorKey t)) =
        .ok ((Selection.candidates analysis).filter fun t => vendors.contains (Selection.vendorKey t)) := by
      refine filterM_ok fun t member => ?_
      rw [vendorKey_ok (Selection.candidates_isText member)]
      rfl
    have flags := flags_ok fun t (member : t ∈ (Selection.candidates analysis).filter
      fun t => vendors.contains (Selection.vendorKey t)) => Selection.candidates_isText (List.mem_filter.mp member).1
    rw [kept]
    dsimp only [bind, Except.bind]
    rw [flags]
    rfl

theorem addValue_ok (d : Draft) (value : Json) (base what : String) :
    addValue d value base what = .ok (d.addValue value base what) := by
  cases value with
  | str text =>
    cases empty : text.isEmpty with
    | true =>
      simp only [addValue, Draft.addValue, Json.isText, Json.holds, empty, Bool.not_true, Bool.not_false,
        Bool.or_true, Bool.true_or, if_true]
      rfl
    | false =>
      cases known : (d.constantOf.lookup text).isSome with
      | true =>
        simp only [addValue, Draft.addValue, Json.isText, Json.holds, empty, known, Json.entryIn_str, ok_bind,
          Bool.not_true, Bool.not_false, Bool.or_true, Bool.or_false, Bool.false_eq_true, if_true, if_false]
        rfl
      | false =>
        simp only [addValue, Draft.addValue, Json.isText, Json.holds, empty, known, Json.entryIn_str, Json.needText,
          ok_bind, Bool.not_true, Bool.not_false, Bool.or_false, Bool.false_eq_true, if_false]
        rfl
  | _ => rfl

theorem constantFor_ok (d : Draft) (value : Json) : constantFor d value = .ok (d.constantFor? value) := by
  cases value <;> rfl

theorem conversionLabelName_ok (tag : Entity) : conversionLabelName tag = .ok (Draft.conversionLabelName tag) := by
  rw [conversionLabelName, Json.guardedText_ok]
  rfl

theorem addConversion_ok (d : Draft) (tag : Entity) : addConversion d tag = .ok (d.addConversion tag) := by
  simp only [addConversion, addValue_ok, conversionLabelName_ok, ok_bind]
  rfl

theorem addConstantsOf_of_other {tag : Entity} {type : String} (typed : tag.type = .str type)
    (other : type ∉ ["gaawe", "gawc", "awct", "adsct"]) (d : Draft) : d.addConstantsOf tag =
      d.addCredentials (((templateVendor? type).map (·.credentials)).getD []) := by
  rw [Draft.addConstantsOf, typed]
  split
  all_goals simp_all

theorem addConstantsOf_ok {tag : Entity} (text : tag.type.isText = true) (d : Draft) :
    addConstantsOf d tag = .ok (d.addConstantsOf tag) := by
  obtain ⟨type, typed⟩ := Json.exists_of_isText text
  simp only [addConstantsOf, addValue_ok, addConversion_ok, typed, Json.entryIn_str, ok_bind]
  -- The steps branch on these four types; of all others only the secrets are looked up.
  by_cases known : type ∈ ["gaawe", "gawc", "awct", "adsct"]
  · simp only [List.mem_cons, List.not_mem_nil, or_false] at known
    rw [Draft.addConstantsOf, typed]
    rcases known with rfl | rfl | rfl | rfl <;> rfl
  · rw [addConstantsOf_of_other typed known]
    simp only [List.mem_cons, List.not_mem_nil, or_false, not_or] at known
    simp [Json.isOneOf, known]
    rfl

theorem addConstants_ok {s : Selection} (text : ∀ tag ∈ s.tags, tag.type.isText = true) (address : Option String)
    (d : Draft) : addConstants s address d = .ok (d.addConstants s address) := by
  rw [addConstants, foldlM_ok fun d tag member => addConstantsOf_ok (text tag member) d]
  rfl

theorem eventName_ok (trigger : Entity) : eventName trigger = .ok trigger.eventName := by
  cases typed : trigger.type with
  | str type =>
    by_cases custom : type = "CUSTOM_EVENT"
    · subst custom
      simp only [eventName, Entity.eventName, Json.guardedText_ok, ok_bind, typed]
      rfl
    · have other : (Json.str type).isStr "CUSTOM_EVENT" = false := by simpa [Json.isStr] using custom
      have named : trigger.eventName = (Entity.fixedEvents.lookup type).getD trigger.nameSlug := by
        rw [Entity.eventName, typed]
        split
        · rename_i same
          exact absurd (Json.str.inj same) custom
        · rename_i same
          rw [Json.str.inj same]
        · rename_i noText
          exact absurd rfl (noText type)
      rw [named]
      simp only [eventName, Json.guardedText_ok, ok_bind, typed, other, Json.entryIn_str]
      rfl
  | _ =>
    simp only [eventName, Entity.eventName, Json.guardedText_ok, ok_bind, typed]
    rfl

theorem serverEvent_ok (c : Container) (tag : Entity) : serverEvent c tag = .ok (c.serverEvent tag) := by
  unfold serverEvent Container.serverEvent
  cases c.firstTrigger? tag with
  | none => rfl
  | some trigger => exact eventName_ok trigger

theorem addTriggerOf_ok (c : Container) (d : Draft) (tag : Entity) :
    addTriggerOf c d tag = .ok (d.addTriggerOf c tag) := by
  simp only [addTriggerOf, Draft.addTriggerOf, serverEvent_ok, ok_bind]
  split
  · rfl
  · rfl

theorem addTriggers_ok (s : Selection) (c : Container) (d : Draft) :
    addTriggers s c d = .ok (d.addTriggers s c) :=
  foldlM_ok (fun d tag _ => addTriggerOf_ok c d tag) _

/-- A type of a vendor is one of a text. -/
theorem templateVendor?_eq {tag : Entity} (text : tag.type.isText = true) :
    (templateVendors.find? fun v => tag.type.isStr v.tagType) = templateVendor? tag.type.textOrEmpty := by
  obtain ⟨s, type⟩ := Json.exists_of_isText text
  rw [type, templateVendor?]
  congr 1
  funext v
  exact Bool.beq_comm

theorem tagType_ok {tag : Entity} (text : tag.type.isText = true) (catalog : Catalog) :
    tagType catalog tag = .ok (tagType? catalog tag.type.textOrEmpty) := by
  rw [tagType, tagType?, templateVendor?_eq text, Json.entryIn_ok text]
  cases templateVendor? tag.type.textOrEmpty with
  | some v => rfl
  | none => rfl

theorem parametersFor_ok {tag : Entity} (text : tag.type.isText = true) (d : Draft) (name : String)
    (serverType : Json) : parametersFor d tag name serverType = .ok (d.parametersFor tag name serverType) := by
  rw [parametersFor, templateVendor?_eq text]
  cases vendor : templateVendor? tag.type.textOrEmpty with
  | some v => rfl
  | none =>
    simp only [constantFor_ok, ok_bind, Draft.parametersFor, vendor]
    cases serverType with
    | str type =>
      by_cases conversion : type = "sgtmadsct"
      · subst conversion
        rfl
      by_cases remarketing : type = "sgtmadsremarket"
      · subst remarketing
        rfl
      simp [Json.isOneOf, conversion, remarketing]
      rfl
    | _ => rfl

theorem addTagOf_ok {tag : Entity} (text : tag.type.isText = true) (c : Container) (catalog : Catalog) (d : Draft) :
    addTagOf c catalog d tag = .ok (d.addTagOf c catalog tag) := by
  simp only [addTagOf, Draft.addTagOf, serverEvent_ok, tagType_ok text, Json.entryIn_ok text, parametersFor_ok text,
    ok_bind]
  cases d.triggerFor? (c.serverEvent tag) with
  | none => rfl
  | some trigger => rfl

theorem addTags_ok {s : Selection} (text : ∀ tag ∈ s.tags, tag.type.isText = true) (c : Container)
    (catalog : Catalog) (d : Draft) : addTags s c catalog d = .ok (d.addTags s c catalog) :=
  foldlM_ok (fun d tag member => addTagOf_ok (text tag member) c catalog d) _

/-- The parameters of a tag stand in a list, once they have been replaced where they are none. -/
theorem exists_listed (tag : List (String × Json)) : ∃ fields,
    (if ((Json.lookup tag "parameter").getD .null).isList then tag
      else Json.assign tag "parameter" (.arr [])) = fields ∧
    Json.lookup fields "parameter" = some (.arr ((Json.lookup tag "parameter").getD .null).items) ∧
    ∀ new, Json.assign fields "parameter" new = Json.assign tag "parameter" new := by
  cases found : (Json.lookup tag "parameter").getD .null with
  | arr items =>
    refine ⟨tag, rfl, ?_, fun new => rfl⟩
    cases stored : Json.lookup tag "parameter" with
    | none => simp [stored] at found
    | some value => simpa [stored, Json.items] using found
  | _ => exact ⟨_, rfl, Json.lookup_assign_self _ _ _, fun new => Json.assign_assign _ _ _ _⟩

theorem upsertParameter_ok (tag : List (String × Json)) (key value : String) :
    upsertParameter tag key value = .ok (Server.upsertParameter tag key value) := by
  obtain ⟨fields, listed, stored, assigned⟩ := exists_listed tag
  simp only [upsertParameter, listed, Json.need, stored, Json.elements, ok_bind, assigned]
  rfl

theorem patchTag_ok (address : String) (configured : Bool) (tag : Json) :
    patchTag address configured tag = .ok (Server.patchTag address configured tag) := by
  cases tag with
  | obj fields =>
    rw [patchTag_eq]
    unfold patchTag
    cases addressKey? configured (.obj fields) with
    | none => rfl
    | some key =>
      simp only [upsertParameter_ok, ok_bind]
      rfl
  | _ => rfl

theorem clientPatch_ok (c : Container) (address : Option String) :
    clientPatch c address = .ok (Server.clientPatch c address) := by
  unfold clientPatch Server.clientPatch
  have patched (tags : List Json) : tags.mapM (patchTag (Draft.addressOr address) (tags.any (isOfType "gawc"))) =
      .ok (patchTags (Draft.addressOr address) tags) := mapM_ok fun tag _ => patchTag_ok _ _ tag
  have version : (Json.obj c.document).need "containerVersion" = .ok (.obj c.version) := by
    rw [Json.need, c.version_eq]
  simp only [version, ok_bind, Json.getField, patched]
  cases found : Json.lookup c.version "tag" with
  | none => rfl
  | some value =>
    cases value with
    | arr tags => rfl
    | _ => rfl

end Server.Checked

namespace ServerGenerator

open Server

/-- The draft of a generator, made by steps that check the types of all values. -/
def checkedDraft (g : ServerGenerator) : Except Fault Draft := do
  let s ← Checked.selection g.analysis g.vendors
  let d ← Checked.addConstants s g.address (Draft.empty.addFolders s)
  let d ← Checked.addTriggers s g.container ((d.addEventVariables.addTemplates s g.catalog g.vendors).addClients s)
  Checked.addTags s g.container g.catalog d

/-- The checks never change a draft, and they refuse nothing but vendors that have no order. -/
theorem checkedDraft_eq (g : ServerGenerator) : g.checkedDraft = g.draft := by
  rw [checkedDraft, Checked.selection_eq, draft, selection]
  cases selected : Selection.ofAnalysis g.analysis g.vendors with
  | error fault => rfl
  | ok s =>
    have text (tag : Entity) (member : tag ∈ s.tags) := Selection.isText_of_ofAnalysis selected member
    simp only [ok_bind, Checked.addConstants_ok text, Checked.addTriggers_ok, Checked.addTags_ok text]
    rfl

theorem selection_of_texts {g : ServerGenerator} (texts : ∀ v ∈ g.vendors, v.toJson.isText = true) :
    ∃ s, g.selection = .ok s := by
  have ordered : Selection.areOrdered g.vendors = true := by
    simp [Selection.areOrdered, List.all_eq_true.mpr texts]
  rw [selection, Selection.ofAnalysis, if_pos ordered]
  split
  · exact ⟨_, rfl⟩
  · exact ⟨_, rfl⟩

/-- The set of some texts is one of texts. -/
theorem exists_vendors {keys : List Json} (texts : ∀ key ∈ keys, key.isText = true) : ∃ vendors,
    keys.mapM Json.scalar = .ok vendors ∧ ∀ v ∈ distinct vendors, v.toJson.isText = true := by
  refine ⟨_, mapM_ok fun key member => Json.scalar_ok (texts key member), fun v member => ?_⟩
  obtain ⟨key, _, rfl⟩ := List.mem_map.mp (mem_of_mem_distinct member)
  rfl

theorem ofAnalysis_eq (c : Container) (analysis : Option (List (String × Json))) (selected : Json) (catalog : Catalog)
    (moment : Moment) (address : Option String) :
    ServerGenerator.ofAnalysis c analysis selected catalog moment address =
      (if selected.isNull then selectedVendors (analysis.getD []) else vendorsOf selected).map fun vendors =>
        { container := c, analysis := analysis.getD [], vendors, catalog, moment, address } := by
  unfold ServerGenerator.ofAnalysis
  dsimp only
  split
  · cases selectedVendors (analysis.getD []) <;> rfl
  · cases vendorsOf selected <;> rfl

theorem exists_selected {analysis : List (String × Json)} {selected : Json}
    (own : ∀ key ∈ ((Json.lookup analysis "selectedVendors").getD .null).items, key.isText = true)
    (given : selected = .null ∨ ∃ keys, selected = Json.texts keys) : ∃ vendors,
    (if selected.isNull then selectedVendors analysis else vendorsOf selected) = .ok vendors ∧
      ∀ v ∈ vendors, v.toJson.isText = true := by
  rcases given with rfl | ⟨keys, rfl⟩
  · obtain ⟨vendors, read, texts⟩ := exists_vendors own
    refine ⟨_, ?_, texts⟩
    rw [selectedVendors, read]
    rfl
  · have listed : ∀ key ∈ keys.map Json.str, key.isText = true := by simp [Json.isText]
    obtain ⟨vendors, read, texts⟩ := exists_vendors listed
    refine ⟨distinct vendors, ?_, texts⟩
    rw [vendorsOf, Json.texts]
    simp only [Json.isNull, Json.elements, ok_bind, read]
    rfl

/-- A generator can be made and used for every container, whatever its entities are, and for an analysis with values
of all types, where vendors are selected by texts. Every step returns, even with all types of values checked: the
draft and its document, the patched client container, and the summary after it. -/
theorem generation_returns {analysis : Option (List (String × Json))} {selected : Json}
    (own : ∀ key ∈ ((Json.lookup (analysis.getD []) "selectedVendors").getD .null).items, key.isText = true)
    (given : selected = .null ∨ ∃ keys, selected = Json.texts keys) (c : Container) (catalog : Catalog)
    (moment : Moment) (address : Option String) : ∃ g d,
      ServerGenerator.ofAnalysis c analysis selected catalog moment address = .ok g ∧
      g.checkedDraft = .ok d ∧ g.draft = .ok d ∧ g.generate = .ok (g.exportOf d) ∧
      Checked.clientPatch g.container g.address = .ok g.clientPatch ∧
      ServerGenerator.summary (some d) = .ok d.summary := by
  obtain ⟨vendors, read, texts⟩ := exists_selected own given
  let g : ServerGenerator := { container := c, analysis := analysis.getD [], vendors, catalog, moment, address }
  have made : ServerGenerator.ofAnalysis c analysis selected catalog moment address = .ok g := by
    rw [ofAnalysis_eq, read]
    rfl
  obtain ⟨s, selected⟩ := selection_of_texts (g := g) texts
  have drafted := draft_of_selection selected
  exact ⟨g, _, made, g.checkedDraft_eq.trans drafted, drafted, generate_of_draft drafted,
    Checked.clientPatch_ok c address, rfl⟩

/-- An analysis with a tag whose name is a list, one whose type is a list, and one that is no object. -/
def misfits : List (String × Json) :=
  [("tagsToMigrate", .arr [.obj [("name", .arr []), ("type", "awct"), ("firingTriggerId", "1")],
    .obj [("type", .arr ["gawc"])], "gawc"]), ("hasGoogleAds", .obj []), ("selectedVendors", .arr ["google_ads"])]

theorem misfits_return : (∀ key ∈ ((Json.lookup misfits "selectedVendors").getD .null).items, key.isText = true) ∧
    ∃ g d, ServerGenerator.ofAnalysis purchases.container (some misfits) .null [] purchases.moment none = .ok g ∧
      g.checkedDraft = .ok d ∧ g.draft = .ok d ∧ g.generate = .ok (g.exportOf d) ∧
      Checked.clientPatch g.container g.address = .ok g.clientPatch ∧
      ServerGenerator.summary (some d) = .ok d.summary := by
  have own : ∀ key ∈ ((Json.lookup misfits "selectedVendors").getD .null).items, key.isText = true := by
    simp [misfits, Json.lookup, Json.items, Json.isText]
  exact ⟨own, @generation_returns (some misfits) .null own (Or.inl rfl) purchases.container [] purchases.moment none⟩

end ServerGenerator

end TagAudit

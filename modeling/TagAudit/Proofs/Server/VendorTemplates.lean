import TagAudit.Proofs.Server.Gaps

namespace TagAudit.Server

/-- The code under which tags use the custom template of a number. -/
def templateCode (id : Nat) : String := "cvt_0_" ++ Numeral.ofInt id

/-- Those of some vendors that a catalog knows, with their templates. -/
def templatesOf (catalog : Catalog) (vs : List TemplateVendor) : List (TemplateVendor × Template) :=
  vs.filterMap fun v => (catalog.lookup v.key).map fun t => (v, t)

def CustomTemplate.entity (fingerprint : String) (t : CustomTemplate) : Entity :=
  Entity.ofJson (t.toJson fingerprint)

def Ga4Client.entity (fingerprint : String) (c : Ga4Client) : Entity := Entity.ofJson (c.toJson fingerprint)

theorem CustomTemplate.toJson_eq (fingerprint : String) (t : CustomTemplate) :
    t.toJson fingerprint = (t.entity fingerprint).toJson := rfl

theorem Ga4Client.toJson_eq (fingerprint : String) (c : Ga4Client) :
    c.toJson fingerprint = (c.entity fingerprint).toJson := rfl

@[simp] theorem CustomTemplate.entity_templateData (fingerprint : String) (t : CustomTemplate) :
    (t.entity fingerprint).get "templateData" = .str t.source := by
  simp [entity, toJson, owned, Entity.ofJson, Entity.ofJson?, Entity.get, Entity.get?, Json.lookup]

@[simp] theorem CustomTemplate.entity_name (fingerprint : String) (t : CustomTemplate) :
    (t.entity fingerprint).get "name" = t.name := by
  simp [entity, toJson, owned, Entity.ofJson, Entity.ofJson?, Entity.get, Entity.get?, Json.lookup]

@[simp] theorem CustomTemplate.entity_liveOnly (fingerprint : String) (t : CustomTemplate) :
    (t.entity fingerprint).get "liveOnly" = .null := by
  simp [entity, toJson, owned, Entity.ofJson, Entity.ofJson?, Entity.get, Entity.get?, Json.lookup]

@[simp] theorem CustomTemplate.entity_types (fingerprint : String) (t : CustomTemplate) :
    (t.entity fingerprint).templateTypes = [templateCode t.id] := by
  simp [entity, toJson, owned, Entity.templateTypes, Entity.idOrEmpty, Entity.getOr, Entity.ofJson, Entity.ofJson?,
    Entity.get, Entity.get?, Json.lookup, Json.field, Json.holds, Json.text, idJson, distinct, templateCode]

@[simp] theorem Ga4Client.entity_type (fingerprint : String) (c : Ga4Client) :
    (c.entity fingerprint).type = .str "gaaw_client" := by
  simp [entity, toJson, owned, Entity.type, Entity.ofJson, Entity.ofJson?, Entity.get, Entity.get?, Json.lookup]

@[simp] theorem Ga4Client.entity_liveOnly (fingerprint : String) (c : Ga4Client) :
    (c.entity fingerprint).get "liveOnly" = .null := by
  simp [entity, toJson, owned, Entity.ofJson, Entity.ofJson?, Entity.get, Entity.get?, Json.lookup]

@[simp] theorem ServerTag.entity_templateId (fingerprint : String) (t : ServerTag) :
    (t.entity fingerprint).get "templateId" = .null := by
  cases folder : t.folder <;>
    simp [entity, toJson, owned, parentFolder, folder, Entity.ofJson, Entity.ofJson?, Entity.get,
      Entity.get?, Json.lookup]

/-- A text that does not begin like a code of a template is none. -/
theorem ne_templateCode {text : String} (other : Text.startsWith text "cvt_0_" = false) (id : Nat) :
    text ≠ templateCode id := by
  rintro rfl
  have marked : Text.startsWith (templateCode id) "cvt_0_" = true := by
    rw [Text.startsWith, List.isPrefixOf_iff_prefix, templateCode, String.toList_append]
    exact List.prefix_append _ _
  exact absurd (other.symm.trans marked) Bool.false_ne_true

namespace Draft

/-- Templates are added for those vendors that the catalog knows, and numbered on. -/
theorem addTemplatesOf_templates (catalog : Catalog) (vs : List TemplateVendor) (d : Draft) :
    (vs.foldl (addTemplateOf catalog) d).templates = d.templates ++
      (templatesOf catalog vs).mapIdx fun i row =>
        ⟨d.counters.template + i + 1, row.2.displayName, row.2.source⟩ := by
  induction vs generalizing d with
  | nil => exact (List.append_nil _).symm
  | cons v rest ih =>
    rw [List.foldl_cons, ih, templatesOf, templatesOf, List.filterMap_cons]
    cases found : catalog.lookup v.key with
    | none =>
      rw [addTemplateOf, found]
      rfl
    | some t =>
      rw [addTemplateOf, found, Option.map_some]
      simp only [List.mapIdx_cons, addTemplate, List.append_assoc, List.singleton_append, Nat.add_assoc,
        Nat.add_comm 1]

variable (includePaused : Bool) (source : Option String) (fingerprint name exportTime : String) (d : Draft)

theorem toContainer_get_customTemplate :
    (d.toContainer includePaused source fingerprint name exportTime).get "customTemplate" =
      .arr (d.templates.map fun t => (t.entity fingerprint).toJson) := by
  simp [Container.get, toContainer, versionFields, Json.lookup, CustomTemplate.toJson_eq]

theorem toContainer_templates :
    (d.toContainer includePaused source fingerprint name exportTime).templates =
      d.templates.map (CustomTemplate.entity fingerprint) :=
  Container.entities_eq_map (d.toContainer_get_customTemplate _ _ _ _ _)
    (CustomTemplate.entity_liveOnly fingerprint)

theorem toContainer_clients : (d.toContainer includePaused source fingerprint name exportTime).clients =
    d.clients.map (Ga4Client.entity fingerprint) := by
  refine Container.entities_eq_map ?_ (Ga4Client.entity_liveOnly fingerprint)
  simp [Container.get, toContainer, versionFields, Json.lookup, Ga4Client.toJson_eq]

/-- Of what is exported only tags have codes of templates as their types. -/
theorem toContainer_usesTemplate (id : Nat) :
    (((d.toContainer includePaused source fingerprint name exportTime).tags ++
        (d.toContainer includePaused source fingerprint name exportTime).userVariables ++
        (d.toContainer includePaused source fingerprint name exportTime).clients).filterMap
      (·.type.text?)).contains (templateCode id) = d.tags.any fun t => t.type.isStr (templateCode id) := by
  have noConstant : "c" ≠ templateCode id := ne_templateCode (by decide) id
  have noEventVariable : "ed" ≠ templateCode id := ne_templateCode (by decide) id
  have noClient : "gaaw_client" ≠ templateCode id := ne_templateCode (by decide) id
  rw [toContainer_tags, toContainer_userVariables, toContainer_clients, Bool.eq_iff_iff, List.contains_iff_mem,
    List.any_eq_true]
  simp only [List.mem_filterMap, List.mem_append, List.mem_map]
  constructor
  · rintro ⟨e, ((⟨t, isTag, rfl⟩ | ⟨c, _, rfl⟩ | ⟨v, _, rfl⟩) | ⟨c, _, rfl⟩), type⟩
    · rw [ServerTag.entity_type] at type
      exact ⟨t, isTag, Json.isStr_iff.mpr (Json.eq_str_of_text? type)⟩
    · rw [Constant.entity_type] at type
      exact absurd (Option.some.inj type) noConstant
    · rw [EventVariable.entity_type] at type
      exact absurd (Option.some.inj type) noEventVariable
    · rw [Ga4Client.entity_type] at type
      exact absurd (Option.some.inj type) noClient
  · rintro ⟨t, isTag, type⟩
    refine ⟨t.entity fingerprint, Or.inl (Or.inl ⟨t, isTag, rfl⟩), ?_⟩
    rw [ServerTag.entity_type, Json.isStr_iff.mp type]
    rfl

/-- The exported templates that no exported tag has the code of are unused. -/
theorem toContainer_unusedTemplates :
    (d.toContainer includePaused source fingerprint name exportTime).unusedTemplates =
      (d.templates.filter fun t => !d.tags.any fun tag => tag.type.isStr (templateCode t.id)).map
        (CustomTemplate.entity fingerprint) := by
  let e := d.toContainer includePaused source fingerprint name exportTime
  have ids : (e.tags.map (·.get "templateId")).filter (fun i => !i.isNull) = [] := by
    refine List.filter_eq_nil_iff.mpr fun i member => ?_
    rw [toContainer_tags, List.map_map] at member
    obtain ⟨t, _, rfl⟩ := List.mem_map.mp member
    rw [Function.comp_apply, ServerTag.entity_templateId]
    decide
  have unfolded : e.unusedTemplates = e.templates.filter fun t =>
      !t.templateTypes.any ((e.tags ++ e.userVariables ++ e.clients).filterMap (·.type.text?)).contains := by
    refine List.filter_congr fun t _ => ?_
    rw [ids]
    simp
  have templates : e.templates = _ := d.toContainer_templates _ _ _ _ _
  rw [unfolded, templates, List.filter_map]
  refine congrArg _ (List.filter_congr fun t _ => ?_)
  rw [Function.comp_apply, CustomTemplate.entity_types, List.any_cons, List.any_nil, Bool.or_false,
    toContainer_usesTemplate]

end Draft

/-- A tag to migrate belongs to a vendor whose template has a code as its type in the catalog. -/
def Selection.UsesCode (s : Selection) (catalog : Catalog) (code : String) : Prop :=
  ∃ tag ∈ s.tags, ∃ v t, templateVendor? tag.type.textOrEmpty = some v ∧ catalog.lookup v.key = some t ∧
    t.typeId = .str code

theorem serverTagType_of_vendor {catalog : Catalog} {tag : Entity} {v : TemplateVendor} {t : Template}
    (vendor : templateVendor? tag.type.textOrEmpty = some v) (listed : catalog.lookup v.key = some t) :
    Draft.serverTagType catalog tag = t.typeId := by
  rw [Draft.serverTagType, tagType?, vendor]
  simp only [listed]
  rfl

/-- Only the catalog gives a server tag the code of a template as its type. -/
theorem serverTagType_eq_code_iff (catalog : Catalog) (tag : Entity) (id : Nat) :
    Draft.serverTagType catalog tag = .str (templateCode id) ↔ ∃ v t,
      templateVendor? tag.type.textOrEmpty = some v ∧ catalog.lookup v.key = some t ∧
        t.typeId = .str (templateCode id) := by
  have noDefault : Json.str defaultTagType ≠ .str (templateCode id) := fun same =>
    ne_templateCode (by decide) id (Json.str.inj same)
  constructor
  · intro coded
    cases vendor : templateVendor? tag.type.textOrEmpty with
    | none =>
      have fixed : ∀ row ∈ tagTypes, Text.startsWith row.2 "cvt_0_" = false := by decide
      rw [Draft.serverTagType, tagType?, vendor] at coded
      dsimp only at coded
      cases found : tagTypes.lookup tag.type.textOrEmpty with
      | none =>
        rw [found] at coded
        exact absurd coded noDefault
      | some type =>
        rw [found] at coded
        exact absurd (Json.str.inj coded) (ne_templateCode (fixed _ (mem_of_lookup found)) id)
    | some v =>
      cases listed : catalog.lookup v.key with
      | none =>
        rw [Draft.serverTagType, tagType?, vendor] at coded
        simp only [listed] at coded
        exact absurd coded noDefault
      | some t => exact ⟨v, t, rfl, listed, (serverTagType_of_vendor vendor listed).symm.trans coded⟩
  · rintro ⟨v, t, vendor, listed, coded⟩
    rw [serverTagType_of_vendor vendor listed, coded]

end TagAudit.Server

namespace TagAudit.ServerGenerator

open Server

variable (g : ServerGenerator) (s : Selection)

/-- The vendors whose templates are emitted, in their order, with the templates. -/
def emitted : List (TemplateVendor × Template) :=
  templatesOf g.catalog (templateVendors.filter fun v =>
    (g.vendors.isEmpty || g.vendors.contains (.str v.key)) && s.flag v.flag)

theorem mem_emitted {v : TemplateVendor} {t : Template} (member : (v, t) ∈ g.emitted s) :
    v ∈ templateVendors ∧ g.catalog.lookup v.key = some t := by
  obtain ⟨w, listed, row⟩ := List.mem_filterMap.mp member
  obtain ⟨u, found, same⟩ := Option.map_eq_some_iff.mp row
  cases same
  exact ⟨(List.mem_filter.mp listed).1, found⟩

theorem draftOf_templates : (g.draftOf s).templates =
    (g.emitted s).mapIdx fun i row => ⟨i + 1, row.2.displayName, row.2.source⟩ := by
  let before := [Step.folders, .constants, .eventVariables].foldl (g.perform s) .empty
  have start : before.templates = [] ∧ before.counters.template = 0 := by
    obtain ⟨_, _, first⟩ := Draft.empty.addFolders_frame s
    obtain ⟨_, _, _, _, second⟩ := (Draft.empty.addFolders s).addConstants_frame s g.address
    obtain ⟨_, _, third⟩ := ((Draft.empty.addFolders s).addConstants s g.address).addEventVariables_frame
    have all : before = ((Draft.empty.addFolders s).addConstants s g.address).addEventVariables := rfl
    rw [all, third, second, first]
    exact ⟨rfl, rfl⟩
  have later (d : Draft) :
      (((d.addClients s).addTriggers s g.container).addTags s g.container g.catalog).templates = d.templates := by
    obtain ⟨_, _, first⟩ := d.addClients_frame s
    obtain ⟨_, _, _, second⟩ := (d.addClients s).addTriggers_frame s g.container
    obtain ⟨_, _, _, _, _, third⟩ :=
      ((d.addClients s).addTriggers s g.container).addTags_frame s g.container g.catalog
    rw [third, second, first]
  have whole : (g.draftOf s).templates = (before.addTemplates s g.catalog g.vendors).templates := later _
  rw [whole, Draft.addTemplates, Draft.addTemplatesOf_templates, start.1, start.2, List.nil_append]
  simp only [Nat.zero_add, emitted]

/-- The code of a template is a type of server tags exactly if the catalog has it for a vendor with tags to
migrate. -/
theorem draftOf_usesTemplate_iff (id : Nat) :
    ((g.draftOf s).tags.any fun t => t.type.isStr (templateCode id)) = true ↔
      s.UsesCode g.catalog (templateCode id) := by
  obtain ⟨servers, tags, served, _⟩ := g.draftOf_tags s
  rw [List.any_eq_true, tags]
  constructor
  · rintro ⟨t, member, isCode⟩
    have coded := Json.isStr_iff.mp isCode
    rcases List.mem_append.mp member with isBase | isServer
    · rcases Draft.addBaseTags_cases (g.routed_tags s) s isBase with ⟨_, type, _⟩ | ⟨_, type, _⟩ <;>
        rw [type] at coded
      · exact absurd (Json.str.inj coded) (ne_templateCode (by decide) id)
      · exact absurd (Json.str.inj coded) (ne_templateCode (by decide) id)
    · obtain ⟨tag, isTag, serves⟩ := forall₂_of_mem_right served isServer
      rw [serves.type] at coded
      exact ⟨tag, isTag, (serverTagType_eq_code_iff g.catalog tag id).mp coded⟩
  · rintro ⟨tag, isTag, coded⟩
    obtain ⟨server, isServer, serves⟩ := forall₂_of_mem_left served isTag
    refine ⟨server, List.mem_append_right _ isServer, Json.isStr_iff.mpr ?_⟩
    rw [serves.type]
    exact (serverTagType_eq_code_iff g.catalog tag id).mpr coded

variable (includePaused : Bool) (source : Option String)

/-- How an emitted template, the one of a number, is read again: by which code tags use it, which type the
server tags of its vendor have, and whether it is used at all. -/
structure Emission (id : Nat) (v : TemplateVendor) (t : Template) (e : Container) (template : Entity) : Prop where
  name : template.get "name" = t.displayName
  types : template.templateTypes = [templateCode id]
  serves : ∀ tag ∈ s.tags, tag.type = .str v.tagType → ∃ server ∈ e.tags,
    Migrates g.container g.catalog (g.draftOf s) e tag server ∧
    ((∃ code ∈ template.templateTypes, server.type = .str code) ↔ t.typeId = .str (templateCode id))
  unused_iff : template ∈ e.unusedTemplates ↔ ¬ s.UsesCode g.catalog (templateCode id)

theorem reread_unusedTemplates : (g.reread s includePaused source).unusedTemplates =
    ((g.draftOf s).templates.filter fun t => !(g.draftOf s).tags.any fun tag =>
      tag.type.isStr (templateCode t.id)).map (CustomTemplate.entity g.fingerprint) :=
  Draft.toContainer_unusedTemplates _ _ _ _ _ _

theorem mem_unusedTemplates_iff {t : CustomTemplate} (member : t ∈ (g.draftOf s).templates) :
    t.entity g.fingerprint ∈ (g.reread s includePaused source).unusedTemplates ↔
      ¬ s.UsesCode g.catalog (templateCode t.id) := by
  rw [reread_unusedTemplates, ← g.draftOf_usesTemplate_iff, Bool.not_eq_true, List.mem_map]
  constructor
  · rintro ⟨other, unused, same⟩
    have codes := congrArg Entity.templateTypes same
    rw [CustomTemplate.entity_types, CustomTemplate.entity_types] at codes
    rw [← (List.cons.inj codes).1]
    simpa using (List.mem_filter.mp unused).2
  · intro unused
    exact ⟨t, List.mem_filter.mpr ⟨member, by rw [unused]; rfl⟩, rfl⟩

theorem reread_emission {i : Nat} {v : TemplateVendor} {t : Template} (atIndex : (g.emitted s)[i]? = some (v, t)) :
    ∃ template, (g.reread s includePaused source).templates[i]? = some template ∧
      g.Emission s (i + 1) v t (g.reread s includePaused source) template := by
  obtain ⟨listed, found⟩ := g.mem_emitted s (List.mem_of_getElem? atIndex)
  let custom : CustomTemplate := ⟨i + 1, t.displayName, t.source⟩
  have made : (g.draftOf s).templates[i]? = some custom := by
    rw [draftOf_templates, List.getElem?_mapIdx, atIndex]
    rfl
  refine ⟨custom.entity g.fingerprint, ?_, CustomTemplate.entity_name _ custom, CustomTemplate.entity_types _ custom,
    fun tag isTag type => ?_, g.mem_unusedTemplates_iff s includePaused source (List.mem_of_getElem? made)⟩
  · rw [reread, Draft.toContainer_templates, List.getElem?_map, made]
    rfl
  · obtain ⟨servers, tags, served, _⟩ := g.draftOf_tags s
    obtain ⟨server, isServer, serves⟩ := forall₂_of_mem_left served isTag
    have vendor : templateVendor? tag.type.textOrEmpty = some v := by
      rw [type]
      exact templateVendor?_of_mem listed
    have sameType : (server.entity g.fingerprint).type = t.typeId := by
      rw [ServerTag.entity_type, serves.type, serverTagType_of_vendor vendor found]
    refine ⟨server.entity g.fingerprint, ?_, g.reread_migrates s includePaused source serves, ?_⟩
    · rw [reread, Draft.toContainer_tags, tags]
      exact List.mem_map_of_mem (List.mem_append_right _ isServer)
    · rw [CustomTemplate.entity_types, sameType]
      simp [custom]

/-- When the templates of a generated container are used: the server tags of a vendor use the template that
is emitted for it, exactly if the type that the catalog has for the vendor is the code of the template, which
its number makes. -/
theorem generate_templates {g : ServerGenerator} {s : Selection} (selected : g.selection = .ok s)
    (includePaused : Bool) (source : Option String) : ∃ document e, g.generate = .ok document ∧
      Container.ofJson document includePaused source = .ok e ∧
      e.get "customTemplate" = .arr (e.templates.map Entity.toJson) ∧
      e.templates.length = (g.emitted s).length ∧
      (∀ i v t, (g.emitted s)[i]? = some (v, t) → ∃ template, e.templates[i]? = some template ∧
        g.Emission s (i + 1) v t e template) ∧
      (e.unusedTemplates = [] ↔ ∀ i < (g.emitted s).length, s.UsesCode g.catalog (templateCode (i + 1))) := by
  have length : (g.reread s includePaused source).templates.length = (g.emitted s).length := by
    rw [reread, Draft.toContainer_templates, List.length_map, draftOf_templates, List.length_mapIdx]
  refine ⟨_, _, generate_of_draft (draft_of_selection selected), ofJson_exportOf _ s includePaused source, ?_, length,
    fun i v t atIndex => g.reread_emission s includePaused source atIndex, ?_⟩
  · rw [reread, Draft.toContainer_get_customTemplate, Draft.toContainer_templates, List.map_map]
    rfl
  · rw [List.eq_nil_iff_forall_not_mem]
    constructor
    · intro none i bound
      obtain ⟨template, _, emission⟩ :=
        g.reread_emission s includePaused source (List.getElem?_eq_getElem (l := g.emitted s) bound)
      exact not_not.mp fun unused => none template (emission.unused_iff.mpr unused)
    · intro used template unused
      rw [reread_unusedTemplates] at unused
      obtain ⟨custom, member, rfl⟩ := List.mem_map.mp unused
      have made := (List.mem_filter.mp member).1
      have isUnused := (g.mem_unusedTemplates_iff s includePaused source made).mp
        (by rw [reread_unusedTemplates]; exact unused)
      rw [draftOf_templates] at made
      obtain ⟨i, bound, rfl⟩ := List.mem_mapIdx.mp made
      exact isUnused (used i bound)

/-- The template of Facebook, under some type. -/
def pixelTemplate (typeId : String) : Template := ⟨typeId, "Facebook Conversions API", ""⟩

/-- A tag of Facebook, and a catalog that has a template for it. -/
def pixelPage (typeId : String) : ServerGenerator :=
  let tags := Json.arr [pixel.toJson]
  { container := ⟨[("containerVersion", .obj [("tag", tags)])], [("tag", tags)], true, none, rfl⟩
    analysis := [("tagsToMigrate", tags), ("hasFacebook", .bool true)]
    vendors := []
    catalog := [("facebook", pixelTemplate typeId)]
    moment := ⟨2024, 1, 15, 12, 30, 45, 0⟩
    address := none }

/-- What is selected on the page, which does not depend on the catalog. -/
def pixelSelection : Selection := Selection.ofAll (pixelPage "").analysis

theorem pixelPage_selected (typeId : String) : (pixelPage typeId).selection = .ok pixelSelection := rfl

theorem pixelPage_emitted (typeId : String) :
    (pixelPage typeId).emitted pixelSelection = [(facebook, pixelTemplate typeId)] := rfl

theorem pixelPage_usesCode_iff (typeId code : String) :
    pixelSelection.UsesCode (pixelPage typeId).catalog code ↔ typeId = code := by
  have toMigrate : pixelSelection.tags = [pixel] := rfl
  constructor
  · rintro ⟨tag, isTag, v, t, vendor, listed, coded⟩
    rw [toMigrate, List.mem_singleton] at isTag
    subst isTag
    cases vendor
    cases listed
    exact Json.str.inj coded
  · rintro rfl
    exact ⟨pixel, List.mem_cons_self, facebook, pixelTemplate typeId, rfl, rfl, rfl⟩

/-- Under the code of its number the template is used. -/
theorem pixelPage_template_used : (pixelPage "cvt_0_1").selection = .ok pixelSelection ∧ ∃ document e,
    (pixelPage "cvt_0_1").generate = .ok document ∧ Container.ofJson document true none = .ok e ∧
    e.templates.length = 1 ∧ e.unusedTemplates = [] := by
  obtain ⟨document, e, generated, read, _, length, _, unused⟩ :=
    generate_templates (pixelPage_selected "cvt_0_1") true none
  rw [pixelPage_emitted] at length unused
  refine ⟨rfl, document, e, generated, read, length, unused.mpr fun i bound => ?_⟩
  obtain rfl : i = 0 := Nat.lt_one_iff.mp bound
  exact (pixelPage_usesCode_iff _ _).mpr (by decide)

/-- Under the type that the gallery gives it the template is emitted for the tag, and unused. -/
theorem pixelPage_template_unused : (pixelPage "cvt_123_fb").selection = .ok pixelSelection ∧ ∃ document e,
    (pixelPage "cvt_123_fb").generate = .ok document ∧ Container.ofJson document true none = .ok e ∧
    (∀ row ∈ (pixelPage "cvt_123_fb").emitted pixelSelection, ∃ tag ∈ pixelSelection.tags,
      tag.type = .str row.1.tagType) ∧ e.unusedTemplates ≠ [] := by
  have selected := pixelPage_selected "cvt_123_fb"
  refine ⟨selected, _, _, generate_of_draft (draft_of_selection selected),
    ofJson_exportOf _ pixelSelection true none, ?_, ?_⟩
  · rw [pixelPage_emitted]
    intro row member
    obtain rfl := List.mem_singleton.mp member
    exact ⟨pixel, List.mem_cons_self, rfl⟩
  · obtain ⟨template, _, emission⟩ := (pixelPage "cvt_123_fb").reread_emission pixelSelection true none
      (show ((pixelPage "cvt_123_fb").emitted pixelSelection)[0]? = some (facebook, pixelTemplate "cvt_123_fb")
        from rfl)
    have unused := emission.unused_iff.mpr fun used => absurd ((pixelPage_usesCode_iff _ _).mp used) (by decide)
    exact List.ne_nil_of_mem unused

end TagAudit.ServerGenerator

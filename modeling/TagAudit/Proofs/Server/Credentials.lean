import TagAudit.Proofs.Server.Lookup

namespace TagAudit.Server

/-- A name is that of one variable of an export, which stands for a text. -/
def Holds (e : Container) (name text : String) : Prop :=
  ∃ v value, (e.userVariables.filter fun v => (v.get "name").isStr name) = [v] ∧
    v.parameterValue "value" = .str value ∧ StandsFor value text

/-- The identifier that a server tag measures for is that of a tag to migrate, by way of a constant that
was made for it; where no constant was made for an identifier, it is left to be filled in. -/
def Measures (s : Selection) (e : Container) (server : Entity) : Prop :=
  (server.parameterValue "measurementId" = .str (placeholder "GA4 Measurement ID") ∧
      ∀ row ∈ granted s.tags, row.1 ≠ measurementName) ∨
    ∃ tag ∈ s.tags, (tag.type = .str "gaawe" ∨ tag.type = .str "gawc") ∧ ∃ text name,
      Draft.measurementId tag = .str text ∧ (measurementName, text) ∈ granted s.tags ∧
      NamedAfter measurementName name ∧ Holds e name text ∧
      server.parameterValue "measurementId" = .str (Text.reference name)

/-- A parameter of a server tag refers to a variable of an export, by the name that it alone has. -/
def RefersTo (e : Container) (server : Entity) (key name : String) : Prop :=
  server.parameterValue key = .str (Text.reference name) ∧
    ∃ v, (e.userVariables.filter fun v => (v.get "name").isStr name) = [v]

theorem reference_injective {name other : String} (same : Text.reference name = Text.reference other) :
    name = other := by
  have chars := congrArg String.toList same
  simp only [Text.reference, String.toList_append, List.append_cancel_left_eq,
    List.append_cancel_right_eq] at chars
  exact String.toList_injective chars

theorem reference_ne_placeholder (name what : String) : Text.reference name ≠ placeholder what := by
  intro same
  have marked := isPlaceholder_placeholder what
  rw [← same] at marked
  simp [isPlaceholder, Text.startsWith, Text.reference, List.isPrefixOf] at marked

namespace Draft

theorem addFolders_unstocked (s : Selection) : (empty.addFolders s).Unstocked := by
  refine ⟨empty_sound.addFolders s, ?_, ?_⟩
  · obtain ⟨_, _, same⟩ := empty.addFolders_frame s
    rw [same]
    rfl
  · obtain ⟨_, _, same⟩ := empty.addFolders_frame s
    rw [same]
    rfl

/-- The server tag of a tag looks its credentials up by their names. -/
theorem valuesFor_credential (d : Draft) {tag : Entity} {v : TemplateVendor}
    (vendor : templateVendor? tag.type.textOrEmpty = some v) {c : Credential} (credential : c ∈ v.credentials)
    (type : Json) : (d.valuesFor tag type).find? (·.key == c.parameter) =
      some (.referring c.parameter (d.findConstant? c.name) c.title) := by
  have apart : ∀ v ∈ templateVendors, (v.credentials.map (·.parameter)).Nodup := by decide
  have own : v.credentials.find? (·.parameter == c.parameter) = some c := by
    rw [← List.head?_filter, filter_eq_singleton (apart v (mem_of_templateVendor? vendor).1) credential]
    rfl
  have sameKey : (fun p : Parameter => p.key == c.parameter) ∘
      (fun c : Credential => Parameter.referring c.parameter (d.findConstant? c.name) c.title) =
      fun other => other.parameter == c.parameter := rfl
  simp only [valuesFor, vendor]
  rw [vendorValues, List.find?_append, List.find?_map, sameKey, own]
  rfl

/-- What the base tags are: the one for GA4, which looks its identifier up by a part of the name, and the one
that links conversions. -/
theorem addBaseTags_cases {d : Draft} (fresh : d.tags = []) (s : Selection) {t : ServerTag}
    (member : t ∈ (d.addBaseTags s).tags) :
    (t.name = ga4TagName ∧ t.type = .str defaultTagType ∧
        t.parameters = ga4Values (d.findConstant? "ga4 measurement id")) ∨
      (t.name = linkerTagName ∧ t.type = .str "sgtmadscl" ∧ ∀ p ∈ t.parameters, ∃ on, p.filling = .switch on) := by
  unfold addBaseTags at member
  split at member
  · rw [fresh] at member
    cases member
  · unfold addGa4Tag addLinkerTag at member
    by_cases ga4 : s.flag "hasGA4Tags" = true <;> by_cases ads : s.flag "hasGoogleAds" = true <;>
      simp only [ga4, ads, if_true, if_false, addTag_eq (ga4Parameters_makes _ _), addTag_eq linkerParameters_makes,
        fresh, List.nil_append, List.mem_append, List.mem_singleton, List.not_mem_nil, Bool.false_eq_true] at member
    · rcases member with rfl | rfl
      · exact Or.inl ⟨rfl, rfl, rfl⟩
      · exact Or.inr ⟨rfl, rfl, by simp⟩
    · subst member
      exact Or.inl ⟨rfl, rfl, rfl⟩
    · subst member
      exact Or.inr ⟨rfl, rfl, by simp⟩

theorem addBaseTags_parameters {d : Draft} (fresh : d.tags = []) (s : Selection) {t : ServerTag}
    (member : t ∈ (d.addBaseTags s).tags) (isGa4 : t.name = ga4TagName) :
    t.parameters = ga4Values (d.findConstant? "ga4 measurement id") := by
  have other : linkerTagName ≠ ga4TagName := by decide
  rcases addBaseTags_cases fresh s member with ⟨_, _, parameters⟩ | ⟨isLinker, _⟩
  · exact parameters
  · exact absurd (isLinker.symm.trans isGa4) other

end Draft

end TagAudit.Server

namespace TagAudit.ServerGenerator

open Server

variable (g : ServerGenerator) (s : Selection) (includePaused : Bool) (source : Option String)

theorem draftOf_findConstant? (part : String) : (g.draftOf s).findConstant? part =
    ((Draft.empty.addFolders s).addConstants s g.address).findConstant? part := by
  rw [Draft.findConstant?, (g.draftOf_constants s).1, Draft.findConstant?]

/-- The base tag for GA4 looks its identifier up among all constants of the draft. -/
theorem base_parameters {t : ServerTag} (isBase : t ∈ ((g.routed s).addBaseTags s).tags)
    (isGa4 : t.name = Draft.ga4TagName) :
    t.parameters = Draft.ga4Values ((g.draftOf s).findConstant? "ga4 measurement id") := by
  obtain ⟨_, _, _, _, _, whole⟩ := (g.routed s).addTags_frame s g.container g.catalog
  rw [Draft.addBaseTags_parameters (g.routed_tags s) s isBase isGa4, draftOf_eq, whole]
  rfl

/-- A name under which a constant is found is that of one variable of the export. -/
theorem reread_named {part name : String} (found : (g.draftOf s).findConstant? part = some name) :
    ∃ v, ((g.reread s includePaused source).userVariables.filter fun v => (v.get "name").isStr name) = [v] := by
  obtain ⟨c, first, rfl⟩ := Option.map_eq_some_iff.mp found
  exact ⟨_, Draft.toContainer_named_once _ _ _ _ _ (g.draftOf_sound s) (g.draftOf_stocked s)
    (List.mem_of_find?_eq_some first)⟩

/-- A name that is registered for a text is that of one variable of the export, which stands for the
text. -/
theorem reread_holds {text name : String} (registered : (text, name) ∈ (g.draftOf s).constantOf) :
    Holds (g.reread s includePaused source) name text := by
  obtain ⟨c, present, rfl, stands⟩ := (g.draftOf_stocked s).valued (text, name) registered
  exact ⟨c.entity g.fingerprint, c.value, Draft.toContainer_named_once _ _ _ _ _ (g.draftOf_sound s)
    (g.draftOf_stocked s) present, c.entity_value g.fingerprint, stands⟩

theorem reread_credential {tag : Entity} (isTag : tag ∈ s.tags) {server : ServerTag}
    (serves : (g.draftOf s).Serves g.container g.catalog tag server) {v : TemplateVendor}
    (vendor : templateVendor? tag.type.textOrEmpty = some v) {c : Credential} (credential : c ∈ v.credentials) :
    ∃ name, RefersTo (g.reread s includePaused source) (server.entity g.fingerprint) c.parameter name ∧
      (name = constantName c.name ↔ ¬ s.Captures v c) := by
  obtain ⟨name, found, own⟩ := (Draft.addFolders_unstocked s).find_credential
    (mem_of_templateVendor? vendor).1 credential isTag (type_of_vendor vendor) g.address
  rw [← g.draftOf_findConstant?] at found
  have parameter := (g.draftOf s).valuesFor_credential vendor credential server.type
  rw [← serves.parameters, found] at parameter
  exact ⟨name, ⟨ServerTag.parameterValue_eq parameter, g.reread_named s includePaused source found⟩, own⟩

/-- In the constants for values alone stands the name for identifiers of GA4. -/
theorem draftOf_byValue : (g.draftOf s).ByValue "ga4 measurement id" := by
  have foreign : ∀ tag ∈ s.tags, ∀ c ∈ credentials tag,
      Text.contains (constantName c.name) "ga4 measurement id" = false := by
    intro tag _ c needed
    obtain ⟨v, listed, _, ofVendor⟩ := vendor_of_credential needed
    exact credentials_no_measurement v listed c ofVendor
  have made := ((Draft.addFolders_unstocked s).byValue foreign).ensureConstant
    (show Text.contains (constantName "transport url") "ga4 measurement id" = false by decide)
    (Draft.addressOr g.address)
  rw [Draft.ByValue, (g.draftOf_constants s).1, (g.draftOf_constants s).2]
  exact made

theorem draftOf_grants : Draft.Grants (granted s.tags) (g.draftOf s) := by
  have made := (Draft.addFolders_unstocked s).grants s.tags
  rw [Draft.Grants, (g.draftOf_constants s).2, Draft.addConstants, Draft.ensureConstant_constantOf]
  exact made

/-- The base tag for GA4 refers to the identifier of a tag to migrate, unless another constant captures
it. -/
theorem reread_measures_iff {server : ServerTag} (parameters : server.parameters =
    Draft.ga4Values ((g.draftOf s).findConstant? "ga4 measurement id")) :
    Measures s (g.reread s includePaused source) (server.entity g.fingerprint) ↔ ¬ s.CapturesMeasurement := by
  have grants := g.draftOf_grants s
  have byValue := g.draftOf_byValue s
  have word : endsInWord "ga4 measurement id" = true := by decide
  have measured : (server.entity g.fingerprint).parameterValue "measurementId" =
      .str (Parameter.referring "measurementId" ((g.draftOf s).findConstant? "ga4 measurement id")
        "GA4 Measurement ID").filling.value := by
    refine ServerTag.parameterValue_eq ?_
    rw [parameters]
    rfl
  unfold Selection.CapturesMeasurement
  cases first : (granted s.tags).find? fun row => Text.contains row.1 "ga4 measurement id" with
  | none =>
    rw [grants.findConstant?_of_none byValue word first] at measured
    have noneMade : ∀ row ∈ granted s.tags, row.1 ≠ measurementName := by
      intro row member isMeasurement
      have inside : Text.contains measurementName "ga4 measurement id" = true := by decide
      exact List.find?_eq_none.mp first row member (isMeasurement ▸ inside)
    exact iff_of_true (Or.inl ⟨measured, noneMade⟩) (by simp)
  | some row =>
    obtain ⟨name, found, named, registered⟩ := grants.findConstant?_of_some byValue word first
    rw [found] at measured
    have member := List.mem_of_find?_eq_some first
    obtain ⟨tag, isTag, r, isRequest, base, value⟩ := request_of_mem_granted member
    by_cases own : row.1 = measurementName
    · have measures : Measures s (g.reread s includePaused source) (server.entity g.fingerprint) := by
        rcases request_base isRequest with ⟨_, type, ofTag⟩ | google
        · have holds := g.reread_holds s includePaused source registered
          exact Or.inr ⟨tag, isTag, type, row.2, name, ofTag.symm.trans value, own ▸ member, own ▸ named, holds,
            measured⟩
        · rw [base, own] at google
          exact absurd google (by decide)
      exact iff_of_true measures (by simp [own])
    · refine iff_of_false ?_ (by simp [own])
      -- A constant of Google Ads is referred to, which is neither a placeholder nor one for an identifier.
      rintro (⟨left, _⟩ | ⟨_, _, _, text, other, _, _, ofMeasurement, _, same⟩)
      · exact reference_ne_placeholder _ _ (Json.str.inj (measured.symm.trans left))
      · have sameName := reference_injective (Json.str.inj (measured.symm.trans same))
        rcases request_base isRequest with ⟨isMeasurement, _⟩ | google
        · exact own (base ▸ isMeasurement)
        · rw [base] at google
          exact not_google_of_measurement (sameName ▸ ofMeasurement) (google.trans named.isPrefix)

/-- Which references to constants are right in an export: the credentials of a server tag refer to the
constants of their names, and the base tag for GA4 to the identifier of a tag to migrate, exactly if no
constant that was made before captures them by its name. -/
theorem generate_refers_iff (keys : List String) : ∃ s document e, (g.select keys).selection = .ok s ∧
    (g.select keys).generate = .ok document ∧ Container.ofJson document includePaused source = .ok e ∧
    ∃ base servers, e.tags = base ++ servers ∧ base.length ≤ 2 ∧
      (∀ server ∈ base, server.name = Draft.ga4TagName → (Measures s e server ↔ ¬ s.CapturesMeasurement)) ∧
      List.Forall₂ (fun tag server => ∀ v, templateVendor? tag.type.textOrEmpty = some v →
        ∀ c ∈ v.credentials, ∃ name, RefersTo e server c.parameter name ∧
          (name = constantName c.name ↔ ¬ s.Captures v c)) s.tags servers := by
  obtain ⟨s, selected⟩ := g.select_selection keys
  have drafted := draft_of_selection selected
  obtain ⟨servers, tags, served, _⟩ := (g.select keys).draftOf_tags s
  have names := Draft.addBaseTags_names ((g.select keys).routed_tags s) s
  refine ⟨s, _, _, selected, generate_of_draft drafted, ofJson_exportOf _ s includePaused source,
    (((g.select keys).routed s).addBaseTags s).tags.map (ServerTag.entity (g.select keys).fingerprint),
    servers.map (ServerTag.entity (g.select keys).fingerprint), ?_, ?_, ?_, ?_⟩
  · rw [reread, Draft.toContainer_tags, tags, List.map_append]
  · simpa using names.length_le
  · intro server member isGa4
    obtain ⟨t, isBase, rfl⟩ := List.mem_map.mp member
    have ofGa4 : t.name = Draft.ga4TagName := by
      rw [Entity.name, ServerTag.entity_name] at isGa4
      exact isGa4
    exact (g.select keys).reread_measures_iff s includePaused source
      ((g.select keys).base_parameters s isBase ofGa4)
  · rw [List.forall₂_map_right_iff, List.forall₂_iff_get]
    refine ⟨served.length_eq, fun i bound bound' v vendor c credential => ?_⟩
    exact (g.select keys).reread_credential s includePaused source (List.get_mem _ _)
      ((List.forall₂_iff_get.mp served).2 i bound bound') vendor credential

def conversion : Entity :=
  ⟨[("tagId", "1"), ("name", "Facebook Pixel ID, GA4 Measurement ID"), ("type", "awct"),
    ("parameter", .arr [templateParameter "conversionLabel" "AbC-D"])]⟩

def pixel : Entity := ⟨[("tagId", "2"), ("name", "Page view"), ("type", "fbq")]⟩

def measured : Entity :=
  ⟨[("tagId", "3"), ("name", "Config"), ("type", "gawc"),
    ("parameter", .arr [templateParameter "measurementId" "G-1"])]⟩

/-- A tag of Google Ads that is named like the constants of others, before a tag of Facebook and one of
GA4. -/
def misnamed : ServerGenerator :=
  let tags := Json.arr [conversion.toJson, pixel.toJson, measured.toJson]
  { container := ⟨[("containerVersion", .obj [("tag", tags)])], [("tag", tags)], true, none, rfl⟩
    analysis := [("tagsToMigrate", tags)]
    vendors := []
    catalog := []
    moment := ⟨2024, 1, 15, 12, 30, 45, 0⟩
    address := none }

/-- What is selected of the misnamed tags, which is all of them. -/
def misnamedTags : Selection := Selection.ofAll misnamed.analysis

def facebook : TemplateVendor :=
  ⟨"facebook", "fbq", "hasFacebook",
    [⟨"accessToken", "facebook access token", "Facebook Access Token"⟩,
      ⟨"pixelId", "facebook pixel id", "Facebook Pixel ID"⟩]⟩

def pixelId : Credential := ⟨"pixelId", "facebook pixel id", "Facebook Pixel ID"⟩

theorem misnamed_captures : misnamedTags.Captures facebook pixelId := by
  have any : (granted (misnamedTags.before "fbq")).any
      (fun row => Text.contains row.1 "facebook pixel id") = true := by decide +kernel
  exact List.any_eq_true.mp any

theorem misnamed_capturesMeasurement : misnamedTags.CapturesMeasurement := by
  have any : ((granted misnamedTags.tags).find? fun row => Text.contains row.1 "ga4 measurement id").any
      (·.1 != measurementName) = true := by decide +kernel
  obtain ⟨row, first, other⟩ := (Option.any_eq_true _ _).mp any
  exact ⟨row, first, bne_iff_ne.mp other⟩

theorem misnamed_base : ∃ base, ((misnamed.routed misnamedTags).addBaseTags misnamedTags).tags = [base] ∧
    base.name = Draft.ga4TagName :=
  List.map_eq_singleton_iff.mp (by decide +kernel)

/-- The constant for the conversion label of the first tag is taken for the credential of the second, and
for the identifier of the third. -/
theorem misnamed_captured : ∃ s document e, misnamed.selection = .ok s ∧
    s.tags = [conversion, pixel, measured] ∧ misnamed.generate = .ok document ∧
    Container.ofJson document true none = .ok e ∧ ∃ server ∈ e.tags, ∃ base ∈ e.tags, ∃ name,
      Migrates misnamed.container misnamed.catalog (misnamed.draftOf s) e pixel server ∧
      RefersTo e server "pixelId" name ∧ name ≠ constantName "facebook pixel id" ∧
      base.name = Draft.ga4TagName ∧ ¬ Measures s e base := by
  have selected : misnamed.selection = .ok misnamedTags := rfl
  have toMigrate : misnamedTags.tags = [conversion, pixel, measured] := rfl
  obtain ⟨servers, tags, served, _⟩ := misnamed.draftOf_tags misnamedTags
  rw [toMigrate] at served
  obtain ⟨ads, rest, _, others, rfl⟩ := List.forall₂_cons_left_iff.mp served
  obtain ⟨server, rest, serves, _, rfl⟩ := List.forall₂_cons_left_iff.mp others
  have isTag : pixel ∈ misnamedTags.tags := toMigrate ▸ List.mem_cons_of_mem _ List.mem_cons_self
  have vendor : templateVendor? pixel.type.textOrEmpty = some facebook := rfl
  have credential : pixelId ∈ facebook.credentials := List.mem_cons_of_mem _ List.mem_cons_self
  obtain ⟨name, refers, own⟩ := misnamed.reread_credential misnamedTags true none isTag serves vendor credential
  obtain ⟨base, isBase, baseName⟩ := misnamed_base
  have member : base ∈ ((misnamed.routed misnamedTags).addBaseTags misnamedTags).tags :=
    isBase ▸ List.mem_cons_self
  have measures := misnamed.reread_measures_iff misnamedTags true none
    (misnamed.base_parameters misnamedTags member baseName)
  refine ⟨misnamedTags, _, _, selected, toMigrate, generate_of_draft (draft_of_selection selected),
    ofJson_exportOf _ misnamedTags true none, server.entity misnamed.fingerprint, ?_,
    base.entity misnamed.fingerprint, ?_, name, misnamed.reread_migrates misnamedTags true none serves, refers,
    fun same => own.mp same misnamed_captures, ?_, fun right => measures.mp right misnamed_capturesMeasurement⟩
  · rw [reread, Draft.toContainer_tags, tags]
    simp
  · rw [reread, Draft.toContainer_tags, tags, isBase]
    simp
  · rw [Entity.name, ServerTag.entity_name, baseName]
    rfl

end TagAudit.ServerGenerator

import TagAudit.Proofs.Server.Frame

namespace TagAudit.Server

/-- What parameters of a tag leave to be filled in, in their order. -/
def gapsOf (tagName : String) (parameters : List Parameter) : List Gap :=
  parameters.filterMap fun p => match p.filling with
    | .missing what => some ⟨tagName ++ " > " ++ p.key, placeholder what⟩
    | _ => none

theorem gapsOf_cons (tagName : String) (p : Parameter) (rest : List Parameter) :
    gapsOf tagName (p :: rest) = gapsOf tagName [p] ++ gapsOf tagName rest := by
  rw [← List.singleton_append, gapsOf, List.filterMap_append]
  rfl

theorem gapsOf_append (tagName : String) (first rest : List Parameter) :
    gapsOf tagName (first ++ rest) = gapsOf tagName first ++ gapsOf tagName rest :=
  List.filterMap_append

/-- A value is made, and some gaps are noted behind those that have been noted before. -/
def Noting.Leaves {α : Type} (made : Noting α) (value : α) (gaps : List Gap) : Prop :=
  ∀ noted, made.run noted = (value, noted ++ gaps)

/-- Parameters are made for a tag, and exactly those of them that wait for a value are noted. -/
def Noting.Makes (made : Noting (List Parameter)) (tagName : String) (parameters : List Parameter) : Prop :=
  made.Leaves parameters (gapsOf tagName parameters)

namespace Noting

variable {α β : Type} {tagName : String}

theorem leaves_pure (a : α) : (pure a : Noting α).Leaves a [] := by
  intro noted
  rw [List.append_nil]
  rfl

theorem Leaves.bind {made : Noting α} {next : α → Noting β} {a : α} {b : β} {gaps more : List Gap}
    (first : made.Leaves a gaps) (second : (next a).Leaves b more) : (made >>= next).Leaves b (gaps ++ more) := by
  intro noted
  rw [StateT.run_bind, first noted, ← List.append_assoc]
  exact second (noted ++ gaps)

/-- Parameters are made one after the other, each for an element. -/
theorem leaves_mapM {make : α → Noting Parameter} {value : α → Parameter} {xs : List α}
    (each : ∀ x ∈ xs, (make x).Leaves (value x) (gapsOf tagName [value x])) :
    (xs.mapM make).Makes tagName (xs.map value) := by
  induction xs with
  | nil => exact leaves_pure []
  | cons x rest ih =>
    rw [Makes, List.mapM_cons, List.map_cons, gapsOf_cons, ← List.append_nil (gapsOf tagName (rest.map value))]
    have later := ih fun y member => each y (List.mem_cons_of_mem _ member)
    exact (each x List.mem_cons_self).bind (later.bind (leaves_pure _))

end Noting

/-- A parameter as it refers to a constant, or waits for its value where there is none. -/
def Parameter.referring (key : String) (constant : Option String) (what : String) : Parameter :=
  ⟨key, (constant.map Filling.constant).getD (.missing what)⟩

namespace Draft

theorem refer_leaves (tagName key : String) (constant : Option String) (what : String) :
    (refer tagName key constant what).Leaves (.referring key constant what)
      (gapsOf tagName [.referring key constant what]) := by
  cases constant with
  | none => exact fun noted => rfl
  | some name => exact Noting.leaves_pure _

/-- What a tag of GA4 is configured with. -/
def ga4Values (constant : Option String) : List Parameter :=
  [.referring "measurementId" constant "GA4 Measurement ID", ⟨"epToIncludeDropdown", .text "all"⟩,
    ⟨"upToIncludeDropdown", .text "all"⟩, ⟨"redactVisitorIp", .switch false⟩]

def conversionValues (conversionId conversionLabel : Option String) : List Parameter :=
  [.referring "conversionId" conversionId "Google Ads Conversion ID",
    .referring "conversionLabel" conversionLabel "Conversion Label",
    ⟨"enableConversionLinker", .switch true⟩, ⟨"rdp", .switch false⟩]

def remarketingValues (conversionId : Option String) : List Parameter :=
  [.referring "conversionId" conversionId "Google Ads Conversion ID", ⟨"enableConversionLinker", .switch true⟩,
    ⟨"enableDynamicRemarketing", .switch true⟩, ⟨"rdp", .switch false⟩]

def vendorValues (d : Draft) (v : TemplateVendor) : List Parameter :=
  (v.credentials.map fun c => .referring c.parameter (d.findConstant? c.name) c.title) ++
    if v.tagType == "lnq" then [⟨"eventDataGroup", .text "conversion"⟩] else []

/-- What the server tag of a tag is configured with. -/
def valuesFor (d : Draft) (tag : Entity) (serverType : Json) : List Parameter :=
  let conversionId := d.constantFor? (tag.parameterValue "conversionId")
  match templateVendor? tag.type.textOrEmpty with
  | some v => d.vendorValues v
  | none =>
    match serverType with
    | .str "sgtmadsct" => conversionValues conversionId (d.constantFor? (tag.parameterValue "conversionLabel"))
    | .str "sgtmadsremarket" => remarketingValues conversionId
    | _ => ga4Values (d.constantFor? (measurementId tag))

theorem ga4Parameters_makes (tagName : String) (constant : Option String) :
    (ga4Parameters tagName constant).Makes tagName (ga4Values constant) := by
  rw [Noting.Makes, ga4Values, gapsOf_cons]
  exact (refer_leaves tagName _ _ _).bind (Noting.leaves_pure _)

theorem conversionParameters_makes (tagName : String) (conversionId conversionLabel : Option String) :
    (conversionParameters tagName conversionId conversionLabel).Makes tagName
      (conversionValues conversionId conversionLabel) := by
  rw [Noting.Makes, conversionValues, gapsOf_cons, gapsOf_cons tagName (.referring "conversionLabel" _ _)]
  exact (refer_leaves tagName _ _ _).bind ((refer_leaves tagName _ _ _).bind (Noting.leaves_pure _))

theorem remarketingParameters_makes (tagName : String) (conversionId : Option String) :
    (remarketingParameters tagName conversionId).Makes tagName (remarketingValues conversionId) := by
  rw [Noting.Makes, remarketingValues, gapsOf_cons]
  exact (refer_leaves tagName _ _ _).bind (Noting.leaves_pure _)

theorem linkerParameters_makes : Noting.Makes (return [⟨"enableLinkerParams", .switch false⟩,
    ⟨"enableCookieOverrides", .switch false⟩]) linkerTagName
    [⟨"enableLinkerParams", .switch false⟩, ⟨"enableCookieOverrides", .switch false⟩] := Noting.leaves_pure _

theorem vendorParameters_makes (d : Draft) (v : TemplateVendor) (tagName : String) :
    (d.vendorParameters v tagName).Makes tagName (d.vendorValues v) := by
  -- The one parameter of a vendor that is no credential has its value.
  have given : gapsOf tagName (if v.tagType == "lnq" then [⟨"eventDataGroup", .text "conversion"⟩] else []) = [] := by
    split <;> rfl
  have credentials := Noting.leaves_mapM fun c (_ : c ∈ v.credentials) =>
    refer_leaves tagName c.parameter (d.findConstant? c.name) c.title
  rw [Noting.Makes, vendorValues, gapsOf_append, given]
  exact credentials.bind (Noting.leaves_pure _)

/-- Whatever a tag is like, exactly those parameters of its server tag are noted that wait for a value. -/
theorem parametersFor_makes (d : Draft) (tag : Entity) (name : String) (serverType : Json) :
    (d.parametersFor tag name serverType).Makes name (d.valuesFor tag serverType) := by
  unfold parametersFor valuesFor
  dsimp only
  cases templateVendor? tag.type.textOrEmpty with
  | some v => exact d.vendorParameters_makes v name
  | none =>
    dsimp only
    split
    · exact conversionParameters_makes name _ _
    · exact remarketingParameters_makes name _
    · -- The values are those of the last case as well.
      simpa only using ga4Parameters_makes name _

/- What is noted -/

theorem addTag_eq {d : Draft} {name : String} {made : Noting (List Parameter)} {parameters : List Parameter}
    (makes : made.Makes name parameters) (type : Json) (trigger : Nat) (folder : Option Nat) :
    d.addTag name type made trigger folder =
      { d with
        counters := { d.counters with tag := d.counters.tag + 1 }
        tags := d.tags ++ [⟨d.counters.tag + 1, name, type, parameters, trigger, folder⟩]
        tagGaps := d.tagGaps ++ gapsOf name parameters } := by
  rw [addTag, makes d.tagGaps]

/-- Exactly the parameters of tags that wait for a value have been noted, in the order of the tags. -/
def Noted (d : Draft) : Prop := d.tagGaps = d.tags.flatMap fun t => gapsOf t.name t.parameters

variable {d : Draft}

theorem Noted.addTag (noted : d.Noted) {name : String} {made : Noting (List Parameter)} {parameters : List Parameter}
    (makes : made.Makes name parameters) (type : Json) (trigger : Nat) (folder : Option Nat) :
    (d.addTag name type made trigger folder).Noted := by
  rw [addTag_eq makes, Noted, List.flatMap_append, ← noted, List.flatMap_singleton]

theorem Noted.addGa4Tag (noted : d.Noted) (s : Selection) (trigger : Nat) : (d.addGa4Tag s trigger).Noted := by
  unfold Draft.addGa4Tag
  split
  · exact noted.addTag (ga4Parameters_makes ga4TagName _) _ _ _
  · exact noted

theorem Noted.addLinkerTag (noted : d.Noted) (s : Selection) (trigger : Nat) :
    (d.addLinkerTag s trigger).Noted := by
  unfold Draft.addLinkerTag
  split
  · exact noted.addTag linkerParameters_makes _ _ _
  · exact noted

theorem Noted.addBaseTags (noted : d.Noted) (s : Selection) : (d.addBaseTags s).Noted := by
  unfold Draft.addBaseTags
  split
  · exact noted
  · exact (noted.addGa4Tag s _).addLinkerTag s _

/-- A tag that finds no trigger leaves no note. -/
theorem Noted.addTagOf (noted : d.Noted) (c : Container) (catalog : Catalog) (tag : Entity) :
    (d.addTagOf c catalog tag).Noted := by
  have warned : (d.warn (untypedWarning tag)).Noted := noted
  unfold Draft.addTagOf
  split
  · exact noted
  · dsimp only
    split
    · exact warned.addTag (parametersFor_makes _ tag _ _) _ _ _
    · exact noted.addTag (parametersFor_makes _ tag _ _) _ _ _

theorem Noted.addTags (noted : d.Noted) (s : Selection) (c : Container) (catalog : Catalog) :
    (d.addTags s c catalog).Noted :=
  List.foldlRecOn _ _ (noted.addBaseTags s) fun _ noted tag _ => noted.addTagOf c catalog tag

end Draft

end TagAudit.Server

namespace TagAudit.ServerGenerator

open Server

/-- Tags are added and gaps noted by one step only. -/
theorem perform_noted (g : ServerGenerator) (s : Selection) {d : Draft} (noted : d.Noted) (step : Step) :
    (g.perform s d step).Noted := by
  cases step with
  | folders =>
    obtain ⟨_, _, same⟩ := d.addFolders_frame s
    rw [perform, same]
    exact noted
  | constants =>
    obtain ⟨_, _, _, _, same⟩ := d.addConstants_frame s g.address
    rw [perform, same]
    exact noted
  | eventVariables =>
    obtain ⟨_, _, same⟩ := d.addEventVariables_frame
    rw [perform, same]
    exact noted
  | templates =>
    obtain ⟨_, _, _, same⟩ := d.addTemplates_frame s g.catalog g.vendors
    rw [perform, same]
    exact noted
  | clients =>
    obtain ⟨_, _, same⟩ := d.addClients_frame s
    rw [perform, same]
    exact noted
  | triggers =>
    obtain ⟨_, _, _, same⟩ := d.addTriggers_frame s g.container
    rw [perform, same]
    exact noted
  | tags => exact noted.addTags s g.container g.catalog

/-- Whatever steps are carried out, in whatever order. -/
theorem foldl_noted (g : ServerGenerator) (s : Selection) (steps : List Step) :
    (steps.foldl (g.perform s) .empty).Noted :=
  List.foldlRecOn _ _ rfl fun _ noted step _ => g.perform_noted s noted step

end TagAudit.ServerGenerator

import TagAudit.Proofs.Server.Checked
import TagAudit.Proofs.Server.Folders
import TagAudit.Proofs.Server.VendorTemplates

namespace TagAudit

theorem forall₂_mapIdx {α β : Type} {R : α → β → Prop} {f : Nat → α → β} {xs : List α}
    (each : ∀ i x, R x (f i x)) : List.Forall₂ R xs (xs.mapIdx f) := by
  induction xs generalizing f with
  | nil => exact .nil
  | cons x rest ih =>
    rw [List.mapIdx_cons]
    exact .cons (each 0 x) (ih fun i y => each (i + 1) y)

namespace Server

namespace Draft

/-- What is said of a vendor whose tags are migrated, and whose template is not in the catalog. -/
def missingTemplate (v : TemplateVendor) : String :=
  "No server template in the catalogue for '" ++ v.key ++ "'; its tags fall back to " ++ defaultTagType

theorem untypedWarning_first (tag : Entity) : (untypedWarning tag).toList.head? = some 'T' := by
  have first : "Tag '".toList.head? = some 'T' := by simp
  delta untypedWarning
  simp only [String.toList_append, List.append_assoc, List.head?_append, first, Option.some_or]

theorem missingTemplate_first (v : TemplateVendor) : (missingTemplate v).toList.head? = some 'N' := by
  have first : "No server template in the catalogue for '".toList.head? = some 'N' := by simp
  delta missingTemplate
  simp only [String.toList_append, List.append_assoc, List.head?_append, first, Option.some_or]

/-- The warnings of untyped tags are not those of vendors, as their first letters show. -/
theorem untypedWarning_ne (tag : Entity) (v : TemplateVendor) : untypedWarning tag ≠ missingTemplate v := by
  intro same
  have first := untypedWarning_first tag
  rw [same, missingTemplate_first] at first
  exact absurd (Option.some.inj first) (by decide)

theorem addTemplateOf_of_none {catalog : Catalog} {v : TemplateVendor} (unknown : catalog.lookup v.key = none)
    (d : Draft) : addTemplateOf catalog d v = d.warn (missingTemplate v) := by
  rw [addTemplateOf, unknown]
  rfl

theorem addTemplatesOf_warnings (catalog : Catalog) (vs : List TemplateVendor) (d : Draft) :
    (vs.foldl (addTemplateOf catalog) d).warnings = d.warnings ++
      (vs.filter fun v => (catalog.lookup v.key).isNone).map missingTemplate := by
  induction vs generalizing d with
  | nil => exact (List.append_nil _).symm
  | cons v rest ih =>
    rw [List.foldl_cons, ih, List.filter_cons]
    cases found : catalog.lookup v.key with
    | none =>
      rw [addTemplateOf_of_none found, Option.isNone_none, if_pos rfl, List.map_cons, warn, List.append_assoc]
      rfl
    | some t =>
      rw [addTemplateOf, found]
      rfl

theorem addBaseTags_warnings (d : Draft) (s : Selection) : (d.addBaseTags s).warnings = d.warnings := by
  unfold addBaseTags addGa4Tag addLinkerTag
  split
  · rfl
  · split <;> split <;> rfl

/-- No server tag comes with the warning that a template is missing. -/
theorem addTagOf_warnings_count (d : Draft) (c : Container) (catalog : Catalog) (tag : Entity) (v : TemplateVendor) :
    (d.addTagOf c catalog tag).warnings.count (missingTemplate v) = d.warnings.count (missingTemplate v) := by
  unfold addTagOf
  split
  · rfl
  · dsimp only
    split
    · have other := untypedWarning_ne tag v
      simp [addTag, warn, List.count_append, other]
    · rfl

theorem addTags_warnings_count (d : Draft) (s : Selection) (c : Container) (catalog : Catalog) (v : TemplateVendor) :
    (d.addTags s c catalog).warnings.count (missingTemplate v) = d.warnings.count (missingTemplate v) := by
  rw [← addBaseTags_warnings d s]
  -- The tags are the last step, and the only one after the templates with warnings.
  refine List.foldlRecOn (motive := fun e : Draft => e.warnings.count _ = _) _ _ rfl ?_
  intro e same tag _
  rw [addTagOf_warnings_count, same]

/-- The warnings of two vendors with templates differ. -/
theorem missingTemplate_nodup : (templateVendors.map missingTemplate).Nodup := by decide +kernel

end Draft

theorem mem_templatesOf_iff {catalog : Catalog} {vs : List TemplateVendor} {v : TemplateVendor} {t : Template} :
    (v, t) ∈ templatesOf catalog vs ↔ v ∈ vs ∧ catalog.lookup v.key = some t := by
  rw [templatesOf, List.mem_filterMap]
  constructor
  · rintro ⟨w, member, row⟩
    obtain ⟨u, found, same⟩ := Option.map_eq_some_iff.mp row
    cases same
    exact ⟨member, found⟩
  · rintro ⟨member, found⟩
    exact ⟨v, member, Option.map_eq_some_iff.mpr ⟨t, found, rfl⟩⟩

/-- Each vendor stands in a row at most once. -/
theorem templatesOf_sublist (catalog : Catalog) (vs : List TemplateVendor) :
    ((templatesOf catalog vs).map (·.1)).Sublist vs := by
  induction vs with
  | nil => exact .slnil
  | cons v rest ih =>
    rw [templatesOf, List.filterMap_cons]
    cases catalog.lookup v.key with
    | none => exact ih.cons v
    | some t => exact ih.cons_cons v

theorem templateVendors_keys_nodup : (templateVendors.map (·.key)).Nodup := by decide

/-- The template vendors with a tag to migrate. -/
def Selection.Migrated (s : Selection) (v : TemplateVendor) : Prop := ∃ tag ∈ s.tags, tag.type = .str v.tagType

/-- A vendor with templates is asked for exactly if one of its tags is to be migrated. -/
theorem Selection.Faithful.asks_iff {vendors : List Scalar} {s : Selection} (faithful : s.Faithful vendors)
    {v : TemplateVendor} (template : v ∈ templateVendors) :
    ((vendors.isEmpty || vendors.contains (.str v.key)) && s.flag v.flag) = true ↔ s.Migrated v := by
  obtain ⟨row, owner⟩ := templateVendors_flagged v template
  have tagged : s.flag v.flag = true ↔ s.Migrated v := by
    rw [faithful.flagged.flag_iff row]
    refine exists_congr fun tag => and_congr_right fun member => ?_
    obtain ⟨type, typed⟩ := Json.exists_of_isText (faithful.typed tag member)
    rw [typed, List.mem_singleton]
    exact ⟨congrArg Json.str, Json.str.inj⟩
  -- That the key has been selected need not be asked: the tags of a selection are those of its vendors.
  rw [Bool.and_eq_true, tagged, and_iff_right_iff_imp]
  rintro ⟨tag, member, typed⟩
  have key : vendorKey tag = .str v.key := by
    rw [vendorKey, typed, Json.textOrEmpty, owner]
  rcases faithful.selected with all | some
  · rw [all, Bool.true_or]
  · rw [← key, some tag member, Bool.or_true]

/-- An export whose folders, templates and warnings go with the migrated tags. Every warning is for a vendor that
has such tags and no template, and no template is there without them. -/
structure Consistent (g : ServerGenerator) (s : Selection) (d : Draft) (e : Container) : Prop where
  tags : ∃ base servers, e.tags = base ++ servers ∧
    (base.map Entity.name).Sublist [Draft.ga4TagName, Draft.linkerTagName] ∧
    List.Forall₂ (fun tag server => Migrates g.container g.catalog d e tag server ∧ Filed e tag server) s.tags servers
  folders : ∀ name, (∃ folder ∈ e.folders, folder.get "name" = .str name) ↔
    name ∈ [Draft.settingsFolder, Draft.eventDataFolder] ∨
      ∃ tag ∈ s.tags, folderName? tag.type.textOrEmpty = some name
  templates : ∃ rows : List (TemplateVendor × Template),
    List.Forall₂ (fun row template => template.get "name" = row.2.displayName ∧
      template.get "templateData" = .str row.2.source) rows e.templates ∧
    (rows.map (·.1.key)).Nodup ∧
    ∀ v t, (v, t) ∈ rows ↔ v ∈ templateVendors ∧ s.Migrated v ∧ g.catalog.lookup v.key = some t
  warned : ∀ v ∈ templateVendors, s.Migrated v → g.catalog.lookup v.key = none →
    d.warnings.count (Draft.missingTemplate v) = 1
  silent : ∀ v ∈ templateVendors, ¬s.Migrated v ∨ (g.catalog.lookup v.key).isSome = true →
    Draft.missingTemplate v ∉ d.warnings

end Server

namespace ServerGenerator

open Server

variable (g : ServerGenerator) (s : Selection)

/-- The vendors whose templates are looked up in the catalog. Flags decide here, not the tags. -/
def sought : List TemplateVendor :=
  templateVendors.filter fun v => (g.vendors.isEmpty || g.vendors.contains (.str v.key)) && s.flag v.flag

theorem emitted_eq : g.emitted s = templatesOf g.catalog (g.sought s) := rfl

/-- The flags of an analysis, and those made for a selection, ask for the vendors with a tag to migrate. -/
theorem mem_sought_iff {g : ServerGenerator} {s : Selection} (faithful : s.Faithful g.vendors) {v : TemplateVendor} :
    v ∈ g.sought s ↔ v ∈ templateVendors ∧ s.Migrated v := by
  rw [sought, List.mem_filter]
  exact and_congr_right fun template => faithful.asks_iff template

/-- Those of the sought vendors that are not in the catalog. -/
def missing : List TemplateVendor := (g.sought s).filter fun v => (g.catalog.lookup v.key).isNone

theorem mem_missing_iff {g : ServerGenerator} {s : Selection} (faithful : s.Faithful g.vendors) {v : TemplateVendor} :
    v ∈ g.missing s ↔ v ∈ templateVendors ∧ s.Migrated v ∧ g.catalog.lookup v.key = none := by
  rw [missing, List.mem_filter, mem_sought_iff faithful, and_assoc, Option.isNone_iff_eq_none]

theorem emitted_keys_nodup : ((g.emitted s).map (·.1.key)).Nodup := by
  have within : ((g.emitted s).map (·.1)).Sublist templateVendors :=
    (templatesOf_sublist g.catalog (g.sought s)).trans List.filter_sublist
  have keys := within.map TemplateVendor.key
  rw [List.map_map] at keys
  exact templateVendors_keys_nodup.sublist keys

theorem draftOf_missing_count (v : TemplateVendor) : (g.draftOf s).warnings.count (Draft.missingTemplate v) =
    ((g.missing s).map Draft.missingTemplate).count (Draft.missingTemplate v) := by
  rw [draftOf_eq, Draft.addTags_warnings_count, (g.routed_folders s).2, Draft.addTemplates,
    Draft.addTemplatesOf_warnings, (g.stocked_folders s).2, List.nil_append]
  rfl

/-- The warning of a vendor comes once if its template is missing, and does not come otherwise. -/
theorem draftOf_missing_count_eq {v : TemplateVendor} (template : v ∈ templateVendors) :
    (v ∈ g.missing s → (g.draftOf s).warnings.count (Draft.missingTemplate v) = 1) ∧
      (v ∉ g.missing s → (g.draftOf s).warnings.count (Draft.missingTemplate v) = 0) := by
  have within : (g.missing s).Sublist templateVendors := List.filter_sublist.trans List.filter_sublist
  have nodup := Draft.missingTemplate_nodup.sublist (within.map Draft.missingTemplate)
  rw [draftOf_missing_count]
  constructor
  · exact fun member => List.count_eq_one_of_mem nodup (List.mem_map_of_mem member)
  · intro other
    refine List.count_eq_zero.mpr fun warned => other ?_
    obtain ⟨w, member, same⟩ := List.mem_map.mp warned
    rwa [← List.inj_on_of_nodup_map Draft.missingTemplate_nodup (within.subset member) template same]

variable (includePaused : Bool) (source : Option String)

theorem reread_consistent (faithful : s.Faithful g.vendors) :
    Consistent g s (g.draftOf s) (g.reread s includePaused source) := by
  refine ⟨?_, g.reread_folder_iff s includePaused source faithful.flagged,
    ⟨g.emitted s, ?_, g.emitted_keys_nodup s, ?_⟩, ?_, ?_⟩
  · obtain ⟨base, servers, tags, names, served, _⟩ := g.draftOf_serves s
    refine ⟨base.map (ServerTag.entity g.fingerprint), servers.map (ServerTag.entity g.fingerprint), ?_, ?_, ?_⟩
    · rw [reread, Draft.toContainer_tags, tags, List.map_append]
    · have same : (base.map (ServerTag.entity g.fingerprint)).map Entity.name = base.map (·.name) := by
        rw [List.map_map]
        exact List.map_congr_left fun t _ => by simp [Entity.name, Json.textOrEmpty]
      rwa [same]
    · rw [List.forall₂_map_right_iff]
      refine ((List.forall₂_and_left _ _).mpr ⟨fun tag member => member, served⟩).imp fun tag server each => ?_
      obtain ⟨member, serves⟩ := each
      exact ⟨g.reread_migrates s includePaused source serves,
        g.reread_filed s includePaused source faithful.flagged member serves⟩
  · rw [reread, Draft.toContainer_templates, draftOf_templates, List.forall₂_map_right_iff]
    exact forall₂_mapIdx fun i row => ⟨CustomTemplate.entity_name _ _, CustomTemplate.entity_templateData _ _⟩
  · intro v t
    rw [emitted_eq, mem_templatesOf_iff, mem_sought_iff faithful, and_assoc]
  · intro v template migrated unknown
    exact (g.draftOf_missing_count_eq s template).1 ((mem_missing_iff faithful).mpr ⟨template, migrated, unknown⟩)
  · intro v template reason
    refine List.count_eq_zero.mp ((g.draftOf_missing_count_eq s template).2 fun member => ?_)
    obtain ⟨_, migrated, unknown⟩ := (mem_missing_iff faithful).mp member
    rcases reason with none | known
    · exact none migrated
    · rw [unknown] at known
      cases known

/-- The generator for an analysis of a container drafts a selection of its tags whose flags are those of the tags. -/
theorem faithful_of_draft {c : Container} {a : Analysis} (analyzed : c.migrationAnalysis = .ok a) {selected : Json}
    {catalog : Catalog} {moment : Moment} {address : Option String} {g : ServerGenerator} {d : Draft}
    (made : ServerGenerator.ofAnalysis c (some a.toFields) selected catalog moment address = .ok g)
    (drafted : g.draft = .ok d) : ∃ s, g.selection = .ok s ∧ d = g.draftOf s ∧ s.Faithful g.vendors := by
  have analysis : g.analysis = a.toFields := by
    rw [ofAnalysis_eq] at made
    obtain ⟨vendors, _, rfl⟩ := ok_of_map made
    rfl
  obtain ⟨s, selected, rfl⟩ := ok_of_map drafted
  have faithful := selected
  rw [selection, analysis] at faithful
  exact ⟨s, selected, rfl, Selection.faithful_of_ofAnalysis analyzed faithful⟩

/-- For the analysis of a container a generator can be made and drafts, where no vendors or texts are selected.
Whatever is selected, the export of a draft is consistent: its folders, templates and warnings are those of the
migrated tags. -/
theorem generate_consistent {c : Container} {a : Analysis} (analyzed : c.migrationAnalysis = .ok a) (selected : Json)
    (catalog : Catalog) (moment : Moment) (address : Option String) (includePaused : Bool) (source : Option String) :
    ((selected = .null ∨ ∃ keys, selected = Json.texts keys) → ∃ g d,
      ServerGenerator.ofAnalysis c (some a.toFields) selected catalog moment address = .ok g ∧ g.draft = .ok d) ∧
    ∀ g d, ServerGenerator.ofAnalysis c (some a.toFields) selected catalog moment address = .ok g →
      g.draft = .ok d → ∃ s e, g.selection = .ok s ∧ g.generate = .ok (g.exportOf d) ∧
        Container.ofJson (g.exportOf d) includePaused source = .ok e ∧ Consistent g s d e := by
  constructor
  · intro given
    have own : ∀ key ∈ ((Json.lookup a.toFields "selectedVendors").getD .null).items, key.isText = true := by
      obtain ⟨_, _, flags⟩ := Container.of_migrationAnalysis analyzed
      rw [Analysis.lookup_selectedVendors flags]
      exact fun key member => absurd member List.not_mem_nil
    obtain ⟨vendors, read, texts⟩ := exists_selected own given
    let g : ServerGenerator := { container := c, analysis := a.toFields, vendors, catalog, moment, address }
    obtain ⟨s, drafts⟩ := selection_of_texts (g := g) texts
    refine ⟨g, _, ?_, draft_of_selection drafts⟩
    rw [ofAnalysis_eq, Option.getD_some, read]
    rfl
  · intro g d made drafted
    obtain ⟨s, selects, rfl, faithful⟩ := faithful_of_draft analyzed made drafted
    exact ⟨s, _, selects, generate_of_draft drafted, g.ofJson_exportOf s includePaused source,
      g.reread_consistent s includePaused source faithful⟩

def pixelAnalysis : Analysis where
  tagsToMigrate := [pixel]
  clientOnlyTags := []
  triggersToMigrate := []
  complexTriggers := []
  variablesToMigrate := []
  vendors := Vendor.all.filter (·.key == "facebook")
  flags := Vendor.flagsOfTypes ["fbq"]

theorem pixelPage_analyzed (typeId : String) :
    (pixelPage typeId).container.migrationAnalysis = .ok pixelAnalysis := rfl

/-- A page with a tag of Facebook, whose template is not in the catalog. -/
theorem pixelPage_consistent : (pixelPage "").container.migrationAnalysis = .ok pixelAnalysis ∧ ∃ g d s e,
    ServerGenerator.ofAnalysis (pixelPage "").container (some pixelAnalysis.toFields) (.arr ["facebook"]) []
      (pixelPage "").moment none = .ok g ∧ g.draft = .ok d ∧ g.selection = .ok s ∧
    Container.ofJson (g.exportOf d) true none = .ok e ∧ s.tags = [pixel] ∧ Consistent g s d e := by
  obtain ⟨exists_draft, consistent⟩ := generate_consistent (pixelPage_analyzed "") (.arr ["facebook"]) []
    (pixelPage "").moment none true none
  obtain ⟨g, d, made, drafted⟩ := exists_draft (Or.inr ⟨["facebook"], rfl⟩)
  obtain ⟨s, e, selects, _, read, consistency⟩ := consistent g d made drafted
  refine ⟨pixelPage_analyzed "", g, d, s, e, made, drafted, selects, read, ?_, consistency⟩
  cases made
  cases selects
  rfl

end ServerGenerator

end TagAudit

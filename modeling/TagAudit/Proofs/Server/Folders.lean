import TagAudit.Proofs.Server.Flags
import TagAudit.Proofs.Server.Wiring

namespace TagAudit

namespace Server

/-- A folder with a flag is the one of all tag types that set the flag. -/
theorem vendorFolders_flagged : ∀ folder ∈ Draft.vendorFolders, ∃ row ∈ Vendor.flagTypes, row.1 = folder.1 ∧
    ∀ type ∈ row.2, folderName? type = some folder.2 := by decide

/-- The folder of a tag type has a flag that the type sets, unless it is the one folder without a flag. -/
theorem folderName?_flagged : ∀ v ∈ Vendor.all,
    (v.label = "Floodlight" ∧ ∀ type ∈ v.tagTypes, type ∈ ["flc", "fls"]) ∨
    ∃ folder ∈ Draft.vendorFolders, folder.2 = v.label ∧ ∃ row ∈ Vendor.flagTypes, row.1 = folder.1 ∧
      ∀ type ∈ v.tagTypes, type ∈ row.2 := by decide

/-- The tables for the tags of a server container and the vendors of a migration list the same types. -/
theorem tables_listed : ∀ type ∈ tagVendors.map (·.1) ++ tagFolders.map (·.1),
    ∃ v ∈ Vendor.all, type ∈ v.tagTypes := by decide

/-- What the tables have for a type is what the vendor of the type is called. -/
theorem tables_agree : ∀ v ∈ Vendor.all, ∀ type ∈ v.tagTypes,
    vendorKey? type = some v.key ∧ folderName? type = some v.label := by decide

theorem exists_of_folderName? {type name : String} (named : folderName? type = some name) :
    ∃ v ∈ Vendor.all, v.label = name ∧ type ∈ v.tagTypes := by
  have inTable := List.mem_map_of_mem (f := (·.1)) (mem_of_lookup named)
  obtain ⟨v, known, owned⟩ := tables_listed type (List.mem_append_right _ inTable)
  exact ⟨v, known, Option.some.inj ((tables_agree v known type owned).2.symm.trans named), owned⟩

/-- The folders with a flag that are made, and no others, are those of tags to migrate. -/
theorem mem_flaggedFolders_iff {s : Selection} (flagged : s.Flagged) (name : String) :
    name ∈ (Draft.vendorFolders.filter fun folder => s.flag folder.1).map (·.2) ↔
      name ≠ "Floodlight" ∧ ∃ tag ∈ s.tags, folderName? tag.type.textOrEmpty = some name := by
  simp only [List.mem_map, List.mem_filter]
  constructor
  · rintro ⟨folder, ⟨listed, set⟩, rfl⟩
    -- The row names all types of its flag, and the folder is the one of each of them.
    have noFloodlight : ∀ folder ∈ Draft.vendorFolders, folder.2 ≠ "Floodlight" := by decide
    obtain ⟨⟨flag, types⟩, row, rfl, named⟩ := vendorFolders_flagged folder listed
    obtain ⟨tag, member, setting⟩ := (flagged.flag_iff row).mp set
    exact ⟨noFloodlight folder listed, tag, member, named _ setting⟩
  · rintro ⟨other, tag, member, named⟩
    obtain ⟨v, known, rfl, setting⟩ := exists_of_folderName? named
    rcases folderName?_flagged v known with ⟨floodlight, _⟩ | ⟨folder, listed, label, ⟨flag, types⟩, row, rfl, all⟩
    · exact absurd floodlight other
    · exact ⟨folder, ⟨listed, (flagged.flag_iff row).mpr ⟨tag, member, all _ setting⟩⟩, label⟩

theorem floodlight_iff (s : Selection) : (s.tags.any (·.type.isOneOf ["flc", "fls"])) = true ↔
    ∃ tag ∈ s.tags, folderName? tag.type.textOrEmpty = some "Floodlight" := by
  rw [List.any_eq_true]
  refine exists_congr fun tag => and_congr_right fun _ => ?_
  constructor
  · intro floodlight
    have named : ∀ type ∈ ["flc", "fls"], folderName? type = some "Floodlight" := by decide
    cases type : tag.type with
    | str s =>
      rw [type, Json.isOneOf, List.contains_iff_mem] at floodlight
      exact named s floodlight
    | _ =>
      rw [type] at floodlight
      cases floodlight
  · intro named
    obtain ⟨v, known, label, setting⟩ := exists_of_folderName? named
    have only : ∀ v ∈ Vendor.all, v.label = "Floodlight" →
        ∀ type ∈ v.tagTypes, type ∈ ["flc", "fls"] ∧ type ≠ "" := by
      decide
    obtain ⟨listed, nonempty⟩ := only v known label _ setting
    cases type : tag.type with
    | str s =>
      rw [type] at listed
      exact List.contains_iff_mem.mpr listed
    | _ =>
      rw [type] at nonempty
      exact absurd rfl nonempty

/-- Besides the two folders of every server container, a folder is made exactly if it is the one of a tag to
migrate. -/
theorem mem_folderNames_iff {s : Selection} (flagged : s.Flagged) (name : String) :
    name ∈ Draft.folderNames s ↔ name ∈ [Draft.settingsFolder, Draft.eventDataFolder] ∨
      ∃ tag ∈ s.tags, folderName? tag.type.textOrEmpty = some name := by
  rw [Draft.folderNames, List.mem_append, List.mem_append, mem_flaggedFolders_iff flagged, or_assoc]
  refine or_congr_right ?_
  -- Only this folder is made without a flag, from the types of the tags.
  by_cases floodlight : name = "Floodlight"
  · subst floodlight
    rw [← floodlight_iff]
    split
    · rename_i some
      simp [some]
    · rename_i none
      simp [none]
  · split
    · simp [floodlight]
    · simp [floodlight]

theorem folderNames_nodup (s : Selection) : (Draft.folderNames s).Nodup := by
  -- What is made is a part of all folders, in their order.
  have all : ([Draft.settingsFolder, Draft.eventDataFolder] ++ Draft.vendorFolders.map (·.2) ++
      ["Floodlight"]).Nodup := by
    decide
  refine all.sublist ((List.Sublist.append_left (List.filter_sublist.map _) _).append ?_)
  split
  · exact .refl _
  · exact List.nil_sublist _

theorem Draft.foldl_addFolder_names (names : List String) (d : Draft) :
    (names.foldl addFolder d).folders.map (·.name) = d.folders.map (·.name) ++ names := by
  induction names generalizing d with
  | nil => exact (List.append_nil _).symm
  | cons name rest ih =>
    rw [List.foldl_cons, ih]
    simp [addFolder]

def Folder.entity (fingerprint : String) (f : Folder) : Entity := Entity.ofJson (f.toJson fingerprint)

theorem Folder.toJson_eq (fingerprint : String) (f : Folder) :
    f.toJson fingerprint = (f.entity fingerprint).toJson := rfl

@[simp] theorem Folder.entity_name (fingerprint : String) (f : Folder) :
    (f.entity fingerprint).get "name" = .str f.name := by
  simp [entity, toJson, owned, Entity.ofJson, Entity.ofJson?, Entity.get, Entity.get?, Json.lookup]

@[simp] theorem Folder.entity_folderId (fingerprint : String) (f : Folder) :
    (f.entity fingerprint).get "folderId" = idJson f.id := by
  simp [entity, toJson, owned, Entity.ofJson, Entity.ofJson?, Entity.get, Entity.get?, Json.lookup]

@[simp] theorem Folder.entity_liveOnly (fingerprint : String) (f : Folder) :
    (f.entity fingerprint).get "liveOnly" = .null := by
  simp [entity, toJson, owned, Entity.ofJson, Entity.ofJson?, Entity.get, Entity.get?, Json.lookup]

@[simp] theorem ServerTag.entity_parentFolderId (fingerprint : String) (t : ServerTag) :
    (t.entity fingerprint).get "parentFolderId" = (t.folder.map idJson).getD .null := by
  cases folder : t.folder <;>
    simp [entity, toJson, owned, parentFolder, folder, Entity.ofJson, Entity.ofJson?, Entity.get,
      Entity.get?, Json.lookup]

theorem Draft.toContainer_folders (includePaused : Bool) (source : Option String)
    (fingerprint name exportTime : String) (d : Draft) :
    (d.toContainer includePaused source fingerprint name exportTime).folders =
      d.folders.map (Folder.entity fingerprint) := by
  refine Container.entities_eq_map ?_ (Folder.entity_liveOnly fingerprint)
  simp [Container.get, toContainer, versionFields, Json.lookup, Folder.toJson_eq]

/-- An exported server tag is in the one folder that goes with the type of the migrated tag, and in none where there
is no such folder. -/
structure Filed (e : Container) (tag server : Entity) : Prop where
  folder : ∀ name, folderName? tag.type.textOrEmpty = some name → ∃ folder id,
    e.folders.filter (fun f => (f.get "name").isStr name) = [folder] ∧
    folder.get "folderId" = .str id ∧ server.get "parentFolderId" = .str id
  none : folderName? tag.type.textOrEmpty = none → server.get "parentFolderId" = .null

end Server

namespace ServerGenerator

open Server

variable (g : ServerGenerator) (s : Selection)

/-- The draft before there are templates. -/
def stocked : Draft := [Step.folders, .constants, .eventVariables].foldl (g.perform s) .empty

theorem stocked_folders :
    (g.stocked s).folders = (Draft.empty.addFolders s).folders ∧ (g.stocked s).warnings = [] := by
  obtain ⟨_, _, folders⟩ := Draft.empty.addFolders_frame s
  obtain ⟨_, _, _, _, constants⟩ := (Draft.empty.addFolders s).addConstants_frame s g.address
  obtain ⟨_, _, eventVariables⟩ := ((Draft.empty.addFolders s).addConstants s g.address).addEventVariables_frame
  have all : g.stocked s = ((Draft.empty.addFolders s).addConstants s g.address).addEventVariables := rfl
  rw [all, eventVariables, constants]
  refine ⟨rfl, ?_⟩
  rw [folders]
  rfl

theorem routed_folders : (g.routed s).folders = (g.stocked s).folders ∧
    (g.routed s).warnings = ((g.stocked s).addTemplates s g.catalog g.vendors).warnings := by
  let d := (g.stocked s).addTemplates s g.catalog g.vendors
  obtain ⟨_, _, _, templates⟩ := (g.stocked s).addTemplates_frame s g.catalog g.vendors
  obtain ⟨_, _, clients⟩ := d.addClients_frame s
  obtain ⟨_, _, _, triggers⟩ := (d.addClients s).addTriggers_frame s g.container
  have all : g.routed s = (d.addClients s).addTriggers s g.container := rfl
  rw [all, triggers, clients]
  refine ⟨?_, rfl⟩
  dsimp only [d]
  rw [templates]

theorem draftOf_folderNames : (g.draftOf s).folders.map (·.name) = Draft.folderNames s := by
  obtain ⟨_, _, _, _, _, tags⟩ := (g.routed s).addTags_frame s g.container g.catalog
  rw [draftOf_eq, tags]
  dsimp only
  rw [(g.routed_folders s).1, (g.stocked_folders s).1]
  exact Draft.foldl_addFolder_names _ _

/-- A folder is found by its name, and no other folder of a draft has the name. -/
theorem folderId?_of_mem {name : String} (made : name ∈ Draft.folderNames s) : ∃ folder : Folder,
    (g.draftOf s).folders.filter (·.name == name) = [folder] ∧ (g.draftOf s).folderId? name = some folder.id := by
  have nodup := folderNames_nodup s
  rw [← g.draftOf_folderNames s] at made nodup
  obtain ⟨folder, member, rfl⟩ := List.mem_map.mp made
  have only := filter_eq_singleton nodup member
  refine ⟨folder, only, ?_⟩
  rw [Draft.folderId?, ← List.head?_filter, only]
  rfl

variable (includePaused : Bool) (source : Option String)

theorem reread_folders : (g.reread s includePaused source).folders =
    (g.draftOf s).folders.map (Folder.entity g.fingerprint) := Draft.toContainer_folders _ _ _ _ _ _

theorem reread_filed (flagged : s.Flagged) {tag : Entity} (member : tag ∈ s.tags) {server : ServerTag}
    (serves : (g.draftOf s).Serves g.container g.catalog tag server) :
    Filed (g.reread s includePaused source) tag (server.entity g.fingerprint) := by
  constructor
  · intro name named
    have made : name ∈ Draft.folderNames s := (mem_folderNames_iff flagged name).mpr (Or.inr ⟨tag, member, named⟩)
    obtain ⟨folder, only, found⟩ := g.folderId?_of_mem s made
    refine ⟨folder.entity g.fingerprint, Numeral.ofInt folder.id, ?_, Folder.entity_folderId _ _, ?_⟩
    · have sameName : (fun f => (f.get "name").isStr name) ∘ Folder.entity g.fingerprint = (·.name == name) := by
        funext f
        rw [Function.comp_apply, Folder.entity_name]
        rfl
      rw [reread_folders, List.filter_map, sameName, only]
      rfl
    · rw [ServerTag.entity_parentFolderId, serves.folder, named, Option.bind_some, found]
      rfl
  · intro unnamed
    rw [ServerTag.entity_parentFolderId, serves.folder, unnamed]
    rfl

theorem reread_folder_iff (flagged : s.Flagged) (name : String) :
    (∃ folder ∈ (g.reread s includePaused source).folders, folder.get "name" = .str name) ↔
      name ∈ [Draft.settingsFolder, Draft.eventDataFolder] ∨
        ∃ tag ∈ s.tags, folderName? tag.type.textOrEmpty = some name := by
  rw [← mem_folderNames_iff flagged, ← g.draftOf_folderNames s, reread_folders]
  simp only [List.mem_map, exists_exists_and_eq_and, Folder.entity_name, Json.str.injEq]

end ServerGenerator

end TagAudit

import Mathlib.Data.List.Nodup
import Mathlib.Data.List.Perm.Basic
import TagAudit.Proofs.Server.Frame
import TagAudit.Proofs.Server.FreeName

namespace TagAudit.Server

/-- Two lists share the numbers from 1 to the last one given out: each number stands in one of them
once, and both lists are in increasing order. -/
structure SharedNumbers (left right : List Nat) (last : Nat) : Prop where
  shared : (left ++ right).Perm (List.range' 1 last)
  left_increasing : left.Pairwise (· < ·)
  right_increasing : right.Pairwise (· < ·)

theorem SharedNumbers.le_last {left right : List Nat} {last n : Nat}
    (numbers : SharedNumbers left right last) (member : n ∈ left ++ right) : n ≤ last := by
  have within := List.mem_range'_1.mp (numbers.shared.mem_iff.mp member)
  omega

theorem SharedNumbers.symm {left right : List Nat} {last : Nat}
    (numbers : SharedNumbers left right last) : SharedNumbers right left last :=
  ⟨List.perm_append_comm.trans numbers.shared, numbers.right_increasing, numbers.left_increasing⟩

theorem SharedNumbers.concat_right {left right : List Nat} {last : Nat}
    (numbers : SharedNumbers left right last) :
    SharedNumbers left (right ++ [last + 1]) (last + 1) := by
  refine ⟨?_, numbers.left_increasing, ?_⟩
  · rw [List.range'_1_concat, ← List.append_assoc, Nat.add_comm 1 last]
    exact numbers.shared.append_right _
  · rw [List.pairwise_append]
    refine ⟨numbers.right_increasing, List.pairwise_singleton _ _, ?_⟩
    intro old member new last
    have bound := numbers.le_last (List.mem_append_right left member)
    have value := List.mem_singleton.mp last
    omega

theorem SharedNumbers.concat_left {left right : List Nat} {last : Nat}
    (numbers : SharedNumbers left right last) :
    SharedNumbers (left ++ [last + 1]) right (last + 1) :=
  numbers.symm.concat_right.symm

namespace Draft

/-- What holds of a draft at all times. Numbers are given out from 1 on and without gaps, names of
constants are unique, and whatever refers to a trigger or a folder refers to one of the draft. -/
structure Sound (d : Draft) : Prop where
  folder_ids : d.folders.map (·.id) = List.range' 1 d.counters.folder
  template_ids : d.templates.map (·.id) = List.range' 1 d.counters.template
  client_ids : d.clients.map (·.id) = List.range' 1 d.counters.client
  trigger_ids : d.triggers.map (·.id) = List.range' 1 d.counters.trigger
  tag_ids : d.tags.map (·.id) = List.range' 1 d.counters.tag
  variable_ids : SharedNumbers (d.constants.map (·.id)) (d.eventVariables.map (·.id))
    d.counters.userVariable
  constant_names_nodup : (d.constants.map (·.name)).Nodup
  mem_constantNames : ∀ name, name ∈ d.constantNames ↔ name ∈ d.constants.map (·.name)
  values_nodup : (d.constantOf.map (·.1)).Nodup
  names_of_values_nodup : (d.constantOf.map (·.2)).Nodup
  names_of_values_known : ∀ row ∈ d.constantOf, row.2 ∈ d.constants.map (·.name)
  event_trigger_known : ∀ row ∈ d.triggerOf, row.2 ∈ d.triggers.map (·.id)
  tag_trigger_once : ∀ t ∈ d.tags, (d.triggers.map (·.id)).count t.trigger = 1
  constant_folder_known : ∀ c ∈ d.constants, ∀ id ∈ c.folder, id ∈ d.folders.map (·.id)
  event_variable_folder_known : ∀ v ∈ d.eventVariables, ∀ id ∈ v.folder, id ∈ d.folders.map (·.id)
  tag_folder_known : ∀ t ∈ d.tags, ∀ id ∈ t.folder, id ∈ d.folders.map (·.id)

theorem empty_sound : empty.Sound where
  variable_ids := ⟨.refl _, .nil, .nil⟩
  folder_ids := rfl
  template_ids := rfl
  client_ids := rfl
  trigger_ids := rfl
  tag_ids := rfl
  constant_names_nodup := .nil
  mem_constantNames := fun _ => .rfl
  values_nodup := .nil
  names_of_values_nodup := .nil
  names_of_values_known := by simp [empty]
  event_trigger_known := by simp [empty]
  tag_trigger_once := by simp [empty]
  constant_folder_known := by simp [empty]
  event_variable_folder_known := by simp [empty]
  tag_folder_known := by simp [empty]

theorem folderId?_mem {d : Draft} {name : String} {id : Nat} (found : id ∈ d.folderId? name) :
    id ∈ d.folders.map (·.id) := by
  obtain ⟨f, atFolder, rfl⟩ := Option.map_eq_some_iff.mp found
  exact List.mem_map_of_mem (List.mem_of_find?_eq_some atFolder)

theorem ids_concat {ids : List Nat} {last : Nat} (numbered : ids = List.range' 1 last) :
    ids ++ [last + 1] = List.range' 1 (last + 1) := by
  rw [List.range'_1_concat, numbered, Nat.add_comm 1 last]

theorem Sound.addFolder {d : Draft} (sound : d.Sound) (name : String) : (d.addFolder name).Sound := by
  have kept : ∀ id ∈ d.folders.map (·.id), id ∈ (d.addFolder name).folders.map (·.id) := by
    intro id member
    simpa [Draft.addFolder] using Or.inl (List.mem_map.mp member)
  exact { sound with
    folder_ids := by simpa [Draft.addFolder] using ids_concat sound.folder_ids
    constant_folder_known := fun c member id filed =>
      kept id (sound.constant_folder_known c member id filed)
    event_variable_folder_known := fun v member id filed =>
      kept id (sound.event_variable_folder_known v member id filed)
    tag_folder_known := fun t member id filed => kept id (sound.tag_folder_known t member id filed) }

theorem Sound.addFolders {d : Draft} (sound : d.Sound) (s : Selection) : (d.addFolders s).Sound :=
  List.foldlRecOn _ _ sound fun _ sound name _ => sound.addFolder name

theorem Sound.addConstant {d : Draft} (sound : d.Sound) {name : String}
    (free : name ∉ d.constantNames) (value : String) : (d.addConstant name value).Sound := by
  have unused : name ∉ d.constants.map (·.name) := fun member =>
    free ((sound.mem_constantNames name).mpr member)
  exact { sound with
    variable_ids := by simpa [Draft.addConstant] using sound.variable_ids.concat_left
    constant_names_nodup := by
      simp only [Draft.addConstant, List.map_append, List.map_cons, List.map_nil]
      rw [← List.concat_eq_append]
      exact sound.constant_names_nodup.concat unused
    mem_constantNames := by
      intro other
      simp only [Draft.addConstant, List.mem_insert_iff, sound.mem_constantNames, List.map_append,
        List.map_cons, List.map_nil, List.mem_append, List.mem_singleton]
      exact or_comm
    names_of_values_known := by
      intro row member
      simpa [Draft.addConstant] using Or.inl (List.mem_map.mp (sound.names_of_values_known row member))
    constant_folder_known := by
      intro c member id filed
      rcases List.mem_append.mp member with old | new
      · exact sound.constant_folder_known c old id filed
      · cases List.mem_singleton.mp new
        exact folderId?_mem filed }

theorem Sound.ensureConstant {d : Draft} (sound : d.Sound) (name value : String) :
    (d.ensureConstant name value).Sound := by
  unfold Draft.ensureConstant
  split
  · exact sound
  · rename_i absent
    exact sound.addConstant (fun member => absent (hasConstant_iff.mpr member)) value

theorem Sound.addValue {d : Draft} (sound : d.Sound) (value : Json) (base what : String) :
    (d.addValue value base what).Sound := by
  unfold Draft.addValue
  split
  · rename_i text
    split
    · exact sound
    · rename_i fresh
      have absent : text ∉ d.constantOf.map (·.1) := by
        intro member
        obtain ⟨row, known, rfl⟩ := List.mem_map.mp member
        have found := List.lookup_isSome_iff.mpr ⟨row, known, beq_self_eq_true row.1⟩
        simp [found] at fresh
      -- A name that no constant has stands for no value yet, so the new row repeats neither part.
      have free := d.freeName_not_mem base
      have unused : d.freeName base ∉ d.constantOf.map (·.2) := by
        intro member
        obtain ⟨row, known, same⟩ := List.mem_map.mp member
        have named := sound.names_of_values_known row known
        exact free ((sound.mem_constantNames _).mpr (same ▸ named))
      have added := sound.addConstant free (if isConcrete text then text else placeholder what)
      exact { added with
        values_nodup := by
          simp only [List.map_append, List.map_cons, List.map_nil]
          rw [← List.concat_eq_append]
          exact sound.values_nodup.concat absent
        names_of_values_nodup := by
          simp only [List.map_append, List.map_cons, List.map_nil]
          rw [← List.concat_eq_append]
          exact sound.names_of_values_nodup.concat unused
        names_of_values_known := by
          intro row member
          rcases List.mem_append.mp member with old | new
          · exact added.names_of_values_known row old
          · cases List.mem_singleton.mp new
            simp [Draft.addConstant] }
  · exact sound

theorem Sound.addConstantsOf {d : Draft} (sound : d.Sound) (tag : Entity) :
    (d.addConstantsOf tag).Sound := by
  unfold Draft.addConstantsOf
  split
  · exact sound.addValue _ _ _
  · exact sound.addValue _ _ _
  · exact (sound.addValue _ _ _).addValue _ _ _
  · exact (sound.addValue _ _ _).addValue _ _ _
  · exact List.foldlRecOn _ _ sound fun _ sound c _ => sound.ensureConstant _ _
  · exact sound

theorem Sound.addConstants {d : Draft} (sound : d.Sound) (s : Selection) (address : Option String) :
    (d.addConstants s address).Sound := by
  refine Sound.ensureConstant ?_ _ _
  exact List.foldlRecOn _ _ sound fun _ sound tag _ => sound.addConstantsOf tag

theorem Sound.addEventVariable {d : Draft} (sound : d.Sound) (key : String) :
    (d.addEventVariable key).Sound :=
  { sound with
    variable_ids := by simpa [Draft.addEventVariable] using sound.variable_ids.concat_right
    event_variable_folder_known := by
      intro v member id filed
      rcases List.mem_append.mp member with old | new
      · exact sound.event_variable_folder_known v old id filed
      · cases List.mem_singleton.mp new
        exact folderId?_mem filed }

theorem Sound.addEventVariables {d : Draft} (sound : d.Sound) : d.addEventVariables.Sound :=
  List.foldlRecOn _ _ sound fun _ sound key _ => sound.addEventVariable key

theorem Sound.warn {d : Draft} (sound : d.Sound) (warning : String) : (d.warn warning).Sound :=
  { sound with }

theorem Sound.addTemplateOf {d : Draft} (sound : d.Sound) (catalog : Catalog) (v : TemplateVendor) :
    (d.addTemplateOf catalog v).Sound := by
  unfold Draft.addTemplateOf
  split
  · exact { sound with
      template_ids := by simpa [Draft.addTemplate] using ids_concat sound.template_ids }
  · exact sound.warn _

theorem Sound.addTemplates {d : Draft} (sound : d.Sound) (s : Selection) (catalog : Catalog)
    (vendors : List Scalar) : (d.addTemplates s catalog vendors).Sound :=
  List.foldlRecOn _ _ sound fun _ sound v _ => sound.addTemplateOf catalog v

theorem Sound.addClients {d : Draft} (sound : d.Sound) (s : Selection) : (d.addClients s).Sound := by
  unfold Draft.addClients
  split
  · exact { sound with client_ids := by simpa [Draft.addClient] using ids_concat sound.client_ids }
  · exact sound

theorem Sound.trigger_le {d : Draft} (sound : d.Sound) {id : Nat}
    (member : id ∈ d.triggers.map (·.id)) : id ≤ d.counters.trigger := by
  rw [sound.trigger_ids, List.mem_range'_1] at member
  omega

theorem Sound.addTrigger {d : Draft} (sound : d.Sound) (key name : String) (event : Option String)
    (client : String) : (d.addTrigger key name event client).Sound :=
  { sound with
    trigger_ids := by simpa [Draft.addTrigger] using ids_concat sound.trigger_ids
    event_trigger_known := by
      intro row member
      simp only [Draft.addTrigger, List.map_append, List.map_cons, List.map_nil, List.mem_append,
        List.mem_singleton]
      rcases eq_or_mem_of_mem_put member with new | old
      · exact Or.inr (congrArg Prod.snd new)
      · exact Or.inl (sound.event_trigger_known row old)
    tag_trigger_once := by
      intro t member
      have once := sound.tag_trigger_once t member
      have known : t.trigger ∈ d.triggers.map (·.id) := List.count_pos_iff.mp (by omega)
      -- Tags fire on triggers of the draft, so none of them fires on the number that is new.
      have old := sound.trigger_le known
      have other : t.trigger ∉ [d.counters.trigger + 1] := by
        rw [List.mem_singleton]
        omega
      simpa [Draft.addTrigger, List.count_eq_zero_of_not_mem other] using once }

theorem Sound.addTriggerOf {d : Draft} (sound : d.Sound) (c : Container) (tag : Entity) :
    (d.addTriggerOf c tag).Sound := by
  unfold Draft.addTriggerOf
  dsimp only
  split
  · exact sound
  · exact sound.addTrigger _ _ _ _

theorem Sound.addTriggers {d : Draft} (sound : d.Sound) (s : Selection) (c : Container) :
    (d.addTriggers s c).Sound := by
  refine List.foldlRecOn _ _ ?_ fun _ sound tag _ => sound.addTriggerOf c tag
  unfold addAllEventsTrigger
  split
  · exact sound.addTrigger _ _ _ _
  · exact sound

theorem Sound.triggers_nodup {d : Draft} (sound : d.Sound) : (d.triggers.map (·.id)).Nodup := by
  rw [sound.trigger_ids]
  exact List.nodup_range'

theorem Sound.triggerFor?_once {d : Draft} (sound : d.Sound) {event : String} {id : Nat}
    (found : d.triggerFor? event = some id) : (d.triggers.map (·.id)).count id = 1 :=
  List.count_eq_one_of_mem sound.triggers_nodup
    (sound.event_trigger_known (event, id) (mem_of_lookup found))

theorem Sound.addTag {d : Draft} (sound : d.Sound) {event : String} {trigger : Nat}
    (routed : d.triggerFor? event = some trigger) (name : String) (type : Json)
    (parameters : Noting (List Parameter)) {folder : Option Nat}
    (filed : ∀ id ∈ folder, id ∈ d.folders.map (·.id)) :
    (d.addTag name type parameters trigger folder).Sound :=
  { sound with
    tag_ids := by simpa [Draft.addTag] using ids_concat sound.tag_ids
    tag_trigger_once := by
      intro t member
      rcases List.mem_append.mp member with old | new
      · exact sound.tag_trigger_once t old
      · cases List.mem_singleton.mp new
        exact sound.triggerFor?_once routed
    tag_folder_known := by
      intro t member id inFolder
      rcases List.mem_append.mp member with old | new
      · exact sound.tag_folder_known t old id inFolder
      · cases List.mem_singleton.mp new
        exact filed id inFolder }

theorem Sound.addGa4Tag {d : Draft} (sound : d.Sound) {event : String} {trigger : Nat}
    (routed : d.triggerFor? event = some trigger) (s : Selection) : (d.addGa4Tag s trigger).Sound := by
  unfold Draft.addGa4Tag
  split
  · exact sound.addTag routed _ _ _ fun _ found => folderId?_mem found
  · exact sound

theorem Sound.addLinkerTag {d : Draft} (sound : d.Sound) {event : String} {trigger : Nat}
    (routed : d.triggerFor? event = some trigger) (s : Selection) :
    (d.addLinkerTag s trigger).Sound := by
  unfold Draft.addLinkerTag
  split
  · exact sound.addTag routed _ _ _ fun _ found => folderId?_mem found
  · exact sound

theorem Sound.addBaseTags {d : Draft} (sound : d.Sound) (s : Selection) : (d.addBaseTags s).Sound := by
  unfold Draft.addBaseTags
  split
  · exact sound
  · rename_i trigger routed
    have stillRouted := ((d.addGa4Tag_frame s trigger).triggerFor?_eq allEvents).trans routed
    exact (sound.addGa4Tag routed s).addLinkerTag stillRouted s

theorem Sound.addTagOf {d : Draft} (sound : d.Sound) (c : Container) (catalog : Catalog) (tag : Entity) :
    (d.addTagOf c catalog tag).Sound := by
  unfold Draft.addTagOf
  split
  · exact sound
  · rename_i trigger routed
    have filed (e : Draft) : ∀ id ∈ (folderName? tag.type.textOrEmpty).bind e.folderId?,
        id ∈ e.folders.map (·.id) := by
      intro id found
      obtain ⟨name, _, inFolder⟩ := Option.bind_eq_some_iff.mp found
      exact folderId?_mem inFolder
    dsimp only
    split
    · exact { (sound.warn (untypedWarning tag)).addTag routed _ _ _ (filed _) with }
    · exact { sound.addTag routed _ _ _ (filed _) with }

theorem Sound.addTags {d : Draft} (sound : d.Sound) (s : Selection) (c : Container)
    (catalog : Catalog) : (d.addTags s c catalog).Sound :=
  List.foldlRecOn _ _ (sound.addBaseTags s) fun _ sound tag _ => sound.addTagOf c catalog tag

end Draft

end TagAudit.Server

namespace TagAudit.ServerGenerator

open Server

theorem perform_sound (g : ServerGenerator) (s : Selection) {d : Draft} (sound : d.Sound) (step : Step) :
    (g.perform s d step).Sound := by
  cases step with
  | folders => exact sound.addFolders s
  | constants => exact sound.addConstants s g.address
  | eventVariables => exact sound.addEventVariables
  | templates => exact sound.addTemplates s g.catalog g.vendors
  | clients => exact sound.addClients s
  | triggers => exact sound.addTriggers s g.container
  | tags => exact sound.addTags s g.container g.catalog

/-- A draft is sound after any steps of the generation on a sound one, in whatever order and however
often they are carried out. -/
theorem run_sound (g : ServerGenerator) (s : Selection) (steps : List Step) {d : Draft}
    (sound : d.Sound) : (steps.foldl (g.perform s) d).Sound :=
  List.foldlRecOn _ _ sound fun _ sound step _ => g.perform_sound s sound step

theorem draftOf_sound (g : ServerGenerator) (s : Selection) : (g.draftOf s).Sound :=
  g.run_sound s Step.all Draft.empty_sound

/-- Every draft on the way of a run from the empty one is sound. -/
theorem scanl_sound (g : ServerGenerator) (s : Selection) (steps : List Step) :
    ∀ d ∈ steps.scanl (g.perform s) .empty, d.Sound := by
  intro d member
  obtain ⟨k, bound, rfl⟩ := List.mem_iff_getElem.mp member
  rw [List.getElem_scanl]
  exact g.run_sound s (steps.take k) Draft.empty_sound

def purchaseTag (id name type : String) : Json :=
  .obj [("tagId", id), ("name", name), ("type", type), ("firingTriggerId", .arr ["5"])]

/-- The fields of a container version with a tag of GA4 and one of Google Ads on the same event. -/
def purchaseVersion : List (String × Json) :=
  [("tag", .arr [purchaseTag "1" "GA4 - Purchase" "gaawe", purchaseTag "2" "Ads - Purchase" "awct"]),
    ("trigger", .arr [.obj [("triggerId", "5"), ("name", "CE - Purchase"), ("type", "CUSTOM_EVENT"),
      ("customEventFilter", .arr [condition "EQUALS" "_event" "purchase"])]])]

def purchases : ServerGenerator where
  container := ⟨[("containerVersion", .obj purchaseVersion)], purchaseVersion, true, none, rfl⟩
  analysis := [("hasGoogleAds", .bool true), ("tagsToMigrate", (Json.lookup purchaseVersion "tag").getD .null)]
  vendors := []
  catalog := []
  moment := ⟨2024, 1, 15, 12, 30, 45, 0⟩
  address := none

/-- Tags that are added before and after the triggers, which are added twice: the first tags are left
out, and those on all events fire on the trigger that was made last. -/
theorem purchases_scanl_sound : ∃ s d, purchases.selection = .ok s ∧
    d ∈ [Step.tags, .triggers, .folders, .triggers, .tags].scanl (purchases.perform s) .empty ∧
    d.triggers.map (·.id) = [1, 2, 3] ∧ d.tags.map (·.trigger) = [3, 3, 2, 2] ∧ d.Sound := by
  let s := Selection.ofAll purchases.analysis
  let steps := [Step.tags, .triggers, .folders, .triggers, .tags]
  have last : steps.foldl (purchases.perform s) .empty ∈ steps.scanl (purchases.perform s) .empty := by
    simp only [steps, List.scanl_cons, List.scanl_nil, List.foldl_cons, List.foldl_nil, List.mem_cons,
      true_or, or_true]
  exact ⟨s, _, rfl, last, by decide +kernel, by decide +kernel, purchases.scanl_sound s steps _ last⟩

end TagAudit.ServerGenerator

import Mathlib.Data.List.Forall2
import TagAudit.Proofs.Server.Noting
import TagAudit.Proofs.Server.Reading
import TagAudit.Proofs.Server.Routing

namespace TagAudit.Server.Draft

/-- A server tag is the one that a migrated tag becomes. -/
structure Serves (c : Container) (catalog : Catalog) (d : Draft) (tag : Entity) (server : ServerTag) :
    Prop where
  name : server.name = serverTagName c tag
  type : server.type = serverTagType catalog tag
  parameters : server.parameters = d.valuesFor tag server.type
  trigger : d.triggerFor? (c.serverEvent tag) = some server.trigger
  folder : server.folder = (folderName? tag.type.textOrEmpty).bind d.folderId?

/-- What a tag becomes does not depend on the server tags that there are already. -/
theorem TagsOnly.serves_iff {d e : Draft} (same : TagsOnly d e) {c : Container} {catalog : Catalog}
    {tag : Entity} {server : ServerTag} : e.Serves c catalog tag server ↔ d.Serves c catalog tag server := by
  obtain ⟨_, _, _, _, _, rfl⟩ := same
  exact ⟨fun served => ⟨served.name, served.type, served.parameters, served.trigger, served.folder⟩,
    fun served => ⟨served.name, served.type, served.parameters, served.trigger, served.folder⟩⟩

theorem addTagOf_serves {d : Draft} {c : Container} {tag : Entity} (catalog : Catalog)
    (routed : (d.triggerFor? (c.serverEvent tag)).isSome = true) :
    ∃ server, d.Serves c catalog tag server ∧ (d.addTagOf c catalog tag).tags = d.tags ++ [server] ∧
      (d.addTagOf c catalog tag).migrated = d.migrated ++ [noteOf c catalog tag] := by
  obtain ⟨trigger, found⟩ := Option.isSome_iff_exists.mp routed
  unfold addTagOf
  rw [found]
  dsimp only
  split
  · rw [addTag_eq (parametersFor_makes _ tag _ _)]
    exact ⟨_, ⟨rfl, rfl, rfl, found, rfl⟩, rfl, rfl⟩
  · rw [addTag_eq (parametersFor_makes _ tag _ _)]
    exact ⟨_, ⟨rfl, rfl, rfl, found, rfl⟩, rfl, rfl⟩

/-- Tags whose events have triggers each become one server tag, in their order. -/
theorem addTagsOf_serve {d : Draft} {c : Container} {tags : List Entity} (catalog : Catalog)
    (routed : ∀ tag ∈ tags, (d.triggerFor? (c.serverEvent tag)).isSome = true) :
    ∃ servers, List.Forall₂ (d.Serves c catalog) tags servers ∧
      (tags.foldl (addTagOf c catalog) d).tags = d.tags ++ servers ∧
      (tags.foldl (addTagOf c catalog) d).migrated = d.migrated ++ tags.map (noteOf c catalog) := by
  induction tags generalizing d with
  | nil => exact ⟨[], .nil, by simp, by simp⟩
  | cons tag rest ih =>
    obtain ⟨server, served, tagsAfter, notesAfter⟩ :=
      addTagOf_serves catalog (routed tag List.mem_cons_self)
    have frame := addTagOf_frame d c catalog tag
    obtain ⟨servers, restServed, tagsEnd, notesEnd⟩ := ih (d := d.addTagOf c catalog tag) fun t member => by
      rw [frame.triggerFor?_eq]
      exact routed t (List.mem_cons_of_mem _ member)
    refine ⟨server :: servers, .cons served (restServed.imp fun _ _ later => frame.serves_iff.mp later), ?_, ?_⟩
    · rw [List.foldl_cons, tagsEnd, tagsAfter, List.append_assoc]
      rfl
    · rw [List.foldl_cons, notesEnd, notesAfter, List.append_assoc]
      rfl

theorem addBaseTags_names {d : Draft} (fresh : d.tags = []) (s : Selection) :
    ((d.addBaseTags s).tags.map (·.name)).Sublist [ga4TagName, linkerTagName] := by
  unfold addBaseTags
  split
  · simp [fresh]
  · unfold addGa4Tag addLinkerTag
    by_cases ga4 : s.flag "hasGA4Tags" = true <;> by_cases ads : s.flag "hasGoogleAds" = true <;>
      simp [ga4, ads, addTag, fresh]

theorem addBaseTags_migrated (d : Draft) (s : Selection) : (d.addBaseTags s).migrated = d.migrated := by
  unfold addBaseTags addGa4Tag addLinkerTag
  split
  · rfl
  · split <;> split <;> rfl

end TagAudit.Server.Draft

namespace TagAudit.Server

theorem Selection.exists_first (s : Selection) (c : Container) {tag : Entity} (member : tag ∈ s.tags) :
    ∃ first, s.tags.find? (c.serverEvent · == c.serverEvent tag) = some first :=
  Option.isSome_iff_exists.mp (List.find?_isSome.mpr ⟨tag, member, beq_self_eq_true _⟩)

/-- A draft to which neither triggers nor server tags have been added. -/
structure Draft.Fresh (d : Draft) : Prop where
  triggerOf : d.triggerOf = []
  tags : d.tags = []
  migrated : d.migrated = []

end TagAudit.Server

namespace TagAudit.ServerGenerator

open Server

variable (g : ServerGenerator) (s : Selection)

/-- The draft before there are triggers. -/
def prepared : Draft :=
  [Step.folders, .constants, .eventVariables, .templates, .clients].foldl (g.perform s) .empty

/-- The draft before there are tags. -/
def routed : Draft := (g.prepared s).addTriggers s g.container

theorem draftOf_eq : g.draftOf s = (g.routed s).addTags s g.container g.catalog := rfl

/-- Only two of the steps add triggers or server tags. -/
theorem perform_fresh {d : Draft} (fresh : d.Fresh) {step : Step} (early : step ∉ [.triggers, .tags]) :
    (g.perform s d step).Fresh := by
  cases step with
  | folders =>
    obtain ⟨_, _, same⟩ := d.addFolders_frame s
    rw [perform, same]
    exact { fresh with }
  | constants =>
    obtain ⟨_, _, _, _, same⟩ := d.addConstants_frame s g.address
    rw [perform, same]
    exact { fresh with }
  | eventVariables =>
    obtain ⟨_, _, same⟩ := d.addEventVariables_frame
    rw [perform, same]
    exact { fresh with }
  | templates =>
    obtain ⟨_, _, _, same⟩ := d.addTemplates_frame s g.catalog g.vendors
    rw [perform, same]
    exact { fresh with }
  | clients =>
    obtain ⟨_, _, same⟩ := d.addClients_frame s
    rw [perform, same]
    exact { fresh with }
  | triggers => simp at early
  | tags => simp at early

theorem prepared_fresh : (g.prepared s).Fresh := by
  refine List.foldlRecOn _ _ ⟨rfl, rfl, rfl⟩ ?_
  intro d fresh step member
  have early : ∀ step ∈ [Step.folders, .constants, .eventVariables, .templates, .clients],
      step ∉ [Step.triggers, .tags] := by decide
  exact g.perform_fresh s fresh (early step member)

theorem routed_routes {key : String} {first : Entity}
    (atFirst : s.tags.find? (g.container.serverEvent · == key) = some first) :
    if s.wantsAllEvents = true ∧ key = Draft.allEvents then (g.routed s).Routes key none "GA4"
    else (g.routed s).Routes key (some key) first.serverClient :=
  Draft.addTriggers_routes (g.prepared_fresh s).triggerOf s g.container atFirst

theorem routed_isSome {tag : Entity} (member : tag ∈ s.tags) :
    ((g.routed s).triggerFor? (g.container.serverEvent tag)).isSome = true := by
  obtain ⟨first, atFirst⟩ := s.exists_first g.container member
  have routes := g.routed_routes s atFirst
  split at routes
  · exact routes.isSome
  · exact routes.isSome

theorem routed_tags : (g.routed s).tags = [] := by
  obtain ⟨_, _, _, same⟩ := (g.prepared s).addTriggers_frame s g.container
  rw [routed, same]
  exact (g.prepared_fresh s).tags

/-- The tags of a generated draft are the base tags and then, in their order, one server tag for each
tag to migrate. -/
theorem draftOf_tags : ∃ servers, (g.draftOf s).tags = ((g.routed s).addBaseTags s).tags ++ servers ∧
    List.Forall₂ ((g.draftOf s).Serves g.container g.catalog) s.tags servers ∧
    (g.draftOf s).migrated = s.tags.map (Draft.noteOf g.container g.catalog) := by
  have start := (g.routed s).addBaseTags_frame s
  have whole := (g.routed s).addTags_frame s g.container g.catalog
  obtain ⟨_, _, _, same⟩ := (g.prepared s).addTriggers_frame s g.container
  have noNotes : (g.routed s).migrated = [] := by
    rw [routed, same]
    exact (g.prepared_fresh s).migrated
  have routed : ∀ tag ∈ s.tags,
      (((g.routed s).addBaseTags s).triggerFor? (g.container.serverEvent tag)).isSome = true := by
    intro tag member
    rw [start.triggerFor?_eq]
    exact g.routed_isSome s member
  obtain ⟨servers, served, tags, notes⟩ := Draft.addTagsOf_serve g.catalog routed
  refine ⟨servers, tags, ?_, ?_⟩
  · exact served.imp fun _ _ serves => whole.serves_iff.mpr (start.serves_iff.mp serves)
  · rw [Draft.addBaseTags_migrated, noNotes, List.nil_append] at notes
    exact notes

theorem draftOf_serves : ∃ base servers, (g.draftOf s).tags = base ++ servers ∧
    (base.map (·.name)).Sublist [Draft.ga4TagName, Draft.linkerTagName] ∧
    List.Forall₂ ((g.draftOf s).Serves g.container g.catalog) s.tags servers ∧
    (g.draftOf s).migrated = s.tags.map (Draft.noteOf g.container g.catalog) := by
  obtain ⟨servers, tags, served, notes⟩ := g.draftOf_tags s
  exact ⟨_, servers, tags, Draft.addBaseTags_names (g.routed_tags s) s, served, notes⟩

end TagAudit.ServerGenerator

namespace TagAudit.Server

/-- An exported tag is the server tag of a migrated tag: it fires on the trigger that is registered
for the event of the migrated tag, which the export has once. -/
structure Migrates (c : Container) (catalog : Catalog) (d : Draft) (e : Container) (tag server : Entity) :
    Prop where
  name : server.get "name" = .str (Draft.serverTagName c tag)
  type : server.type = Draft.serverTagType catalog tag
  firing : ∃ id, d.triggerFor? (c.serverEvent tag) = some id ∧
    server.get "firingTriggerId" = .arr [idJson id] ∧
    (e.triggers.map (·.id "triggerId")).count (Numeral.ofInt id) = 1

/-- An export, as it is read again, has a server tag for each tag to migrate, and nothing else but
base tags. -/
structure Complete (g : ServerGenerator) (s : Selection) (d : Draft) (e : Container) : Prop where
  notes : d.migrated = s.tags.map (Draft.noteOf g.container g.catalog)
  tags_read : e.get "tag" = .arr (e.tags.map Entity.toJson)
  triggers_read : e.get "trigger" = .arr (e.triggers.map Entity.toJson)
  tags : ∃ base servers, e.tags = base ++ servers ∧
    (base.map Entity.name).Sublist [Draft.ga4TagName, Draft.linkerTagName] ∧
    List.Forall₂ (Migrates g.container g.catalog d e) s.tags servers
  all_used : e.unusedTags = []

end TagAudit.Server

namespace TagAudit.ServerGenerator

open Server

/-- The generator for vendors that are given by their keys. -/
def select (g : ServerGenerator) (keys : List String) : ServerGenerator :=
  { g with vendors := keys.map Scalar.str }

theorem areOrdered_keys (keys : List String) : Selection.areOrdered (keys.map .str) = true := by
  simp [Selection.areOrdered, Scalar.toJson, Json.isText]

theorem select_selection (g : ServerGenerator) (keys : List String) :
    ∃ s, (g.select keys).selection = .ok s := by
  have ordered : Selection.areOrdered (g.select keys).vendors = true := areOrdered_keys keys
  rw [selection, Selection.ofAnalysis, if_pos ordered]
  split
  · exact ⟨_, rfl⟩
  · exact ⟨_, rfl⟩

theorem draft_of_selection {g : ServerGenerator} {s : Selection} (selected : g.selection = .ok s) :
    g.draft = .ok (g.draftOf s) := by
  rw [draft, selected]
  rfl

theorem generate_of_draft {g : ServerGenerator} {d : Draft} (drafted : g.draft = .ok d) :
    g.generate = .ok (g.exportOf d) := by
  rw [generate, drafted]
  rfl

variable (g : ServerGenerator) (s : Selection) (includePaused : Bool) (source : Option String)

/-- The container that the export of a generated draft is read as. -/
def reread : Container :=
  (g.draftOf s).toContainer includePaused source g.fingerprint g.container.info.name.text
    g.moment.toSeconds

theorem ofJson_exportOf : Container.ofJson (g.exportOf (g.draftOf s)) includePaused source =
    .ok (g.reread s includePaused source) := Draft.ofJson_toExport _ _ _ _ _ _

theorem reread_migrates {tag : Entity} {server : ServerTag}
    (serves : (g.draftOf s).Serves g.container g.catalog tag server) :
    Migrates g.container g.catalog (g.draftOf s) (g.reread s includePaused source) tag
      (server.entity g.fingerprint) where
  name := by rw [ServerTag.entity_name, serves.name]
  type := by rw [ServerTag.entity_type, serves.type]
  firing := ⟨server.trigger, serves.trigger, ServerTag.entity_firingTriggerId _ _,
    Draft.toContainer_triggerId_once _ _ _ _ _ (g.draftOf_sound s) serves.trigger⟩

theorem reread_complete : Complete g s (g.draftOf s) (g.reread s includePaused source) := by
  obtain ⟨base, servers, tags, names, served, notes⟩ := g.draftOf_serves s
  refine ⟨notes, ?_, ?_, ?_, ?_⟩
  · rw [reread, Draft.toContainer_get_tag, Draft.toContainer_tags, List.map_map]
    rfl
  · rw [reread, Draft.toContainer_get_trigger, Draft.toContainer_triggers, List.map_map]
    rfl
  · refine ⟨base.map (ServerTag.entity g.fingerprint), servers.map (ServerTag.entity g.fingerprint), ?_, ?_, ?_⟩
    · rw [reread, Draft.toContainer_tags, tags, List.map_append]
    · have same : (base.map (ServerTag.entity g.fingerprint)).map Entity.name = base.map (·.name) := by
        rw [List.map_map]
        exact List.map_congr_left fun t _ => by simp [Entity.name, Json.textOrEmpty]
      rwa [same]
    · rw [List.forall₂_map_right_iff]
      exact served.imp fun _ _ serves => g.reread_migrates s includePaused source serves
  · exact Draft.toContainer_unusedTags _ _ _ _ _ (g.draftOf_sound s)

/-- No tag is lost and none is made twice: a generator for some vendors gives an export, which is
accepted as a container and complete. -/
theorem generate_complete (keys : List String) : ∃ s d e, (g.select keys).selection = .ok s ∧
    (g.select keys).draft = .ok d ∧ (g.select keys).generate = .ok ((g.select keys).exportOf d) ∧
    Container.ofJson ((g.select keys).exportOf d) includePaused source = .ok e ∧
    Complete (g.select keys) s d e := by
  obtain ⟨s, selected⟩ := g.select_selection keys
  have drafted := draft_of_selection selected
  exact ⟨s, _, _, selected, drafted, generate_of_draft drafted, ofJson_exportOf _ s includePaused source,
    reread_complete _ s includePaused source⟩

end TagAudit.ServerGenerator

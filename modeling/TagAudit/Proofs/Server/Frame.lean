import TagAudit.Server.Generator

namespace TagAudit.Server.Draft

/- What a step leaves alone is stated as the ways in which the draft behind it may differ from the
draft before it. Every other part of the two is then the same by definition. -/

def FoldersOnly (d e : Draft) : Prop := ∃ last folders,
  e = { d with counters := { d.counters with folder := last }, folders }

def ConstantsOnly (d e : Draft) : Prop := ∃ last constants constantNames constantOf,
  e = { d with counters := { d.counters with userVariable := last }, constants, constantNames, constantOf }

def EventVariablesOnly (d e : Draft) : Prop := ∃ last eventVariables,
  e = { d with counters := { d.counters with userVariable := last }, eventVariables }

def TemplatesOnly (d e : Draft) : Prop := ∃ last templates warnings,
  e = { d with counters := { d.counters with template := last }, templates, warnings }

def ClientsOnly (d e : Draft) : Prop := ∃ last clients,
  e = { d with counters := { d.counters with client := last }, clients }

def TriggersOnly (d e : Draft) : Prop := ∃ last triggers triggerOf,
  e = { d with counters := { d.counters with trigger := last }, triggers, triggerOf }

def TagsOnly (d e : Draft) : Prop := ∃ last tags migrated tagGaps warnings,
  e = { d with counters := { d.counters with tag := last }, tags, migrated, tagGaps, warnings }

theorem addFolders_frame (d : Draft) (s : Selection) : FoldersOnly d (d.addFolders s) := by
  refine List.foldlRecOn _ _ ⟨d.counters.folder, d.folders, rfl⟩ ?_
  rintro _ ⟨last, folders, rfl⟩ name _
  exact ⟨_, _, rfl⟩

theorem ConstantsOnly.refl (d : Draft) : ConstantsOnly d d :=
  ⟨d.counters.userVariable, d.constants, d.constantNames, d.constantOf, rfl⟩

theorem ConstantsOnly.trans {d e f : Draft} (first : ConstantsOnly d e) (second : ConstantsOnly e f) :
    ConstantsOnly d f := by
  obtain ⟨_, _, _, _, rfl⟩ := first
  obtain ⟨_, _, _, _, rfl⟩ := second
  exact ⟨_, _, _, _, rfl⟩

theorem ensureConstant_frame (d : Draft) (name value : String) :
    ConstantsOnly d (d.ensureConstant name value) := by
  unfold ensureConstant
  split
  · exact .refl d
  · exact ⟨_, _, _, _, rfl⟩

theorem addValue_frame (d : Draft) (value : Json) (base what : String) :
    ConstantsOnly d (d.addValue value base what) := by
  unfold addValue
  split
  · split
    · exact .refl d
    · exact ⟨_, _, _, _, rfl⟩
  · exact .refl d

theorem addConstantsOf_frame (d : Draft) (tag : Entity) : ConstantsOnly d (d.addConstantsOf tag) := by
  unfold addConstantsOf
  split
  · exact addValue_frame _ _ _ _
  · exact addValue_frame _ _ _ _
  · exact (addValue_frame _ _ _ _).trans (addValue_frame _ _ _ _)
  · exact (addValue_frame _ _ _ _).trans (addValue_frame _ _ _ _)
  · exact List.foldlRecOn _ _ (.refl d) fun _ before _ _ => before.trans (ensureConstant_frame _ _ _)
  · exact .refl d

theorem addConstants_frame (d : Draft) (s : Selection) (address : Option String) :
    ConstantsOnly d (d.addConstants s address) := by
  refine ConstantsOnly.trans ?_ (ensureConstant_frame _ _ _)
  exact List.foldlRecOn _ _ (.refl d) fun _ before tag _ => before.trans (addConstantsOf_frame _ tag)

theorem addEventVariables_frame (d : Draft) : EventVariablesOnly d d.addEventVariables := by
  refine List.foldlRecOn _ _ ⟨d.counters.userVariable, d.eventVariables, rfl⟩ ?_
  rintro _ ⟨last, eventVariables, rfl⟩ key _
  exact ⟨_, _, rfl⟩

theorem addTemplates_frame (d : Draft) (s : Selection) (catalog : Catalog) (vendors : List Scalar) :
    TemplatesOnly d (d.addTemplates s catalog vendors) := by
  refine List.foldlRecOn _ _ ⟨d.counters.template, d.templates, d.warnings, rfl⟩ ?_
  rintro _ ⟨last, templates, warnings, rfl⟩ v _
  unfold addTemplateOf
  split
  · exact ⟨_, _, _, rfl⟩
  · exact ⟨_, _, _, rfl⟩

theorem addClients_frame (d : Draft) (s : Selection) : ClientsOnly d (d.addClients s) := by
  unfold addClients
  split
  · exact ⟨_, _, rfl⟩
  · exact ⟨d.counters.client, d.clients, rfl⟩

theorem addAllEventsTrigger_frame (d : Draft) (s : Selection) :
    TriggersOnly d (d.addAllEventsTrigger s) := by
  unfold addAllEventsTrigger
  split
  · exact ⟨_, _, _, rfl⟩
  · exact ⟨d.counters.trigger, d.triggers, d.triggerOf, rfl⟩

theorem addTriggerOf_frame (d : Draft) (c : Container) (tag : Entity) :
    TriggersOnly d (d.addTriggerOf c tag) := by
  unfold addTriggerOf
  dsimp only
  split
  · exact ⟨d.counters.trigger, d.triggers, d.triggerOf, rfl⟩
  · exact ⟨_, _, _, rfl⟩

theorem addTriggers_frame (d : Draft) (s : Selection) (c : Container) :
    TriggersOnly d (d.addTriggers s c) := by
  refine List.foldlRecOn _ _ (addAllEventsTrigger_frame d s) ?_
  rintro _ ⟨last, triggers, triggerOf, rfl⟩ tag _
  obtain ⟨_, _, _, same⟩ := addTriggerOf_frame _ c tag
  exact ⟨_, _, _, same⟩

theorem TagsOnly.triggerFor?_eq {d e : Draft} (same : TagsOnly d e) (event : String) :
    e.triggerFor? event = d.triggerFor? event := by
  obtain ⟨_, _, _, _, _, rfl⟩ := same
  rfl

theorem addGa4Tag_frame (d : Draft) (s : Selection) (trigger : Nat) :
    TagsOnly d (d.addGa4Tag s trigger) := by
  unfold addGa4Tag
  split
  · exact ⟨_, _, _, _, _, rfl⟩
  · exact ⟨d.counters.tag, d.tags, d.migrated, d.tagGaps, d.warnings, rfl⟩

theorem addLinkerTag_frame (d : Draft) (s : Selection) (trigger : Nat) :
    TagsOnly d (d.addLinkerTag s trigger) := by
  unfold addLinkerTag
  split
  · exact ⟨_, _, _, _, _, rfl⟩
  · exact ⟨d.counters.tag, d.tags, d.migrated, d.tagGaps, d.warnings, rfl⟩

theorem addBaseTags_frame (d : Draft) (s : Selection) : TagsOnly d (d.addBaseTags s) := by
  unfold addBaseTags
  split
  · exact ⟨d.counters.tag, d.tags, d.migrated, d.tagGaps, d.warnings, rfl⟩
  · rename_i trigger _
    obtain ⟨_, _, _, _, _, ga4⟩ := addGa4Tag_frame d s trigger
    obtain ⟨_, _, _, _, _, linker⟩ := addLinkerTag_frame (d.addGa4Tag s trigger) s trigger
    rw [linker, ga4]
    exact ⟨_, _, _, _, _, rfl⟩

theorem addTagOf_frame (d : Draft) (c : Container) (catalog : Catalog) (tag : Entity) :
    TagsOnly d (d.addTagOf c catalog tag) := by
  unfold addTagOf
  split
  · exact ⟨d.counters.tag, d.tags, d.migrated, d.tagGaps, d.warnings, rfl⟩
  · dsimp only
    split
    · exact ⟨_, _, _, _, _, rfl⟩
    · exact ⟨_, _, _, _, _, rfl⟩

theorem addTags_frame (d : Draft) (s : Selection) (c : Container) (catalog : Catalog) :
    TagsOnly d (d.addTags s c catalog) := by
  refine List.foldlRecOn _ _ (addBaseTags_frame d s) ?_
  rintro _ ⟨last, tags, migrated, tagGaps, warnings, rfl⟩ tag _
  obtain ⟨_, _, _, _, _, same⟩ := addTagOf_frame _ c catalog tag
  exact ⟨_, _, _, _, _, same⟩

end TagAudit.Server.Draft

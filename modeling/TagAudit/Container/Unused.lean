import TagAudit.Container.Reference

namespace TagAudit

/-- The identifiers of the triggers that fire a tag. -/
def Entity.firingIds (tag : Entity) : List String :=
  (tag.get "firingTriggerId").items.map Json.text

/-- The type codes under which entities use a custom template. -/
def Entity.templateTypes (template : Entity) : List String :=
  let own := "cvt_" ++ template.idOrEmpty "containerId" ++ "_" ++ template.idOrEmpty "templateId"
  let gallery := ((template.get "galleryReference").field "galleryTemplateId")
  distinct (own :: if gallery.holds then ["cvt_" ++ gallery.text] else [])

namespace Container

/-- Whether an identifier names a trigger of the container, or the one that fires on all pages. -/
def isTriggerId (c : Container) (id : String) : Bool :=
  id == allPagesId || (c.triggerById id).isSome

theorem isTriggerId_iff {c : Container} {id : String} : c.isTriggerId id = true ↔
    id = allPagesId ∨ ∃ t ∈ c.triggers, (t.get "triggerId").isNull = false ∧ t.id "triggerId" = id := by
  simp [isTriggerId, triggerById, findById, List.find?_isSome]

/-- Tags that no existing trigger fires. -/
def unusedTags (c : Container) : List Entity :=
  c.tags.filter fun t => !t.firingIds.any c.isTriggerId

def unusedTriggers (c : Container) : List Entity :=
  let used := c.triggerUses.map (·.1)
  c.triggers.filter fun t =>
    let id := t.idOrEmpty "triggerId"
    !(id == allPagesId || (t.get "builtIn").holds || t.isBuiltIn || used.contains id)

def unusedVariables (c : Container) : List Entity :=
  let used := (c.references.filter fun r => !r.isSelf).map (·.target)
  c.userVariables.filter fun v => !v.isBuiltIn && !used.contains v.name

/-- Folders that hold no tag, trigger, variable or client. -/
def unusedFolders (c : Container) : List Entity :=
  let parents := (c.tags ++ c.triggers ++ c.userVariables ++ c.clients).map (·.get "parentFolderId")
  let used := (parents.filter fun p => !p.isNull).map Json.text
  c.folders.filter fun f => !used.contains (f.id "folderId")

/-- Templates whose type codes no entity has and whose identifier no tag carries. -/
def unusedTemplates (c : Container) : List Entity :=
  let types := (c.tags ++ c.userVariables ++ c.clients).filterMap (·.type.text?)
  let ids := ((c.tags.map (·.get "templateId")).filter fun i => !i.isNull).map Json.text
  c.templates.filter fun t =>
    !t.templateTypes.any types.contains && !ids.contains (t.id "templateId")

/-- The unused entities by kind. -/
def unused (c : Container) : List (String × List Entity) :=
  [("tags", c.unusedTags), ("triggers", c.unusedTriggers), ("variables", c.unusedVariables),
    ("folders", c.unusedFolders), ("templates", c.unusedTemplates)]

end Container

end TagAudit

import TagAudit.Container.Duplicate
import TagAudit.Container.Graph
import TagAudit.Container.Unused

namespace TagAudit

namespace Container

/-- The arrays of a container version that hold entities. -/
def entityKeys : List String :=
  ["tag", "trigger", "variable", "folder", "customTemplate", "client", "zone", "builtInVariable"]

/-- Two containers that look at the same entities, and agree on everything in their documents that is no entity. Only
for tags it matters whether the paused ones are looked at. -/
structure Alike (c d : Container) : Prop where
  tags : d.tags = c.tags
  entities : ∀ key ∈ entityKeys, key ≠ "tag" → d.entities key = c.entities key
  version : ∀ key ∉ entityKeys, Json.lookup d.version key = Json.lookup c.version key
  document : ∀ key, key ≠ "containerVersion" → Json.lookup d.document key = Json.lookup c.document key

namespace Alike

variable {c d : Container} (alike : Alike c d)
include alike

theorem triggers : d.triggers = c.triggers := alike.entities _ (by decide) (by decide)

theorem userVariables : d.userVariables = c.userVariables := alike.entities _ (by decide) (by decide)

theorem folders : d.folders = c.folders := alike.entities _ (by decide) (by decide)

theorem templates : d.templates = c.templates := alike.entities _ (by decide) (by decide)

theorem clients : d.clients = c.clients := alike.entities _ (by decide) (by decide)

theorem zones : d.zones = c.zones := alike.entities _ (by decide) (by decide)

theorem builtInVariables : d.builtInVariables = c.builtInVariables := alike.entities _ (by decide) (by decide)

theorem get {key : String} (other : key ∉ entityKeys) : d.get key = c.get key := by
  rw [Container.get, alike.version key other, Container.get]

theorem entitiesOf (kind : Comparable) : d.entitiesOf kind = c.entitiesOf kind := by
  cases kind with
  | tags => exact alike.tags
  | triggers => exact alike.triggers
  | userVariables => exact alike.userVariables

theorem versionField {key : String} (other : key ∉ entityKeys) (default : Json) :
    (Entity.mk d.version).getOr key default = (Entity.mk c.version).getOr key default := by
  rw [Entity.getOr, Entity.get?, alike.version key other, Entity.getOr, Entity.get?]

theorem info : d.info = c.info := by
  have container : d.get "container" = c.get "container" := alike.get (by decide)
  have containerId : (Entity.mk d.version).getOr "containerId" "" = (Entity.mk c.version).getOr "containerId" "" :=
    alike.versionField (by decide) ""
  have accountId : (Entity.mk d.version).getOr "accountId" "" = (Entity.mk c.version).getOr "accountId" "" :=
    alike.versionField (by decide) ""
  have versionId : (Entity.mk d.version).getOr "containerVersionId" "" =
      (Entity.mk c.version).getOr "containerVersionId" "" := alike.versionField (by decide) ""
  have exportTime := alike.document "exportTime" (by decide)
  simp only [Container.info, container, containerId, accountId, versionId, exportTime, alike.tags, alike.triggers,
    alike.userVariables, alike.folders, alike.templates, alike.clients, alike.builtInVariables]

theorem tagById (id : String) : d.tagById id = c.tagById id := by
  rw [Container.tagById, alike.tags, Container.tagById]

theorem triggerById (id : String) : d.triggerById id = c.triggerById id := by
  rw [Container.triggerById, alike.triggers, Container.triggerById]

theorem folderById (id : String) : d.folderById id = c.folderById id := by
  rw [Container.folderById, alike.folders, Container.folderById]

theorem variableByName : d.variableByName = c.variableByName := by
  funext name
  rw [Container.variableByName, alike.userVariables, Container.variableByName]

theorem references : d.references = c.references := by
  rw [Container.references, alike.tags, alike.triggers, alike.userVariables, alike.clients, Container.references]

theorem referenceGraph : d.referenceGraph = c.referenceGraph := by
  rw [Container.referenceGraph, alike.userVariables, alike.references, Container.referenceGraph]

theorem variableUsage : d.variableUsage = c.variableUsage := by
  rw [Container.variableUsage, alike.references, Container.variableUsage]

theorem triggerUses : d.triggerUses = c.triggerUses := by
  rw [Container.triggerUses, alike.tags, alike.triggers, Container.triggerUses]

theorem triggerUsage : d.triggerUsage = c.triggerUsage := by
  rw [Container.triggerUsage, alike.triggerUses, Container.triggerUsage]

theorem duplicates (kind : Comparable) : d.duplicates kind = c.duplicates kind := by
  rw [Container.duplicates, alike.entitiesOf, Container.duplicates]

theorem unusedTags : d.unusedTags = c.unusedTags := by
  have known : d.isTriggerId = c.isTriggerId := by
    funext id
    rw [Container.isTriggerId, alike.triggerById, Container.isTriggerId]
  rw [Container.unusedTags, alike.tags, known, Container.unusedTags]

theorem unusedTriggers : d.unusedTriggers = c.unusedTriggers := by
  rw [Container.unusedTriggers, alike.triggerUses, alike.triggers, Container.unusedTriggers]

theorem unusedVariables : d.unusedVariables = c.unusedVariables := by
  rw [Container.unusedVariables, alike.references, alike.userVariables, Container.unusedVariables]

theorem unusedFolders : d.unusedFolders = c.unusedFolders := by
  rw [Container.unusedFolders, alike.tags, alike.triggers, alike.userVariables, alike.clients, alike.folders,
    Container.unusedFolders]

theorem unusedTemplates : d.unusedTemplates = c.unusedTemplates := by
  rw [Container.unusedTemplates, alike.tags, alike.userVariables, alike.clients, alike.templates,
    Container.unusedTemplates]

theorem unused : d.unused = c.unused := by
  rw [Container.unused, alike.unusedTags, alike.unusedTriggers, alike.unusedVariables, alike.unusedFolders,
    alike.unusedTemplates, Container.unused]

theorem knownReferences : d.knownReferences = c.knownReferences := by
  rw [Container.knownReferences, alike.referenceGraph, Container.variableNames, alike.userVariables,
    Container.knownReferences, Container.variableNames]

theorem circularReferences : d.circularReferences = c.circularReferences := by
  rw [Container.circularReferences, alike.knownReferences, Container.variableNames, alike.userVariables,
    Container.circularReferences, Container.variableNames]

theorem referenceDepth : d.referenceDepth = c.referenceDepth := by
  rw [Container.referenceDepth, alike.knownReferences, Container.variableNames, alike.userVariables,
    Container.referenceDepth, Container.variableNames]

end Alike

end Container

end TagAudit

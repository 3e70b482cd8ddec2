import TagAudit.Container.Duplicate
import TagAudit.Container.Unused

namespace TagAudit

/-- Why an entity is removed. -/
inductive Reason where
  | unused
  | duplicate
  deriving DecidableEq

def Reason.label : Reason → String
  | .unused => "Unused"
  | .duplicate => "Duplicate"

/-- The removal of an entity. -/
structure Change where
  kind : Comparable
  name : Json
  reason : Reason

def Change.toJson (c : Change) : Json :=
  .obj [("type", "delete"), ("entityType", c.kind.key), ("entityName", c.name),
    ("reason", c.reason.label)]

/-- How many entities of each kind were removed; none are modified or created. -/
def changesSummary (changes : List Change) : Json :=
  .obj [("total", changes.length),
    ("byType", .obj (Comparable.all.map fun k =>
      (k.key, .obj [("delete", (changes.filter fun c => c.kind == k).length),
        ("modify", .int 0), ("create", .int 0)])))]

/-- The identifier of an entity among others of its kind. -/
def Entity.idOf (kind : Comparable) (e : Entity) : String := e.id kind.idField

/-- A container version from which entities are removed, and the log of it. -/
structure Cleanup where
  version : List (String × Json)
  changes : List Change

namespace Cleanup

def items (c : Cleanup) (kind : Comparable) : List Json :=
  ((Json.lookup c.version kind.key).getD .null).items

def entities (c : Cleanup) (kind : Comparable) : List Entity := (c.items kind).filterMap Entity.ofJson?

/-- Whether an entry of an array is an entity with one of the identifiers. -/
def isNamed (kind : Comparable) (ids : List String) (item : Json) : Bool :=
  (Entity.ofJson? item).any fun e => ids.contains (e.idOf kind)

/-- Removes the entities with these identifiers and logs each. An array of the version that is no
list becomes empty. -/
def remove (c : Cleanup) (kind : Comparable) (ids : List String) (reason : Reason) : Cleanup :=
  let removed := (c.entities kind).filter fun e => ids.contains (e.idOf kind)
  let kept := (c.items kind).filter fun item => !isNamed kind ids item
  { version := if (Json.lookup c.version kind.key).isSome then
      Json.assign c.version kind.key (.arr kept) else c.version
    changes := c.changes ++ removed.map fun e => ⟨kind, e.rawName, reason⟩ }

/-- The unused entities of a kind. -/
def unusedOf (container : Container) : Comparable → List Entity
  | .tags => container.unusedTags
  | .triggers => container.unusedTriggers
  | .userVariables => container.unusedVariables

def removeUnused (c : Cleanup) (container : Container) : Cleanup :=
  Comparable.all.foldl (fun c kind =>
    c.remove kind ((unusedOf container kind).map (Entity.idOf kind)) .unused) c

/-- A kept entity and a duplicate of it. -/
structure Pair where
  keep : Entity
  duplicate : Entity

/-- The first of a group is kept. -/
def pairsOf : List Entity → List Pair
  | [] => []
  | keep :: duplicates => duplicates.map fun d => ⟨keep, d⟩

/-- The duplicates of a kind, among those entities of a container that are still there. -/
def pairs (c : Cleanup) (container : Container) (kind : Comparable) : List Pair :=
  let present := (c.entities kind).map (Entity.idOf kind)
  (container.duplicates kind).flatMap fun (_, group) =>
    pairsOf (group.filter fun e => present.contains (e.idOf kind))

def removeDuplicates (c : Cleanup) (container : Container) (kind : Comparable) : Cleanup :=
  c.remove kind ((c.pairs container kind).map fun p => p.duplicate.idOf kind) .duplicate

end Cleanup

end TagAudit

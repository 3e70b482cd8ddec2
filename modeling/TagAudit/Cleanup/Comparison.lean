import TagAudit.Container

namespace TagAudit

/-- How many entities a document holds. -/
structure Counts where
  tags : Nat
  triggers : Nat
  userVariables : Nat
  folders : Nat
  templates : Nat

namespace Counts

/-- The objects of an array that are not marked `liveOnly`. -/
def live (version : List (String × Json)) (key : String) : Nat :=
  (((((Json.lookup version key).getD .null).items.filterMap Entity.ofJson?).filter fun e =>
    !(e.get "liveOnly").holds)).length

def size (version : List (String × Json)) (key : String) : Nat :=
  ((Json.lookup version key).getD .null).items.length

def ofVersion (version : List (String × Json)) : Counts :=
  ⟨live version "tag", live version "trigger", live version "variable", size version "folder",
    size version "customTemplate"⟩

/-- The counts of a document. One without a version holds nothing. -/
def ofDocument (document : Json) : Except Fault Counts :=
  match document with
  | .obj fields =>
    match Json.lookup fields "containerVersion" with
    | some (.obj version) => .ok (ofVersion version)
    | some _ => .error .notObject
    | none => .ok (ofVersion [])
  | _ => .ok (ofVersion [])

def toJson (c : Counts) : Json :=
  .obj [("tags", c.tags), ("triggers", c.triggers), ("variables", c.userVariables),
    ("folders", c.folders), ("templates", c.templates)]

end Counts

/-- The counts before and after a change, and how much smaller they have become. -/
structure Comparison where
  before : Counts
  after : Counts

def Comparison.reductions (c : Comparison) : List (String × Int) :=
  [("tags", c.before.tags - c.after.tags), ("triggers", c.before.triggers - c.after.triggers),
    ("variables", c.before.userVariables - c.after.userVariables)]

def Comparison.toJson (c : Comparison) : Json :=
  .obj [("original", c.before.toJson), ("optimized", c.after.toJson),
    ("reductions", .obj (c.reductions.map fun (k, n) => (k, .int n)))]

def Container.compare (c : Container) (optimized : Json) : Except Fault Comparison :=
  (Counts.ofDocument optimized).map fun after => ⟨Counts.ofVersion c.version, after⟩

end TagAudit

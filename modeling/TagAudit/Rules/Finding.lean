import TagAudit.Entity

namespace TagAudit

/-- A defect of a container. -/
structure Issue where
  check : String
  /-- The kind of entity that it is about. -/
  kind : String
  entityId : String
  entityName : String
  severity : String
  category : String
  title : String
  message : String
  action : String
  /-- Further fields, which take precedence over the fields of the same name. -/
  extra : List (String × Json)

namespace Issue

def idField? : String → Option String
  | "tag" => some "tagId"
  | "trigger" => some "triggerId"
  | "variable" => some "variableId"
  | "folder" => some "folderId"
  | "template" => some "templateId"
  | _ => none

/-- The identifier of an entity of a kind; empty where there is none. -/
def identify (kind : String) (e : Entity) : String :=
  match idField? kind with
  | none => ""
  | some key => if (e.get key).isNull then "" else e.id key

/-- An issue about an entity; one without fields stands for no entity. -/
def about (check kind : String) (e : Entity) (severity category title message action : String)
    (extra : List (String × Json)) : Issue :=
  ⟨check, kind, identify kind e, e.name, severity, category, title, message, action, extra⟩

/-- What an issue's identifier is made from. -/
def content (i : Issue) : Entity :=
  ⟨[("type", i.check), ("name", i.entityName), ("fingerprint", i.entityId)]⟩

def id (i : Issue) : String := i.content.uniqueId

def fixable (i : Issue) : Bool := ["delete", "deduplicate"].contains i.action

def toJson (i : Issue) : Json :=
  .obj (Json.assignAll [("id", i.id), ("check", i.check), ("type", i.kind),
    ("entityId", i.entityId), ("entityName", i.entityName), ("severity", i.severity),
    ("category", i.category), ("title", i.title), ("message", i.message), ("action", i.action),
    ("fixable", i.fixable)] i.extra)

end Issue

/-- A proposal to improve a container. -/
structure Suggestion where
  check : String
  impact : String
  category : String
  title : String
  message : String
  entities : List String

namespace Suggestion

def content (s : Suggestion) : Entity := ⟨[("type", s.check), ("name", s.title)]⟩

def id (s : Suggestion) : String := s.content.uniqueId

def toJson (s : Suggestion) : Json :=
  .obj [("id", s.id), ("check", s.check), ("type", "suggestion"), ("category", s.category),
    ("impact", s.impact), ("title", s.title), ("message", s.message),
    ("entities", Json.texts s.entities)]

end Suggestion

/-- What checks have found, in order. -/
structure Findings where
  issues : List Issue
  suggestions : List Suggestion

namespace Findings

def none : Findings := ⟨[], []⟩

instance : Append Findings := ⟨fun a b => ⟨a.issues ++ b.issues, a.suggestions ++ b.suggestions⟩⟩

def ofIssues (issues : List Issue) : Findings := ⟨issues, []⟩

def ofSuggestions (suggestions : List Suggestion) : Findings := ⟨[], suggestions⟩

theorem append_eq (f g : Findings) :
    f ++ g = ⟨f.issues ++ g.issues, f.suggestions ++ g.suggestions⟩ := rfl

theorem append_none (f : Findings) : f ++ none = f := by
  simp only [append_eq, none, List.append_nil]

theorem append_assoc (f g h : Findings) : f ++ g ++ h = f ++ (g ++ h) := by
  simp only [append_eq, List.append_assoc]

end Findings

end TagAudit

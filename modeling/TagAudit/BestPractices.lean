import TagAudit.Entity
import TagAudit.Grouping
import TagAudit.Text.Letter

namespace TagAudit

/-- How much a finding on a workspace weighs. -/
inductive Grievance where
  | error
  | warning
  | info
  deriving DecidableEq

namespace Grievance

def label : Grievance → String
  | error => "error"
  | warning => "warning"
  | info => "info"

/-- The points that a finding costs. -/
def cost : Grievance → Nat
  | error => 15
  | warning => 5
  | info => 2

end Grievance

/-- A finding on a workspace, about one entity or about the whole. -/
structure PracticeIssue where
  severity : Grievance
  type : String
  message : String
  recommendation : String
  /-- The identifier, name and kind of the entity. -/
  entity : Option (String × String × String)

def PracticeIssue.toJson (i : PracticeIssue) : Json :=
  .obj ([("severity", .str i.severity.label), ("type", .str i.type), ("message", .str i.message),
    ("recommendation", .str i.recommendation)] ++
    match i.entity with
    | some (id, name, kind) =>
      [("entityId", .str id), ("entityName", .str name), ("entityType", .str kind)]
    | none => [])

/-- The grading of the tags, triggers, variables and folders of a workspace. -/
structure BestPractices where
  issues : List PracticeIssue
  recommendations : List String
  tags : Nat
  paused : Nat
  withoutTriggers : Nat
  triggers : Nat
  userVariables : Nat
  folders : Nat

namespace BestPractices

def countOf (b : BestPractices) (g : Grievance) : Nat :=
  (b.issues.filter fun i => i.severity == g).length

/-- 100 points less the costs of all findings, at least 0. -/
def score (b : BestPractices) : Nat := 100 - sumOf (b.issues.map (·.severity.cost))

def isWithoutTriggers (tag : Entity) : Bool := (tag.get "firingTriggerId").items.isEmpty

def isPaused (tag : Entity) : Bool := (tag.get "paused").holds

def aboutTag (tag : Entity) (severity : Grievance) (type message recommendation : String) :
    PracticeIssue :=
  ⟨severity, type, "Tag \"" ++ tag.name ++ message, recommendation,
    some (tag.idOrEmpty "tagId", tag.name, "tag")⟩

def tagIssues (tag : Entity) : List PracticeIssue :=
  (if isWithoutTriggers tag then
    [aboutTag tag .warning "tag_without_trigger" "\" has no firing triggers"
      "Add a firing trigger or delete the tag if unused"] else []) ++
  (if isPaused tag then
    [aboutTag tag .info "paused_tag" "\" is paused"
      "Unpause if needed or delete if no longer required"] else []) ++
  (if (tag.name.toList.head?.map Text.isLowercase).getD false then
    [aboutTag tag .info "naming_convention" "\" may not follow naming conventions"
      "Consider consistent names like \"GA4 - Event Name\" or \"Google Ads - Conversion\""]
    else [])

def variableIssues (v : Entity) : List PracticeIssue :=
  if Text.containsAny v.name ["\x7b\x7b", "\x7d\x7d"] then
    [⟨.warning, "variable_naming",
      "Variable \"" ++ v.name ++ "\" contains \x7b\x7b \x7d\x7d in its name",
      "Use \x7b\x7b \x7d\x7d only when referencing a variable, not in its name",
      some (v.idOrEmpty "variableId", v.name, "variable")⟩]
  else []

/-- The names that occur again, in the order of their second occurrences. -/
def repeatedFrom (seen : List String) : List String → List String
  | [] => []
  | name :: rest =>
    if seen.contains name then name :: repeatedFrom seen rest
    else repeatedFrom (name :: seen) rest

def repeatedNames (entities : List Entity) : List String :=
  distinct (repeatedFrom [] (entities.filterMap fun e => (e.get "name").text?))

def repeatedIssue (entities : List Entity) (kind : String) : List PracticeIssue :=
  let names := repeatedNames entities
  if names.isEmpty then []
  else
    [⟨.warning, "duplicate_" ++ kind ++ "_names",
      "Duplicate " ++ kind ++ " names found: " ++ ", ".intercalate names,
      "Rename " ++ kind ++ "s to have unique names", none⟩]

/-- The objects of a list; other values count as empty. -/
def objects (value : Json) : List Entity := value.items.filterMap Entity.ofJson?

def ofEntities (tags triggers userVariables folders : List Entity) : BestPractices :=
  let hasGa4 := tags.any (·.type.isOneOf ["gaawe", "gawc", "googtag"])
  let hasUa := tags.any (·.type.isStr "ua")
  let withoutTriggers := tags.filter isWithoutTriggers
  let lacksAnalytics := !hasGa4 && !hasUa
  let lacksFolders := folders.isEmpty && 10 < tags.length
  let issues := tags.flatMap tagIssues ++ repeatedIssue triggers "trigger" ++
    repeatedIssue tags "tag" ++ userVariables.flatMap variableIssues ++
    (if lacksAnalytics then
      [⟨.info, "missing_analytics", "No analytics configuration found",
        "Consider adding GA4 tracking for analytics insights", none⟩] else []) ++
    (if hasUa then
      [⟨.warning, "deprecated_ua", "Universal Analytics tags found (deprecated)",
        "Migrate to GA4, Universal Analytics no longer processes data", none⟩] else []) ++
    (if lacksFolders then
      [⟨.info, "folder_organization", "No folders found with many tags",
        "Organize tags, triggers and variables into folders", none⟩] else [])
  let recommendations :=
    (if lacksAnalytics then ["Add a GA4 configuration tag for analytics tracking"] else []) ++
    (if hasUa then ["Migrate Universal Analytics tags to GA4"] else []) ++
    (if lacksFolders then ["Create folders to organize tags and triggers"] else []) ++
    (if issues.isEmpty then ["Workspace follows best practices!"]
      else
        (if withoutTriggers.isEmpty then [] else ["Clean up tags without triggers"]) ++
        (if issues.any (·.severity == .warning) then
          ["Address warnings to improve workspace quality"] else [])) ++
    (if 50 < tags.length then
      ["Consider auditing tags, large numbers of tags can impact performance"] else [])
  { issues, recommendations, tags := tags.length, paused := (tags.filter isPaused).length
    withoutTriggers := withoutTriggers.length, triggers := triggers.length
    userVariables := userVariables.length, folders := folders.length }

def toJson (b : BestPractices) : Json :=
  .obj [("score", b.score), ("issues", .arr (b.issues.map PracticeIssue.toJson)),
    ("recommendations", Json.texts b.recommendations),
    ("summary", .obj [("totalIssues", b.issues.length), ("errors", b.countOf .error),
      ("warnings", b.countOf .warning), ("info", b.countOf .info)]),
    ("stats", .obj [
      ("tags", .obj [("total", b.tags), ("paused", b.paused),
        ("withoutTriggers", b.withoutTriggers)]),
      ("triggers", .obj [("total", b.triggers)]), ("variables", .obj [("total", b.userVariables)]),
      ("folders", .obj [("total", b.folders)])])]

/-- The lines about the issues of a severity. -/
def severityLines (issues : List Json) (severity heading : String) : Except Fault (List String) := do
  let found ← issues.filterM fun i => do return (← i.need "severity").isStr severity
  if found.isEmpty then return []
  let lines ← found.mapM fun i => do
    return ["  - " ++ (← i.need "message").text, "    -> " ++ (← i.need "recommendation").text]
  return (heading ++ ":") :: lines.flatten ++ [""]

def line (label : String) (value : Json) : String := label ++ value.text

/-- The text of a grading in the form that `toJson` gives it. -/
def render (result : Json) : Except Fault String := do
  let score ← result.need "score"
  let summary ← result.need "summary"
  let total ← summary.need "totalIssues"
  let errors ← summary.need "errors"
  let warnings ← summary.need "warnings"
  let info ← summary.need "info"
  let stats ← result.need "stats"
  let tags ← (← stats.need "tags").need "total"
  let paused ← (← stats.need "tags").need "paused"
  let withoutTriggers ← (← stats.need "tags").need "withoutTriggers"
  let triggers ← (← stats.need "triggers").need "total"
  let userVariables ← (← stats.need "variables").need "total"
  let folders ← (← stats.need "folders").need "total"
  let issues ← (← result.need "issues").elements
  let errorLines ← severityLines issues "error" "Errors"
  let warningLines ← severityLines issues "warning" "Warnings"
  let infoLines ← severityLines issues "info" "Info"
  let recommendations ← result.need "recommendations"
  let advice ←
    if recommendations.holds then do
      let items ← recommendations.elements
      pure ("Recommendations:" :: items.map fun r => "  - " ++ r.text)
    else pure []
  return "\n".intercalate (
    ["BEST PRACTICES SCORE: " ++ score.text ++ "/100", String.ofList (List.replicate 80 '='), "",
      "Summary:", line "  Total issues: " total, line "  Errors: " errors,
      line "  Warnings: " warnings, line "  Info: " info, "",
      "Stats:", "  Tags: " ++ tags.text ++ " (" ++ paused.text ++ " paused, " ++
        withoutTriggers.text ++ " without triggers)",
      line "  Triggers: " triggers, line "  Variables: " userVariables, line "  Folders: " folders,
      ""] ++ errorLines ++ warningLines ++ infoLines ++ advice)

end BestPractices

end TagAudit

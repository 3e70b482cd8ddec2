import TagAudit.Report
import TagAudit.Text.CaseMap

namespace TagAudit.Report

/-- A line across the output. -/
def bar (c : Char) : String := String.ofList (List.replicate 80 c)

def countOf (i : Container.Info) (kind : String) : String :=
  Numeral.ofInt ((i.counts.lookup kind).getD 0)

def containerLines (i : Container.Info) : List String :=
  ["Container: " ++ i.name.text ++ " (" ++ (i.publicId.orElse "no public id").text ++ ")",
    "Tags: " ++ countOf i "tags" ++ " | Triggers: " ++ countOf i "triggers" ++ " | Variables: " ++
      countOf i "variables" ++ " | Folders: " ++ countOf i "folders" ++ " | Templates: " ++
      countOf i "templates", ""]

/-- The parts of the overall score, by their names. -/
def partialScores (s : Scores) : List (String × Int) :=
  [("cleanup", s.cleanup), ("performance", s.performance), ("structure", s.structural),
    ("security", s.security), ("privacy", s.privacy), ("ssgReadiness", s.readiness)]

def scoreLines (s : Scores) : List String :=
  ["OVERALL SCORE: " ++ Numeral.ofInt s.overall ++ "/100 (Grade " ++ Score.grade (.int s.overall) ++
      ")", bar '-'] ++
    (partialScores s).map (fun (name, score) =>
      "  " ++ Text.alignLeft 15 name ++ " " ++ Text.alignRight 3 (Numeral.ofInt score)) ++ [""]

def icon : (severity : String) → String
  | "critical" => "🔴"
  | "high" => "🟠"
  | "medium" => "🟡"
  | "low" => "🔵"
  | _ => "•"

def issueLines (i : Issue) : List String :=
  [icon i.severity ++ " " ++ Text.alignLeft 8 (Text.upper i.severity) ++ " " ++
      Text.alignLeft 14 i.category ++ " " ++ i.title ++
      (if i.entityName.isEmpty then "" else " [" ++ i.entityName ++ "]"),
    "    " ++ i.message]

def suggestionLines (suggestions : List Suggestion) : List String :=
  if suggestions.isEmpty then []
  else
    ["SUGGESTIONS (" ++ Numeral.ofInt suggestions.length ++ ")", bar '-'] ++
      suggestions.map (fun s => "  - " ++ s.title ++ ": " ++ s.message) ++ [""]

def adviceLines (advice : List Recommendation) : List String :=
  if advice.isEmpty then []
  else
    ["RECOMMENDATIONS", bar '-'] ++ advice.flatMap (fun r =>
      ["  [" ++ Text.upper r.priority ++ "] " ++ r.title, "    " ++ r.description]) ++ [""]

/-- The text of a report, up to the grading of the best practices. -/
def lines (r : Report) : List String :=
  let found := r.rules.found
  containerLines r.container.info ++ scoreLines r.rules.scores ++
    ["ISSUES (" ++ Numeral.ofInt found.issues.length ++ ")", bar '-'] ++
    found.issues.flatMap issueLines ++ [""] ++ suggestionLines found.suggestions ++
    adviceLines r.recommendations

end TagAudit.Report

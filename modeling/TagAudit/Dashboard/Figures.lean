import TagAudit.Dashboard.Issues
import TagAudit.Text.CaseMap

namespace TagAudit

namespace Color

def success : String := "#2ca02c"
def warning : String := "#ff7f0e"
def danger : String := "#d62728"

/-- The color for a score. -/
def ofScore (score : Json) : Except Fault String :=
  match Number.ofJson? score with
  | some n =>
    .ok (if (Number.int 80).le n then success else if (Number.int 60).le n then warning else danger)
  | none => .error .notOrdered

def ofSeverity : String → String
  | "critical" => "#8b0000"
  | "high" => danger
  | "medium" => warning
  | _ => "#17a2b8"

end Color

/-- The data of the charts on a dashboard. -/
structure Figures where
  overall : Json
  overallTitle : String
  overallColor : String
  /-- Scores by the names of their dimensions. -/
  scores : List (String × Json)
  /-- The severities that occur, with their counts and colors. -/
  severities : List (String × Nat × String)
  /-- The categories that occur, with their counts. -/
  categories : List (Json × Nat)

namespace Figures

def dimensions : List (String × String) :=
  [("overall", "Overall"), ("cleanup", "Cleanup"), ("performance", "Performance"),
    ("structure", "Structure"), ("security", "Security"), ("privacy", "Privacy"),
    ("ssgReadiness", "SSG Readiness")]

/-- The dimensions of a report that have a number as score. -/
def scoresOf (report : Json) : Except Fault (List (String × Json)) := do
  let scores ← report.getFieldOr "scores" (.obj [])
  let rows ← dimensions.filterMapM fun (key, dimension) => do
    let score ← scores.getField key
    return if (Number.ofJson? score).isSome then some (dimension, score) else none
  return (rows.map (·.1)).zip (Column.unify (rows.map (·.2)))

def severitiesOf (rows : List IssueRow) : List (String × Nat × String) :=
  IssueRow.severities.filterMap fun s =>
    let n := (rows.filter fun r => (r.cell .severity).isStr s).length
    if n = 0 then none else some (Text.title s, n, Color.ofSeverity s)

/-- How often each category occurs; gaps do not count. -/
def categoriesOf (rows : List IssueRow) : List (Json × Nat) :=
  if rows.isEmpty then [("No issues", 1)]
  else
    let values := (rows.map (·.cell .category)).filter fun c => IssueRow.classOf c != 2
    (groupBy (fun s => s) (values.filterMap Json.scalar?)).map fun (c, uses) => (c.toJson, uses.length)

/-- The charts for a report whose issues have these rows. -/
def ofReport (report : Json) (rows : List IssueRow) (scores : List (String × Json)) :
    Except Fault Figures := do
  let own ← report.getFieldOr "scores" (.obj [])
  let overall ← own.getFieldOr "overall" (.int 0)
  return {
    overall
    overallTitle := "Container Health Score (Grade " ++ (← own.getFieldOr "grade" "-").text ++ ")"
    overallColor := ← Color.ofScore overall
    scores
    severities := severitiesOf rows
    categories := categoriesOf rows }

end Figures

end TagAudit

import TagAudit.Grouping
import TagAudit.Json.Display
import TagAudit.Json.Scalar
import TagAudit.Page.Element
import TagAudit.Text.CaseMap
import TagAudit.Text.Markup

namespace TagAudit

/-- A piece of advice on a dashboard. -/
structure Card where
  priority : String
  category : String
  title : Json
  impact : String
  action : Json
  items : Json
  /-- Whether a long list of items can be scrolled. -/
  scrolls : Bool

namespace Card

def toJson (c : Card) : Json :=
  .obj [("priority", c.priority), ("category", c.category), ("title", c.title), ("impact", c.impact),
    ("action", c.action), ("items", c.items), ("show_all", c.scrolls)]

def ofRecommendation (r : Json) : Except Fault Card := do
  let priority ← (← r.getFieldOr "priority" "low").needText
  let category ← (← r.getFieldOr "category" "").needText
  return {
    priority := Text.upper priority
    category := Text.title category
    title := ← r.getFieldOr "title" ""
    impact := "Estimated impact: " ++ (← r.getFieldOr "estimatedImpact" "").text
    action := ← r.getFieldOr "description" ""
    items := .arr []
    scrolls := true }

def ofRecommendations (report : Json) : Except Fault (List Card) := do
  (← (← report.getFieldOr "recommendations" (.arr [])).elements).mapM ofRecommendation

def count (n : Int) : String := Numeral.ofInt n

def unusedKinds : List String := ["tags", "triggers", "variables", "folders", "templates"]

/-- Advice to remove what is unused of a kind. -/
def ofUnusedKind (unused : Json) (kind : String) : Except Fault (Option Card) := do
  let names ← unused.getFieldOr kind (.arr [])
  if !names.holds then return none
  return some {
    priority := if kind == "tags" then "HIGH" else "MEDIUM"
    category := "Cleanup"
    title := "Remove " ++ count (← names.size) ++ " Unused " ++ Text.title kind
    impact := "Reduces container size and complexity"
    action := "The following " ++ kind ++ " are not used:"
    items := names
    scrolls := true }

def ofUnused (report : Json) : Except Fault (List Card) := do
  let unused ← report.getFieldOr "unused" (.obj [])
  unusedKinds.filterMapM (ofUnusedKind unused)

/-- The size of a group of duplicates, and the line about it. -/
def groupLine (kind : String) (group : Json) : Except Fault (Nat × String) := do
  let names ← group.need "names"
  let size ← names.size
  return (size, Text.title kind ++ ": " ++ (← Json.joinTexts ", " (← names.elements)))

/-- Advice to merge the groups of duplicates. -/
def ofDuplicates (report : Json) : Except Fault (List Card) := do
  let duplicates ← report.getFieldOr "duplicates" (.obj [])
  match duplicates with
  | .obj kinds => do
    let lines := (← kinds.mapM fun (kind, groups) => do
      (← groups.elements).mapM (groupLine kind)).flatten
    if lines.isEmpty then return []
    let spare : Int := sumOf (lines.map (·.1)) - lines.length
    return [{
      priority := "MEDIUM"
      category := "Consolidation"
      title := "Consolidate " ++ count spare ++ " Duplicates in " ++ count lines.length ++ " Groups"
      impact := "Keep the first element of each group and remove the rest"
      action := "Review and consolidate these duplicate groups:"
      items := Json.texts (lines.map (·.2))
      scrolls := true }]
  | _ => .error .notObject

def suggestionLine (s : Json) : Except Fault String := do
  return (← s.need "title").text ++ ": " ++ (← s.need "message").text

/-- The suggestions, of which only the first are shown. -/
def ofSuggestions (report : Json) : Except Fault (List Card) := do
  let suggestions ← report.getFieldOr "suggestions" (.arr [])
  if !suggestions.holds then return []
  let lines ← (← suggestions.elements).mapM suggestionLine
  let rest := if 20 < lines.length then
    ["... and " ++ count (lines.length - 20 : Nat) ++ " more suggestions"] else []
  return [{
    priority := "LOW"
    category := "Suggestions"
    title := count lines.length ++ " Optimization Suggestions"
    impact := "Optional improvements"
    action := ""
    items := Json.texts (lines.take 20 ++ rest)
    scrolls := false }]

/-- The advice for a report: what the scores call for, then what to clean up. -/
def ofReport (report : Json) : Except Fault (List Card) := do
  let recommendations ← ofRecommendations report
  let unused ← ofUnused report
  let duplicates ← ofDuplicates report
  return recommendations ++ unused ++ duplicates ++ (← ofSuggestions report)

open Page

def styleOf : String → String
  | "CRITICAL" | "HIGH" => "danger"
  | "MEDIUM" => "warning"
  | _ => "info"

def escaped (value : Json) : Except Fault String := value.needText.map Text.escapeMarkup

def itemList (items : List Json) : String :=
  around "ul" (classed "mb-0")
    (String.join (items.map fun i => around "li" [] (Text.escapeMarkup i.text)))

def scrollStyle : String :=
  "max-height: 300px; overflow-y: auto; border: 1px solid #ddd; padding: 10px; border-radius: 4px;"

def renderItems (items : List Json) (scrolls : Bool) : String :=
  if scrolls && 10 < items.length then
    around "div" (classed "recommendation-list" ++ [("style", scrollStyle)]) (itemList items)
  else if items.isEmpty then ""
  else itemList items

/-- The markup of a card, which may be a document of any form. -/
def render (card : Json) : Except Fault String := do
  let priority ← card.need "priority"
  let _ ← priority.scalar
  let items ← (← card.need "items").elements
  let list := renderItems items (← card.getFieldOr "show_all" false).holds
  let action ← card.getField "action"
  let action ← if action.holds then (escaped action).map (around "p" []) else pure ""
  let title ← escaped (← card.need "title")
  let impact ← escaped (← card.need "impact")
  let style := styleOf priority.textOrEmpty
  return inset 2 2 [wrap "div" (classed ("card mb-3 border-" ++ style)) [
    wrap "div" (classed "card-body") [
      inline "span" (classed ("badge badge-" ++ style ++ " float-right")) priority.text,
      inline "h5" (classed "card-title") title,
      inline "p" (classed "text-muted small") impact,
      .line action,
      .line list]]]

def renderAll (cards : Json) : Except Fault String := do
  return String.join (← (← cards.elements).mapM render)

end Card

end TagAudit

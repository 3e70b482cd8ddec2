import TagAudit.Dashboard.Cards
import TagAudit.Dashboard.Figures
import TagAudit.Json.Writer
import TagAudit.Moment

namespace TagAudit

/-- What a dashboard shows of a report of any form. -/
structure Dashboard where
  report : Json
  issues : List IssueRow
  figures : Figures
  /-- The markup of the advice. -/
  advice : String
  counts : Json
  info : Json
  practices : Json
  scores : Json

namespace Dashboard

def ofReport (report : Json) : Except Fault Dashboard := do
  let issues ← IssueRow.ofReport report
  let scores ← Figures.scoresOf report
  let cards ← Card.ofReport report
  let info ← report.getFieldOr "containerInfo" (.obj [])
  let counts ← info.getFieldOr "counts" (.obj [])
  let figures ← Figures.ofReport report issues scores
  let advice ← Card.renderAll (.arr (cards.map Card.toJson))
  let practices ← report.getFieldOr "bestPractices" (.obj [])
  let _ ← counts.getField "tags"
  let _ ← practices.getField "score"
  return { report, issues, figures, advice, counts, info, practices
           scores := ← report.getFieldOr "scores" (.obj []) }

open Page

/-- A field of an object, or something in place of an absent one. -/
def shown (value : Json) (key : String) (default : Json) : String :=
  (((value.fields?).bind (Json.lookup · key)).getD default).text

def containerName (d : Dashboard) : String := Text.escapeMarkup (shown d.info "name" "GTM Container")

/-- When the report was made; the time of the dashboard where it does not say. -/
def date (d : Dashboard) (now : Moment) : String :=
  ((d.report.field "generatedAt").orElse now.toMinutes).text

def cardShadow : String × String := ("box-shadow", "0 2px 4px rgba(0,0,0,0.1)")

/-- The frame of the boxes on the page. -/
def boxProperties : List (String × String) :=
  [("background", "white"), ("border-radius", "8px"), ("padding", "20px"), cardShadow]

def bottomMargin : String × String := ("margin-bottom", "20px")

def borderRule (style color : String) : Element :=
  lineRule (".card.border-" ++ style) [("border-left", "4px solid " ++ color)]

def columnRule (columns : String) : Element := rule ".card-columns" [("column-count", columns)]

def styles : Element :=
  wrap "style" [] [
    rule "body" [("background-color", "#f8f9fa"),
      ("font-family", "-apple-system, BlinkMacSystemFont, \"Segoe UI\", Roboto, sans-serif")],
    rule ".metric-card" (boxProperties ++ [("text-align", "center"), bottomMargin]),
    rule ".metric-card h3" [("font-size", "2.5rem"), ("margin", "10px 0"), ("font-weight", "300")],
    rule ".metric-card p" [("color", "#6c757d"), ("text-transform", "uppercase"),
      ("font-size", "0.875rem"), ("letter-spacing", "0.5px"), ("margin", "0")],
    rule ".card" [cardShadow, bottomMargin],
    borderRule "danger" "#dc3545", borderRule "warning" "#ffc107", borderRule "info" "#17a2b8",
    rule ".plotly-graph-div" (boxProperties ++ [bottomMargin]),
    lineRule ".badge" [("padding", "0.375rem 0.75rem")],
    lineRule "h1, h2" [("color", "#343a40")],
    rule ".table-container" (boxProperties ++ [bottomMargin, ("overflow-x", "auto")]),
    rule ".recommendation-list" [("font-size", "0.9rem")],
    columnRule "1", whenWide 768 [columnRule "2"], whenWide 1200 [columnRule "3"]]

def head (d : Dashboard) : Element :=
  wrap "head" [] [
    .line (startTag "meta" [("charset", "UTF-8")]),
    .line (startTag "meta" [("name", "viewport"),
      ("content", "width=device-width, initial-scale=1.0")]),
    inline "title" [] ("GTM Container Optimizer - " ++ d.containerName),
    .line (startTag "link" [
      ("href", "https://stackpath.bootstrapcdn.com/bootstrap/4.5.2/css/bootstrap.min.css"),
      ("rel", "stylesheet")]),
    inline "script" [("src", "https://cdn.plot.ly/plotly-latest.min.js")] "",
    styles]

def div (name : String) (inner : List Element) : Element := wrap "div" (classed name) inner

def comment (text : String) : Element := .line ("<!-- " ++ text ++ " -->")

/-- A number with its label. -/
def metric (label style value : String) : Element :=
  div "col-md-3" [div "metric-card" [
    inline "p" [] label, inline "h3" (classed ("text-" ++ style)) value]]

def metrics (d : Dashboard) : Element :=
  let sizes := ["tags", "triggers", "variables"].map fun kind => shown d.counts kind (.int 0)
  div "row mt-4" [
    metric "Tags / Triggers / Variables" "primary" (" / ".intercalate sizes),
    metric "Issues" "danger" (Numeral.ofInt d.issues.length),
    metric "Best Practices Score" "info" (shown d.practices "score" "-"),
    metric "SSG Readiness" "warning" (shown d.scores "ssgReadiness" "-")]

/-- The places of two charts beside each other. -/
def charts (left right : String) : Element :=
  div "row mt-4" (
    [left, right].map fun id => div "col-md-6" [inline "div" [("id", id)] ""])

def section_ (title : String) (inner : Element) : Element :=
  div "row mt-4" [div "col-12" [inline "h2" [] title, inner]]

def link (action text : String) : String := around "a" [("href", "#"), ("onclick", action)] text

def footer : Element :=
  div "row mt-5 mb-3" [div "col-12 text-center text-muted" [
    .line "<hr>",
    .line "<p>Generated by GTM Container Optimizer |",
    .line ("   " ++ link "window.print()" "Print Report" ++ " |"),
    .line ("   " ++ link "downloadData()" "Download JSON Data"),
    .line "</p>"]]

/-- The texts of the charts. -/
structure Charts where
  overall : String
  scores : String
  severities : String
  categories : String

def plotLine (id chart : String) : Element := .line ("Plotly.newPlot('" ++ id ++ "', " ++ chart ++ ");")

def script (d : Dashboard) (c : Charts) : Element :=
  wrap "script" [] [
    .line "// Render charts",
    plotLine "healthGauge" c.overall, plotLine "scoreChart" c.scores,
    plotLine "severityChart" c.severities, plotLine "categoryChart" c.categories, .blank,
    .line "// Download function",
    .block "function downloadData() \x7b" [
      .line ("const data = " ++ d.report.prettyAscii ++ ";"),
      .line "const blob = new Blob([JSON.stringify(data, null, 2)], \x7btype: 'application/json'\x7d);",
      .line "const url = URL.createObjectURL(blob);",
      .line "const a = document.createElement('a');",
      .line "a.href = url;",
      .line "a.download = 'gtm_analysis_data.json';",
      .line "document.body.appendChild(a);",
      .line "a.click();",
      .line "document.body.removeChild(a);",
      .line "URL.revokeObjectURL(url);"] "\x7d"]

def content (d : Dashboard) (now : Moment) : Element :=
  div "container-fluid mt-4" [
    inline "h1" (classed "text-center mb-4") ("GTM Container Optimizer: " ++ d.containerName),
    wrap "p" (classed "text-center text-muted") [
      .line (Text.escapeMarkup (shown d.info "publicId" "") ++ " |"),
      .line ("Analysis Date: " ++ d.date now)], .blank,
    comment "Summary Metrics", d.metrics, .blank,
    comment "Health Score", charts "healthGauge" "scoreChart", .blank,
    comment "Improvement Recommendations",
    section_ "Container Improvement Guide" (div "card-columns" [.line d.advice]), .blank,
    comment "Charts", charts "severityChart" "categoryChart", .blank,
    comment "Issues Table",
    section_ "Issues" (div "table-container" [.line (IssueRow.table d.issues 100)]), .blank,
    comment "Footer", footer]

/-- The page of a dashboard. -/
def page (d : Dashboard) (c : Charts) (now : Moment) : String :=
  inset 0 0 [.line "<!DOCTYPE html>", .line (startTag "html" [("lang", "en")]), d.head,
    wrap "body" [] [d.content now, .blank, d.script c], .line "</html>"]

/-- What is said when a page is written. `location` is its path from the root. -/
def announcement (path location : String) : List String :=
  ["✅ Static dashboard generated: " ++ path, "📂 File location: " ++ location,
    "🌐 Open in browser: file:///" ++ location]

end Dashboard

end TagAudit

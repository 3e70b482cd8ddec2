import TagAudit.Dependency.Drawing
import TagAudit.Moment
import TagAudit.Page.Element

namespace TagAudit.Drawing

open Page

def pageTitle : String := "GTM Variable Dependencies Network"

def styles : Element :=
  wrap "style" [] [
    rule "body" [("font-family", "Arial, sans-serif"), ("margin", "0"), ("padding", "20px"),
      ("background-color", "#f5f5f5")],
    rule ".container" [("max-width", "1500px"), ("margin", "0 auto"), ("background-color", "white"),
      ("padding", "20px"), ("border-radius", "10px"), ("box-shadow", "0 2px 10px rgba(0,0,0,0.1)")],
    rule "h1" [("color", "#333"), ("text-align", "center")],
    rule ".stats" [("margin", "20px 0"), ("padding", "15px"), ("background-color", "#f8f9fa"),
      ("border-radius", "5px")],
    rule ".stats-grid" [("display", "grid"),
      ("grid-template-columns", "repeat(auto-fit, minmax(200px, 1fr))"), ("gap", "15px")],
    rule ".stat-item" [("padding", "10px"), ("background-color", "white"), ("border-radius", "5px"),
      ("border", "1px solid #dee2e6")],
    rule ".stat-label" [("font-size", "12px"), ("color", "#6c757d"), ("text-transform", "uppercase"),
      ("margin-bottom", "5px")],
    rule ".stat-value" [("font-size", "24px"), ("font-weight", "bold"), ("color", "#333")],
    rule ".info" [("margin-top", "20px"), ("padding", "15px"), ("background-color", "#e9ecef"),
      ("border-radius", "5px"), ("font-size", "14px"), ("line-height", "1.6")]]

/-- A number with its label. -/
def statistic (label : String) (color : Option String) (count : Nat) : Element :=
  wrap "div" (classed "stat-item") [
    inline "div" (classed "stat-label" ++ (color.map fun c => ("style", "color: " ++ c ++ ";")).toList)
      label,
    inline "div" (classed "stat-value") (Numeral.ofInt count)]

def kindColor (kind : NodeKind) : String :=
  (Color.components.lookup kind.label).getD (Color.ofVariable "v")

def kindStatistics (d : Drawing) : String :=
  String.join (d.kindCounts.map fun (kind, count) =>
    inset 2 2 [statistic kind.title (some (kindColor kind)) count])

def statistics (d : Drawing) : Element :=
  wrap "div" (classed "stats") [
    inline "h3" [] "Network Statistics",
    wrap "div" (classed "stats-grid") [
      statistic "Total Nodes" none d.nodeCount,
      statistic "Total Connections" none d.edgeCount,
      statistic "Circular Reference Edges" (some Color.inCycle) d.cycleCount,
      .line d.kindStatistics]]

/-- An explanation of a term. -/
def explanation (term meaning : String) : Element :=
  inline "li" [] (around "strong" [] term ++ " = " ++ meaning)

def explanations : Element :=
  wrap "div" (classed "info") [
    inline "h3" [] "Understanding the Network",
    wrap "ul" [] [
      explanation "Nodes" "GTM components (variables, tags, triggers, clients)",
      explanation "Arrows"
        ("References (the source uses the target variable via " ++ Text.reference "Name" ++ ")"),
      explanation "Colors" "Variable type or component type (see legend on the right)",
      explanation "Red lines" "References that form a circular dependency"],
    inline "p" [] (around "strong" [] "Tip for Large Graphs:" ++
      " Zoom in to specific areas to see details. Labels only appear for graphs with less than " ++
      "50 nodes to maintain readability.")]

def head : Element :=
  wrap "head" [] [
    inline "title" [] pageTitle,
    inline "script" [("src", "https://cdn.plot.ly/plotly-2.27.0.min.js")] "",
    styles]

def body (d : Drawing) (plot : String) (now : Moment) : Element :=
  wrap "body" [] [
    wrap "div" (classed "container") [
      inline "h1" [] pageTitle, .blank,
      d.statistics, .blank,
      inline "div" [("id", "myDiv")] plot, .blank,
      explanations, .blank,
      wrap "div" (classed "info") [
        inline "p" [] (around "em" [] ("Generated: " ++ now.toSeconds))]]]

/-- The page around a drawing. -/
def page (d : Drawing) (plot : String) (now : Moment) : String :=
  inset 1 1 [.line "<!DOCTYPE html>", .line "<html>", head, d.body plot now, .line "</html>"]

/-- What is said when a page is written. `location` is its path from the root. -/
def announcement (d : Drawing) (path location : String) : List String :=
  ["✅ Network graph generated: " ++ path,
    "📊 Graph contains " ++ Numeral.ofInt d.nodeCount ++ " nodes and " ++ Numeral.ofInt d.edgeCount ++
      " connections (" ++ Numeral.ofInt d.cycleCount ++ " in cycles)",
    "📂 File location: " ++ location, "🌐 Open in browser: file:///" ++ location]

end TagAudit.Drawing

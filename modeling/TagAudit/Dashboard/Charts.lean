import TagAudit.Dashboard.Page

namespace TagAudit.Figures

def white (axis : String) : List (String × Json) := [(axis, "white")]

/-- The drawing of a chart: its data and its layout. -/
def chart (trace layout : List (String × Json)) : String :=
  (Json.obj [("data", .arr [.obj trace]), ("layout", .obj layout)]).compact

def titled (title : String) (layout : List (String × Json)) : List (String × Json) :=
  ("title", .obj [("text", title)]) :: layout ++ white "paper_bgcolor"

def interval (low high : Nat) : Json := .arr [low, high]

/-- The overall score on a scale with the limits of the grades. -/
def gauge (f : Figures) : String :=
  chart
    [("type", "indicator"), ("mode", "gauge+number"), ("value", f.overall),
      ("title", .obj [("text", f.overallTitle)]),
      ("domain", .obj [("x", interval 0 1), ("y", interval 0 1)]),
      ("gauge", .obj [
        ("axis", .obj [("range", .arr [.null, .int 100])]),
        ("bar", .obj [("color", f.overallColor)]),
        ("steps", .arr [
          .obj [("range", interval 0 60), ("color", "lightgray")],
          .obj [("range", interval 60 80), ("color", "gray")]]),
        ("threshold", .obj [("line", .obj [("color", "red"), ("width", .int 4)]),
          ("thickness", .float 0.75), ("value", .int 90)])])]
    (("height", .int 300) :: white "paper_bgcolor")

/-- The scores as bars, colored by their height. -/
def bars (f : Figures) : String :=
  let values : Json := .arr (f.scores.map (·.2))
  chart
    [("type", "bar"), ("x", Json.texts (f.scores.map (·.1))), ("y", values),
      ("marker", .obj [("color", values), ("coloraxis", "coloraxis")])]
    (titled "Scores by Dimension" ([("height", Json.int 400),
      ("xaxis", .obj [("title", .obj [("text", "Dimension")])]),
      ("yaxis", .obj [("title", .obj [("text", "Score")]), ("range", interval 0 100)]),
      ("coloraxis", .obj [("cmin", .int 0), ("cmax", .int 100),
        ("colorscale", .arr [.arr [.float 0.0, Color.danger], .arr [.float 0.5, Color.warning],
          .arr [.float 1.0, Color.success]])])] ++ white "plot_bgcolor"))

def severityRing (f : Figures) : String :=
  chart
    [("type", "pie"), ("hole", .float 0.3), ("labels", Json.texts (f.severities.map (·.1))),
      ("values", .arr (f.severities.map fun (_, n, _) => .int n)),
      ("marker", .obj [("colors", Json.texts (f.severities.map (·.2.2)))])]
    (titled "Issues by Severity" [])

def categoryPie (f : Figures) : String :=
  chart
    [("type", "pie"), ("labels", .arr (f.categories.map (·.1))),
      ("values", .arr (f.categories.map fun (_, n) => .int n))]
    (titled "Issues by Category" [])

/-- The charts of a dashboard. -/
def charts (f : Figures) : Dashboard.Charts := ⟨f.gauge, f.bars, f.severityRing, f.categoryPie⟩

end TagAudit.Figures

import TagAudit.Dependency.Page
import TagAudit.Json.Writer

namespace TagAudit

def Layout.scale : Layout → Nat
  | .spring _ _ scale _ => scale
  | .distances scale => scale

namespace Drawing

/-- The place of a node on a circle. -/
def place (d : Drawing) (i : Nat) : Float × Float :=
  let angle := 2.0 * 3.141592653589793 * i.toFloat / d.nodeCount.toFloat
  (d.layout.scale.toFloat * angle.cos, d.layout.scale.toFloat * angle.sin)

/-- The coordinates of some nodes; where there is none, a line ends. -/
def coordinates (d : Drawing) (nodes : List (Option Nat)) : List (String × Json) :=
  let along (axis : Float × Float → Float) : Json :=
    .arr (nodes.map fun i => (i.map fun i => Json.float (axis (d.place i))).getD .null)
  [("x", along (·.1)), ("y", along (·.2))]

def traceJson (d : Drawing) : Trace → Json
  | .lines edges width color name =>
    .obj ([("type", Json.str "scatter"), ("mode", .str "lines"), ("hoverinfo", .str "none"),
      ("line", .obj [("width", .float width), ("color", .str color)]),
      ("showlegend", .bool name.isSome)] ++
      (name.map fun n => ("name", Json.str n)).toList ++
      d.coordinates (edges.flatMap fun (u, v) => [some u, some v, none]))
  | .marks marks withLabels =>
    .obj ([("type", Json.str "scatter"),
      ("mode", .str (if withLabels then "markers+text" else "markers")),
      ("textposition", .str "top center"), ("textfont", .obj [("size", .int 8)]),
      ("hoverinfo", .str "text"), ("hovertext", Json.texts (marks.map (·.hover))),
      ("showlegend", .bool false),
      ("marker", .obj [("color", Json.texts (marks.map (·.color))),
        ("size", .arr (marks.map fun m => .float m.size)),
        ("line", .obj [("width", .int 2), ("color", Json.texts (marks.map (·.border)))])])] ++
      (if withLabels then [("text", Json.texts (marks.map (·.label)))] else []) ++
      d.coordinates ((List.range marks.length).map some))
  | .entry name color =>
    .obj ([("type", Json.str "scatter"), ("mode", .str "markers"), ("name", .str name),
      ("showlegend", .bool true),
      ("marker", .obj [("size", .int 10), ("color", .str color)])] ++ d.coordinates [none])

def bareAxis : Json :=
  .obj [("showgrid", false), ("zeroline", false), ("showticklabels", false)]

def plotLayout (d : Drawing) : Json :=
  .obj [
    ("title", .obj [("text", d.title), ("x", .float 0.5), ("xanchor", "center"),
      ("font", .obj [("size", .int 20)])]),
    ("showlegend", true),
    ("legend", .obj [("orientation", "v"), ("yanchor", "top"), ("y", .int 1), ("xanchor", "left"),
      ("x", .float 1.02), ("bgcolor", "rgba(255, 255, 255, 0.9)"), ("bordercolor", "Black"),
      ("borderwidth", .int 1), ("font", .obj [("size", .int 10)])]),
    ("hovermode", "closest"),
    ("margin", .obj [("b", .int 40), ("l", .int 40), ("r", .int 180), ("t", .int 80)]),
    ("xaxis", bareAxis), ("yaxis", bareAxis), ("plot_bgcolor", "#fafafa"),
    ("width", .int 1600), ("height", .int 1000), ("dragmode", "pan")]

def plotConfig : Json :=
  .obj [
    ("toImageButtonOptions", .obj [("format", "png"), ("filename", "gtm_dependencies"),
      ("height", .int 1600), ("width", .int 2000), ("scale", .int 2)]),
    ("displaylogo", false)]

/-- The markup that draws the graph. -/
def plot (d : Drawing) : String :=
  let arguments := [Json.arr (d.traces.map d.traceJson), d.plotLayout, plotConfig].map Json.compact
  Page.around "div" [("id", "networkPlot")] "" ++
    Page.around "script" [] ("Plotly.newPlot(" ++ ", ".intercalate ("\"networkPlot\"" :: arguments) ++
      ");")

end Drawing

end TagAudit

import TagAudit.Dependency.Graph
import TagAudit.Text.Markup

namespace TagAudit

/-- How the nodes of a drawing are to be placed. -/
inductive Layout where
  /-- Edges pull and nodes repel each other; `distance` is the best length of an edge. -/
  | spring (distance : Number) (iterations scale seed : Nat)
  /-- Distances in the drawing follow the numbers of steps between nodes. -/
  | distances (scale : Nat)

/-- The layout for a number of nodes. -/
def Layout.ofSize (nodes : Nat) : Layout :=
  if 100 < nodes then .distances 5
  else if 50 < nodes then .spring (.float (5.0 / nodes.toFloat.sqrt)) 100 3 42
  else .spring (.int 3) 50 2 42

/-- What stands for a node in a drawing. -/
structure Mark where
  label : String
  color : String
  size : Float
  border : String
  hover : String

/-- A layer of a drawing. Points are positions in the list of nodes. -/
inductive Trace where
  /-- Lines between pairs of nodes. -/
  | lines (edges : List (Nat × Nat)) (width : Float) (color : String) (name : Option String)
  | marks (marks : List Mark) (withLabels : Bool)
  /-- An entry of the legend. -/
  | entry (name color : String)

/-- A drawing of a dependency graph. -/
structure Drawing where
  graph : DependencyGraph
  edges : List (Edge Bool)

namespace Drawing

def ofGraph (g : DependencyGraph) : Drawing := ⟨g, g.edgesInOrder⟩

def nodeCount (d : Drawing) : Nat := d.graph.nodes.length

def edgeCount (d : Drawing) : Nat := d.edges.length

def cycleCount (d : Drawing) : Nat := (d.edges.filter (·.label)).length

def layout (d : Drawing) : Layout := Layout.ofSize d.nodeCount

def title (d : Drawing) : String :=
  "GTM Variable Dependencies Network (" ++ Numeral.ofInt d.nodeCount ++ " nodes, " ++
    Numeral.ofInt d.edgeCount ++ " connections)"

def hover (g : DependencyGraph) (name : String) (n : Node) : String :=
  "<b>" ++ Text.escapeMarkup n.label ++ "</b><br>Type: " ++ n.typeTitle ++ "<br>Referenced by: " ++
    Numeral.ofInt (g.inDegree name) ++ " | References: " ++ Numeral.ofInt (g.outDegree name) ++
    if n.inCycle then "<br><b>Part of a circular reference</b>" else ""

/-- Marks are smaller in a large drawing. -/
def mark (d : Drawing) (name : String) (n : Node) : Mark :=
  { label := n.label
    color := n.color
    size := n.kind.size.toFloat * (if 100 < d.nodeCount then 0.7 else 1.0)
    border := if n.inCycle then Color.inCycle else "white"
    hover := hover d.graph name n }

/-- The pairs of nodes that edges connect, of those that lie on cycles or of the others. -/
def pairs (d : Drawing) (onCycles : Bool) : List (Nat × Nat) :=
  let position (name : String) : Nat := d.graph.nodes.findIdx fun (n, _) => n == name
  (d.edges.filter fun e => e.label == onCycles).map fun e => (position e.source, position e.target)

/-- The types of nodes with their colors, by name. A type has the color of its first node. -/
def legend (d : Drawing) : List (String × String) :=
  let types := (groupBy (·.1) (d.graph.nodes.map fun (_, n) => (n.typeTitle, n.color))).map
    fun (title, entries) => (title, ((entries.head?.map (·.2))).getD "")
  types.mergeSort fun a b => a.1 ≤ b.1

def traces (d : Drawing) : List Trace :=
  [.lines (d.pairs false) 0.5 "#888" none,
    .lines (d.pairs true) 2.5 Color.inCycle (some "Circular reference"),
    .marks (d.graph.nodes.map fun (name, n) => d.mark name n) (d.nodeCount < 50)] ++
  d.legend.map fun (name, color) => .entry name color

/-- How many nodes of each kind there are, by the kind's name. -/
def kindCounts (d : Drawing) : List (NodeKind × Nat) :=
  let kinds := (groupBy (fun kind => kind) (d.graph.nodes.map fun (_, n) => n.kind)).map
    fun (kind, nodes) => (kind, nodes.length)
  kinds.mergeSort fun a b => a.1.label ≤ b.1.label

end Drawing

end TagAudit

import TagAudit.Container.Graph
import TagAudit.Json.Scalar

namespace TagAudit

/-- What a node of a dependency graph stands for. -/
inductive NodeKind where
  | component (kind : Kind)
  /-- A name that the system gives a meaning to. -/
  | internal
  | builtIn
  /-- A name that nothing carries. -/
  | unknown
  deriving DecidableEq

namespace NodeKind

def label : NodeKind → String
  | component kind => kind.label
  | internal => "internal"
  | builtIn => "builtin"
  | unknown => "unknown"

def title (kind : NodeKind) : String := Text.title kind.label

def isVariable (kind : NodeKind) : Bool := kind == component .variable

def size : NodeKind → Nat
  | component .variable => 20
  | component _ => 25
  | internal | builtIn => 18
  | unknown => 15

end NodeKind

namespace Color

def components : List (String × String) :=
  [("tag", "#ff7f0e"), ("trigger", "#2ca02c"), ("client", "#d62728"), ("builtin", "#e377c2"),
    ("internal", "#7f7f7f"), ("unknown", "#bcbd22")]

def otherVariable : String := "#6baed6"

/-- The color keys of variables, with colors and titles. -/
def variableTypes : List (String × String × String) :=
  [("v", "#1f77b4", "Data Layer Variable"), ("jsm", "#9467bd", "Custom JavaScript"),
    ("c", "#17becf", "Constant"), ("u", "#aec7e8", "URL"), ("k", "#c5b0d5", "Cookie"),
    ("d", "#8c564b", "DOM Element"), ("smm", "#393b79", "Lookup Table"),
    ("remm", "#5254a3", "Regex Table"), ("gas", "#637939", "Google Analytics Settings"),
    ("ed", "#8ca252", "Event Data"), ("custom_template", "#bd9e39", "Custom Template Variable"),
    ("other", otherVariable, "Other Variable")]

def ofVariable (key : String) : String := ((variableTypes.lookup key).map (·.1)).getD otherVariable

def ofComponent (key : String) : String := (components.lookup key).getD "#bcbd22"

def inCycle : String := "#e41a1c"

/-- The color key for a variable type, which has to be a text if it holds. -/
def variableKey (type : Json) : Except Fault String :=
  if !type.holds then .ok "other"
  else do
    let type ← type.needText
    return if Text.startsWith type "cvt_" then "custom_template"
      else if (variableTypes.lookup type).isSome then type else "other"

end Color

structure Node where
  kind : NodeKind
  colorKey : String
  label : String
  /-- Whether the node lies on a cycle of references. -/
  inCycle : Bool

namespace Node

def color (n : Node) : String :=
  if n.kind.isVariable then Color.ofVariable n.colorKey else Color.ofComponent n.colorKey

/-- What the node is, in the words of the legend. -/
def typeTitle (n : Node) : String :=
  if n.kind.isVariable then ((Color.variableTypes.lookup n.colorKey).map (·.2)).getD "Variable"
  else n.kind.title

end Node

/-- Which components reference which variables. The label of an edge says whether it lies on a cycle
of references. -/
abbrev DependencyGraph := Digraph Node Bool

namespace DependencyGraph

def plainNode (kind : NodeKind) (label : String) : Node := ⟨kind, kind.label, label, false⟩

/-- The node for a name that a reference mentions. -/
def nodeFor (c : Container) (name : String) : Except Fault Node :=
  match c.variableByName name with
  | some v => do
    return ⟨.component .variable, ← Color.variableKey (v.getOr "type" ""), name, false⟩
  | none =>
    if Text.startsWith name "_" then .ok (plainNode .internal name)
    else if c.builtInVariables.any fun b => (b.get "name").isStr name then
      .ok (plainNode .builtIn name)
    else .ok (plainNode .unknown name)

def addName (c : Container) (g : DependencyGraph) (name : String) : Except Fault DependencyGraph :=
  if g.hasNode name then .ok g
  else do return g.addNode name (← nodeFor c name)

/-- Adds a reference between names that are kept. A source that is no variable is always kept. -/
def addReference (c : Container) (cycles : List (String × String)) (keeps : String → Bool)
    (g : DependencyGraph) (r : Reference) : Except Fault DependencyGraph := do
  if !keeps r.target then return g
  let g ← addName c g r.target
  match r.kind with
  | .variable =>
    if !keeps r.source then return g
    let g ← addName c g r.source
    return g.setEdge r.source r.target (cycles.contains (r.source, r.target))
  | kind =>
    let source := kind.label ++ ":" ++ r.source
    return (g.addNode source (plainNode (.component kind) r.source)).setEdge source r.target false

/-- How often each name occurs at an end of a reference between names. -/
def degrees (references : List Reference) : List (String × Nat) :=
  let ends := references.flatMap fun r =>
    r.target :: if r.kind == .variable then [r.source] else []
  (groupBy (fun name => name) ends).map fun (name, uses) => (name, uses.length)

/-- Of too many names those with the highest degrees; of equal ones those that occur first. -/
def keptNames (references : List Reference) (limit : Int) : Option (List String) :=
  let found := degrees references
  if limit < found.length then
    some ((upTo limit (found.mergeSort fun a b => b.2 ≤ a.2)).map (·.1))
  else none

/-- Marks the ends of the edges on cycles. -/
def markCycles (g : DependencyGraph) : DependencyGraph :=
  let marked := (g.edges.filter (·.label)).flatMap fun e => [e.source, e.target]
  { g with nodes := g.nodes.map fun (name, n) => (name, { n with inCycle := marked.contains name }) }

def ofContainer (c : Container) (limit : Int) : Except Fault DependencyGraph := do
  let kept := keptNames c.references limit
  let keeps (name : String) : Bool := kept.all (·.contains name)
  return markCycles (← c.references.foldlM (addReference c c.referenceGraph.cycleEdges keeps) .empty)

end DependencyGraph

end TagAudit

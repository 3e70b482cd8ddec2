import TagAudit.Grouping

namespace TagAudit

structure Edge (ε : Type) where
  source : String
  target : String
  label : ε

/-- A directed graph with labelled nodes and at most one edge from one node to another. Nodes and
edges keep the order in which they were added. -/
structure Digraph (ν ε : Type) where
  nodes : List (String × ν)
  edges : List (Edge ε)

namespace Digraph

variable {ν ε : Type}

def empty : Digraph ν ε := ⟨[], []⟩

def hasNode (g : Digraph ν ε) (name : String) : Bool := g.nodes.any fun (n, _) => n == name

/-- Adds a node, or gives the node of that name a new label. -/
def setNode (g : Digraph ν ε) (name : String) (label : ν) : Digraph ν ε :=
  if g.hasNode name then
    { g with nodes := g.nodes.map fun (n, l) => (n, if n == name then label else l) }
  else { g with nodes := g.nodes ++ [(name, label)] }

/-- Adds a node unless there is one of that name. -/
def addNode (g : Digraph ν ε) (name : String) (label : ν) : Digraph ν ε :=
  if g.hasNode name then g else { g with nodes := g.nodes ++ [(name, label)] }

def hasEdge (g : Digraph ν ε) (source target : String) : Bool :=
  g.edges.any fun e => e.source == source && e.target == target

/-- Adds an edge between two nodes, or gives the edge between them a new label. -/
def setEdge (g : Digraph ν ε) (source target : String) (label : ε) : Digraph ν ε :=
  if g.hasEdge source target then
    { g with edges := g.edges.map fun e =>
        if e.source == source && e.target == target then ⟨source, target, label⟩ else e }
  else { g with edges := g.edges ++ [⟨source, target, label⟩] }

def successors (g : Digraph ν ε) (name : String) : List String :=
  (g.edges.filter fun e => e.source == name).map (·.target)

def inDegree (g : Digraph ν ε) (name : String) : Nat := (g.edges.filter fun e => e.target == name).length

def outDegree (g : Digraph ν ε) (name : String) : Nat := (g.edges.filter fun e => e.source == name).length

/-- The edges by source, the sources in node order. -/
def edgesInOrder (g : Digraph ν ε) : List (Edge ε) :=
  g.nodes.flatMap fun (name, _) => g.edges.filter fun e => e.source == name

end Digraph

namespace Reach

/-- The names of a list that are new, each once. -/
def fresh (seen : List String) : List String → List String
  | [] => []
  | name :: rest => if seen.contains name then fresh seen rest else name :: fresh (name :: seen) rest

/-- What can be reached from the names of the frontier in at most so many steps, with what was seen
before. -/
def within (successors : String → List String) :
    (steps : Nat) → (frontier seen : List String) → List String
  | 0, _, seen => seen
  | steps + 1, frontier, seen =>
    match fresh seen (frontier.flatMap successors) with
    | [] => seen
    | news => within successors steps news (news ++ seen)

end Reach

namespace Digraph

variable {ν ε : Type}

/-- The names that can be reached from a name, itself included. A shortest path to a target uses
each edge at most once. -/
def reachable (g : Digraph ν ε) (name : String) : List String :=
  Reach.within g.successors g.edges.length [name] [name]

/-- The strongly connected components: nodes from each of which all others of the component can be
reached. -/
def components (g : Digraph ν ε) : List (List String) :=
  let reached := g.nodes.map fun (name, _) => (name, g.reachable name)
  distinct (reached.map fun (name, below) =>
    (reached.filter fun (other, above) => below.contains other && above.contains name).map (·.1))

/-- The edges inside a component of several nodes, and those from a node to itself. -/
def edgesOnCycles (g : Digraph ν ε) (components : List (List String)) : List (String × String) :=
  let inside := components.flatMap fun names =>
    if 1 < names.length then
      g.edges.filter fun e => names.contains e.source && names.contains e.target
    else []
  distinct ((inside ++ g.edges.filter fun e => e.source == e.target).map fun e =>
    (e.source, e.target))

/-- The edges that lie on a cycle. -/
def cycleEdges (g : Digraph ν ε) : List (String × String) := g.edgesOnCycles g.components

end Digraph

/-- What a depth-first search has found. -/
structure Search where
  visited : List String
  /-- The cycles, the latest first. -/
  cycles : List (List String)

namespace Search

/-- The part of a stack from its last entry `name` on, in the order of the visits; `stack` has the
latest entry first. -/
def cycleTo (name : String) (stack : List String) : List String :=
  (name :: stack.takeWhile (· != name) ++ [name]).reverse

/-- Visits a name and then what follows it. A name on the stack closes a cycle; a name visited
before is left alone. Every step puts a new name on the stack, so `depth` bounds its height. -/
def visit (next : String → List String) : (depth : Nat) → (stack : List String) → Search → String → Search
  | 0, _, s, _ => s
  | depth + 1, stack, s, name =>
    if stack.contains name then { s with cycles := cycleTo name stack :: s.cycles }
    else if s.visited.contains name then s
    else
      (next name).foldl (visit next depth (name :: stack))
        { s with visited := name :: s.visited }

/-- The cycles that a search from each of the names in turn meets. -/
def cyclesFrom (next : String → List String) (names : List String) : List (List String) :=
  (names.foldl (visit next (names.length + 2) []) ⟨[], []⟩).cycles.reverse

/-- The most names on a path from `name` that visits none of `visited` and no name twice. -/
def longestPath (next : String → List String) : (depth : Nat) → (visited : List String) → String → Nat
  | 0, _, _ => 0
  | depth + 1, visited, name =>
    if visited.contains name then 0
    else
      match next name with
      | [] => 1
      | names =>
        names.foldl (fun deepest n => max deepest (longestPath next depth (name :: visited) n)) 0 + 1

end Search

end TagAudit

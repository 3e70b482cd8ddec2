import TagAudit.Container.Reference
import TagAudit.Graph

namespace TagAudit.Container

/-- Adds the edge of a reference between two variables, and the names it needs. -/
def addReference (g : Digraph (Option Json) Unit) (r : Reference) : Digraph (Option Json) Unit :=
  ((g.addNode r.source none).addNode r.target none).setEdge r.source r.target ()

/-- The variables with their types, and which variable references which name. A name that no
variable has carries no type. -/
def referenceGraph (c : Container) : Digraph (Option Json) Unit :=
  let declared := (c.userVariables.filter fun v => !v.name.isEmpty).foldl
    (fun g v => g.setNode v.name (some (v.getOr "type" ""))) .empty
  (c.references.filter fun r => r.kind == .variable && !r.source.isEmpty).foldl addReference declared

/-- The names that the variables of a name reference, each once. -/
def variableReferences (c : Container) (name : String) : List String :=
  c.referenceGraph.successors name

def variableNames (c : Container) : List String :=
  (c.userVariables.map Entity.name).filter fun n => !n.isEmpty

/-- The variables that a variable references. -/
def knownReferences (c : Container) : String → List String :=
  let g := c.referenceGraph
  let known := c.variableNames
  fun name => (g.successors name).filter known.contains

/-- Cycles among the variables, each as a path from a variable back to itself. -/
def circularReferences (c : Container) : List (List String) :=
  Search.cyclesFrom c.knownReferences c.variableNames

/-- The number of variables on the longest chain of references below a name; 1 where it references
no variable. -/
def referenceDepth (c : Container) : String → Nat :=
  let next := c.knownReferences
  let depth := c.variableNames.length + 2
  Search.longestPath next depth []

end TagAudit.Container

import TagAudit.Proofs.Dependency.Kept
import TagAudit.Proofs.Variables.Agreement

namespace TagAudit

namespace Reference

/-- The name of the node from which the edge of a reference leads. -/
def origin (r : Reference) : String :=
  if r.kind = .variable then r.source else r.kind.label ++ ":" ++ r.source

/-- The names of the nodes that the edge of a reference connects. -/
def ends (r : Reference) : String × String := (r.origin, r.target)

/-- A reference is drawn if the name it mentions is kept, and its source too where this is a variable. -/
def Drawn (keeps : String → Bool) (r : Reference) : Prop :=
  keeps r.target = true ∧ (r.kind = .variable → keeps r.source = true)

/-- The edge of a reference. Only a reference of a variable can lie on a cycle. -/
def edge (cycles : List (String × String)) (r : Reference) : Edge Bool :=
  ⟨r.origin, r.target, r.kind == .variable && cycles.contains (r.source, r.target)⟩

end Reference

/-- Whether a node stands for a name that references mention. -/
def NodeKind.isName : NodeKind → Bool
  | component kind => kind == .variable
  | internal | builtIn | unknown => true

namespace Digraph

variable {ν ε : Type} {g : Digraph ν ε} {u v : String}

@[simp]
theorem edges_addNode (g : Digraph ν ε) (name : String) (label : ν) : (g.addNode name label).edges = g.edges := by
  unfold addNode
  split <;> rfl

@[simp]
theorem nodes_setEdge (g : Digraph ν ε) (source target : String) (label : ε) :
    (g.setEdge source target label).nodes = g.nodes := by
  unfold setEdge
  split <;> rfl

theorem eq_or_mem_of_mem_addNode {name : String} {label : ν} {row : String × ν}
    (member : row ∈ (g.addNode name label).nodes) : row ∈ g.nodes ∨ row = (name, label) := by
  unfold addNode at member
  split at member
  · exact Or.inl member
  · simpa using member

/-- Between two nodes there is the edge that was set last. -/
theorem mem_edges_setEdge {label : ε} {e : Edge ε} :
    e ∈ (g.setEdge u v label).edges ↔ e = ⟨u, v, label⟩ ∨ e ∈ g.edges ∧ e.ends ≠ (u, v) := by
  have connects (other : Edge ε) : (other.source == u && other.target == v) = true ↔ other.ends = (u, v) := by
    simp [Edge.ends]
  unfold setEdge
  by_cases present : g.hasEdge u v = true
  · rw [if_pos present, List.mem_map]
    constructor
    · rintro ⟨old, member, rfl⟩
      by_cases same : (old.source == u && old.target == v) = true
      · exact Or.inl (if_pos same)
      · rw [if_neg same]
        exact Or.inr ⟨member, fun ends => same ((connects old).mpr ends)⟩
    · rintro (rfl | ⟨member, other⟩)
      · obtain ⟨old, member, same⟩ := List.any_eq_true.mp present
        exact ⟨old, member, if_pos same⟩
      · exact ⟨e, member, if_neg fun same => other ((connects e).mp same)⟩
  · rw [if_neg present]
    have absent (member : e ∈ g.edges) : e.ends ≠ (u, v) := fun ends =>
      present (List.any_eq_true.mpr ⟨e, member, (connects e).mpr ends⟩)
    rw [List.mem_append, List.mem_singleton, or_comm]
    exact or_congr_right ⟨fun member => ⟨member, absent member⟩, And.left⟩

end Digraph

namespace DependencyGraph

open Container TagAudit.Digraph

variable {c : Container} {cycles : List (String × String)} {keeps : String → Bool} {r : Reference}
  {references : List Reference} {g h : DependencyGraph}

/-- Some nodes are added to a graph, all of them with new names and of an allowed form. -/
structure Grown (allowed : String × Node → Prop) (g h : DependencyGraph) : Prop where
  edges : h.edges = g.edges
  nodes : ∀ row ∈ h.nodes, row ∈ g.nodes ∨ allowed row
  nodup : g.names.Nodup → h.names.Nodup

theorem Grown.refl (allowed : String × Node → Prop) (g : DependencyGraph) : Grown allowed g g :=
  ⟨rfl, fun _ => Or.inl, id⟩

theorem Grown.ends {allowed : String × Node → Prop} (grown : Grown allowed g h) : h.ends = g.ends := by
  rw [Digraph.ends, grown.edges, Digraph.ends]

theorem Grown.trans {allowed : String × Node → Prop} {first second third : DependencyGraph}
    (early : Grown allowed first second) (late : Grown allowed second third) : Grown allowed first third where
  edges := late.edges.trans early.edges
  nodes row member := (late.nodes row member).elim (early.nodes row) Or.inr
  nodup distinct := late.nodup (early.nodup distinct)

theorem grown_addNode {allowed : String × Node → Prop} (g : DependencyGraph) {name : String} {node : Node}
    (fits : allowed (name, node)) : Grown allowed g (g.addNode name node) where
  edges := g.edges_addNode name node
  nodes row member := by
    rcases eq_or_mem_of_mem_addNode member with old | rfl
    · exact Or.inl old
    · exact Or.inr fits
  nodup distinct := by
    rw [names_addNode]
    split
    · exact distinct
    · rename_i new
      exact List.concat_eq_append ▸ distinct.concat new

theorem grown_addName {allowed : String × Node → Prop} {name : String} (run : addName c g name = .ok h)
    (fits : ∀ node, allowed (name, node)) : Grown allowed g h := by
  unfold addName at run
  split at run
  · cases run
    exact .refl allowed g
  · obtain ⟨node, _, same⟩ := ok_of_bind run
    cases same
    exact grown_addNode g (fits node)

/-- The nodes that a reference may bring in: those of the kept names at its ends, and one for a component that
is no variable. -/
def Allowed (keeps : String → Bool) (r : Reference) (row : String × Node) : Prop :=
  row.2.kind.isName = true → keeps row.1 = true ∧ row.1 ∈ r.names

/-- A reference brings in its nodes. If it is drawn, its edge takes the place of any other one between them. -/
theorem addReference_grown (run : addReference c cycles keeps g r = .ok h) :
    ∃ middle, Grown (Allowed keeps r) g middle ∧
      (r.Drawn keeps ∧ h = middle.setEdge r.origin r.target (r.edge cycles).label ∨
        ¬r.Drawn keeps ∧ h = middle) := by
  unfold addReference at run
  cases target : keeps r.target with
  | false =>
    rw [target] at run
    cases run
    exact ⟨g, .refl _ g, Or.inr ⟨by simp [Reference.Drawn, target], rfl⟩⟩
  | true =>
    rw [target] at run
    obtain ⟨first, named, later⟩ := ok_of_bind run
    have start : Grown (Allowed keeps r) g first :=
      grown_addName named fun node _ => ⟨target, List.mem_cons_self⟩
    cases kind : r.kind with
    | «variable» =>
      rw [kind] at later
      dsimp only at later
      cases source : keeps r.source with
      | false =>
        rw [source] at later
        cases later
        exact ⟨h, start, Or.inr ⟨by simp [Reference.Drawn, kind, source], rfl⟩⟩
      | true =>
        rw [source] at later
        obtain ⟨second, mentioned, same⟩ := ok_of_bind later
        cases same
        have grown := start.trans
          (grown_addName mentioned fun node _ => ⟨source, by simp [Reference.names, kind]⟩)
        refine ⟨second, grown, Or.inl ⟨⟨target, fun _ => source⟩, ?_⟩⟩
        simp [Reference.origin, Reference.edge, kind]
    | tag | trigger | client =>
      rw [kind] at later
      cases later
      have other : r.kind ≠ .variable := by simp [kind]
      have origin : r.origin = r.kind.label ++ ":" ++ r.source := if_neg other
      have unlabelled : (r.edge cycles).label = false := by simp [Reference.edge, kind]
      have grown : Grown (Allowed keeps r) first (first.addNode r.origin (plainNode (.component r.kind) r.source)) :=
        grown_addNode first fun isName => by simp [plainNode, NodeKind.isName, kind] at isName
      refine ⟨_, start.trans grown, Or.inl ⟨⟨target, fun isVariable => absurd isVariable other⟩, ?_⟩⟩
      rw [origin, unlabelled, kind]

theorem mem_edges_addReference (run : addReference c cycles keeps g r = .ok h) {e : Edge Bool} :
    e ∈ h.edges ↔ (r.Drawn keeps ∧ r.edge cycles = e) ∨
      e ∈ g.edges ∧ ¬(r.Drawn keeps ∧ r.ends = e.ends) := by
  obtain ⟨middle, grown, ⟨drawn, rfl⟩ | ⟨skipped, rfl⟩⟩ := addReference_grown run
  · rw [mem_edges_setEdge, grown.edges]
    have own : (⟨r.origin, r.target, (r.edge cycles).label⟩ : Edge Bool) = r.edge cycles := rfl
    rw [own, eq_comm, ← Reference.ends]
    simp [drawn, eq_comm]
  · rw [grown.edges]
    simp [skipped]

theorem mem_ends_addReference (run : addReference c cycles keeps g r = .ok h) {ends : String × String} :
    ends ∈ h.ends ↔ ends ∈ g.ends ∨ r.Drawn keeps ∧ r.ends = ends := by
  obtain ⟨middle, grown, ⟨drawn, rfl⟩ | ⟨skipped, rfl⟩⟩ := addReference_grown run
  · rw [ends_setEdge, grown.ends, ← Reference.ends]
    split
    · rename_i present
      exact ⟨Or.inl, fun either => either.elim id fun new => new.2 ▸ present⟩
    · simp [drawn, eq_comm]
  · rw [grown.ends]
    simp [skipped]

/-- The pairs of nodes that are connected are those of the references that are drawn. -/
theorem mem_ends_addReferences (run : references.foldlM (addReference c cycles keeps) g = .ok h)
    {ends : String × String} :
    ends ∈ h.ends ↔ ends ∈ g.ends ∨ ∃ r ∈ references, r.Drawn keeps ∧ r.ends = ends :=
  foldlM_iff (motive := fun g => ends ∈ g.ends) run fun _ _ _ step => mem_ends_addReference step

/-- What a reference needs has nodes, whether it is drawn or not. -/
theorem mem_names_addReferences (run : references.foldlM (addReference c cycles keeps) g = .ok h) {name : String} :
    name ∈ h.names ↔ name ∈ g.names ∨
      ∃ r ∈ references, name ∈ drawnVariables keeps r ∨ name ∈ drawnComponents keeps r :=
  foldlM_iff (motive := fun g => name ∈ g.names) run fun r before after step =>
    (addReference_draws c cycles keeps before r).names after step name

theorem ends_nodup_addReferences (run : references.foldlM (addReference c cycles keeps) g = .ok h)
    (start : g.ends.Nodup) : h.ends.Nodup := by
  refine foldlM_keeps (motive := fun g => g.ends.Nodup) run start fun r _ before after step nodup => ?_
  obtain ⟨middle, grown, last⟩ := addReference_grown step
  rcases last with ⟨_, rfl⟩ | ⟨_, rfl⟩
  · rw [ends_setEdge, grown.ends]
    split
    · exact nodup
    · rename_i new
      exact List.concat_eq_append ▸ nodup.concat new
  · rw [grown.ends]
    exact nodup

/-- Nodes have different names, and those that stand for names have names that references mention and that are
kept. -/
theorem nodes_addReferences (run : references.foldlM (addReference c cycles keeps) .empty = .ok h) :
    h.names.Nodup ∧ ∀ row ∈ h.nodes, row.2.kind.isName = true →
      keeps row.1 = true ∧ row.1 ∈ references.flatMap Reference.names := by
  refine foldlM_keeps (motive := fun g => g.names.Nodup ∧ ∀ row ∈ g.nodes, row.2.kind.isName = true →
    keeps row.1 = true ∧ row.1 ∈ references.flatMap Reference.names) run (by simp [names, empty]) ?_
  intro r member before after step holds
  obtain ⟨nodup, named⟩ := holds
  obtain ⟨middle, grown, last⟩ := addReference_grown step
  have sameNodes : after.nodes = middle.nodes := by
    rcases last with ⟨_, rfl⟩ | ⟨_, rfl⟩
    · rw [nodes_setEdge]
    · rfl
  have sameNames : after.names = middle.names := by rw [names, sameNodes, names]
  refine ⟨sameNames ▸ grown.nodup nodup, fun row present isName => ?_⟩
  rcases grown.nodes row (sameNodes ▸ present) with old | allowed
  · exact named row old isName
  · obtain ⟨kept, mentioned⟩ := allowed isName
    exact ⟨kept, List.mem_flatMap.mpr ⟨r, member, mentioned⟩⟩

/-- A graph of a container is made reference by reference; at last the ends of edges on cycles are marked. -/
theorem exists_addReferences {limit : Int} (run : ofContainer c limit = .ok g) : ∃ h,
    c.references.foldlM (addReference c c.referenceGraph.cycleEdges (DependencyGraph.keeps c limit)) .empty = .ok h ∧
      g = markCycles h := by
  obtain ⟨h, built, marked⟩ := ok_of_bind run
  cases marked
  exact ⟨h, built, rfl⟩

@[simp]
theorem ends_markCycles (g : DependencyGraph) : (markCycles g).ends = g.ends := rfl

@[simp]
theorem names_markCycles (g : DependencyGraph) : (markCycles g).names = g.names := by
  simp [markCycles, names]

theorem mem_nodes_markCycles {row : String × Node} (member : row ∈ (markCycles g).nodes) :
    ∃ old ∈ g.nodes, row.1 = old.1 ∧ row.2.kind = old.2.kind := by
  obtain ⟨old, present, rfl⟩ := List.mem_map.mp member
  exact ⟨old, present, rfl, rfl⟩

end DependencyGraph

namespace Reference

variable {c : Container} {r : Reference}

theorem target_mentioned (member : r ∈ c.references) : r.target ∈ c.mentionedNames :=
  List.mem_flatMap.mpr ⟨r, member, List.mem_cons_self⟩

theorem source_mentioned (member : r ∈ c.references) (isVariable : r.kind = .variable) :
    r.source ∈ c.mentionedNames :=
  List.mem_flatMap.mpr ⟨r, member, by simp [names, isVariable]⟩

end Reference

namespace Container

open DependencyGraph

variable {c : Container} {limit : Nat} {g : DependencyGraph}

theorem isDrawn_iff {keep : List String}
    (kept_iff : ∀ name ∈ c.mentionedNames, DependencyGraph.keeps c limit name = true ↔ name ∈ keep) {r : Reference}
    (member : r ∈ c.references) : r.Drawn (DependencyGraph.keeps c limit) ↔
      r.target ∈ keep ∧ (r.kind = .variable → r.source ∈ keep) := by
  refine and_congr (kept_iff _ (Reference.target_mentioned member)) (forall_congr' fun isVariable => ?_)
  exact kept_iff _ (Reference.source_mentioned member isVariable)

/-- Nodes with different names of a list are no more than these names. -/
theorem length_le_of_names {nodes : List (String × Node)} {keep : List String} (nodup : (nodes.map (·.1)).Nodup)
    (within : ∀ row ∈ nodes, row.1 ∈ keep) : nodes.length ≤ keep.length := by
  have subset : nodes.map (·.1) ⊆ keep := by
    intro name member
    obtain ⟨row, isNode, rfl⟩ := List.mem_map.mp member
    exact within row isNode
  have fewer := (List.subperm_of_subset nodup subset).length_le
  rwa [List.length_map] at fewer

/-- The graph of a container with a limit shows the references between the names that the limit leaves and no
others. The names that are mentioned have at most so many nodes, and a name that is left and that a reference
mentions has one. -/
theorem dependencyGraph_limited (run : DependencyGraph.ofContainer c limit = .ok g) :
    ∃ keep, c.Leaves limit keep ∧ (∀ other, c.Leaves limit other → ∀ name, name ∈ keep ↔ name ∈ other) ∧
      (∀ a ∈ keep, ∀ b ∈ c.mentionedNames, b ∉ keep → c.degree b ≤ c.degree a) ∧
      g.ends.Nodup ∧
      (∀ u v, (u, v) ∈ g.ends ↔ ∃ r ∈ c.references, r.target ∈ keep ∧ (r.kind = .variable → r.source ∈ keep) ∧
        r.origin = u ∧ r.target = v) ∧
      (∀ row ∈ g.nodes, row.2.kind.isName = true → row.1 ∈ keep) ∧
      (g.nodes.filter fun row => row.2.kind.isName).length ≤ limit ∧
      ∀ r ∈ c.references, r.target ∈ keep → r.target ∈ g.names := by
  obtain ⟨keep, leaves, kept_iff⟩ := exists_leaves c limit
  obtain ⟨drawn, built, rfl⟩ := exists_addReferences run
  obtain ⟨nodup, named⟩ := nodes_addReferences built
  have inKeep : ∀ row ∈ (markCycles drawn).nodes, row.2.kind.isName = true → row.1 ∈ keep := by
    intro row member isName
    obtain ⟨old, present, sameName, sameKind⟩ := mem_nodes_markCycles member
    obtain ⟨kept, mentioned⟩ := named old present (sameKind ▸ isName)
    exact sameName ▸ (kept_iff _ mentioned).mp kept
  refine ⟨keep, leaves, fun other same => leaves.mem_iff same, ?_, ?_, fun u v => ?_, inKeep, ?_, ?_⟩
  · exact fun a kept b mentioned dropped => (leaves.outranks a kept b mentioned dropped).degree_le
  · rw [ends_markCycles]
    exact ends_nodup_addReferences built List.nodup_nil
  · rw [ends_markCycles, mem_ends_addReferences built]
    simp only [Digraph.ends, Digraph.empty, List.map_nil, List.not_mem_nil, false_or, Reference.ends,
      Prod.mk.injEq]
    refine exists_congr fun r => and_congr_right fun member => ?_
    rw [isDrawn_iff kept_iff member, and_assoc]
  · have distinct : (markCycles drawn).names.Nodup := names_markCycles drawn ▸ nodup
    have fewer := length_le_of_names (distinct.sublist (List.filter_sublist.map _)) fun row member =>
      inKeep row (List.mem_filter.mp member).1 (List.mem_filter.mp member).2
    rw [leaves.length] at fewer
    exact fewer.trans (Nat.min_le_left _ _)
  · intro r member kept
    rw [names_markCycles, mem_names_addReferences built]
    have keeps := (kept_iff _ (Reference.target_mentioned member)).mpr kept
    exact Or.inr ⟨r, member, Or.inl (by simp [drawnVariables, keeps])⟩

/-- A container can be drawn where the types of its variables are texts or missing. -/
theorem exists_dependencyGraph (typed : ∀ v ∈ c.userVariables, (v.getOr "type" "").holds = true →
    (v.getOr "type" "").isText = true) (limit : Int) : ∃ g, DependencyGraph.ofContainer c limit = .ok g := by
  refine (c.drawable_needs limit).returns fun before r after _ name _ _ v found holds => ?_
  unfold variableByName at found
  split at found
  · cases found
  · exact typed v (List.mem_reverse.mp (List.mem_of_find?_eq_some found)) holds

theorem forked_references : forked.references = [⟨.variable, "", "A", "B"⟩, ⟨.variable, "", "A", "C"⟩,
    ⟨.variable, "", "B", "A"⟩, ⟨.variable, "", "C", "B"⟩] := rfl

theorem forked_leaves : forked.Leaves 2 ["B", "A"] where
  nodup := by decide
  mentioned := by decide
  length := by decide
  outranks := by
    unfold Outranks
    decide

/-- Of three variables two are left: C has fewer references than the others. -/
theorem forked_limited : ∃ g, DependencyGraph.ofContainer forked (2 : Nat) = .ok g ∧
    ("A", "B") ∈ g.ends ∧ ("A", "C") ∉ g.ends ∧ "B" ∈ g.names := by
  obtain ⟨g, run⟩ := exists_dependencyGraph (c := forked) (by decide) (2 : Nat)
  obtain ⟨keep, _, unique, _, _, edges, _, _, nodes⟩ := dependencyGraph_limited run
  have kept : ∀ name, name ∈ keep ↔ name ∈ ["B", "A"] := unique _ forked_leaves
  refine ⟨g, run, (edges "A" "B").mpr ?_, fun drawn => ?_, ?_⟩
  · exact ⟨⟨.variable, "", "A", "B"⟩, by simp [forked_references], (kept "B").mpr (by simp),
      fun _ => (kept "A").mpr (by simp), rfl, rfl⟩
  · obtain ⟨r, _, isKept, _, _, isC⟩ := (edges "A" "C").mp drawn
    have absent : "C" ∉ keep := mt (kept "C").mp (by simp)
    exact absent (isC ▸ isKept)
  · exact nodes ⟨.variable, "", "A", "B"⟩ (by simp [forked_references]) ((kept "B").mpr (by simp))

end Container

end TagAudit

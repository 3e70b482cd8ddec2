import TagAudit.Proofs.Dependency.Edges
import TagAudit.Proofs.Variables.Rings

namespace TagAudit

open Relation

/-- The turn of a kind: references are read kind by kind. -/
def Kind.turn : Kind → Nat
  | .tag => 0
  | .trigger => 1
  | .variable => 2
  | .client => 3

namespace DependencyGraph

open Container TagAudit.Digraph

variable {c : Container} {cycles : List (String × String)} {keeps : String → Bool}
  {references : List Reference} {g h : DependencyGraph} {e : Edge Bool}

/-- Of the references that are drawn between the ends of an edge the last one has this edge. -/
def SetLast (cycles : List (String × String)) (keeps : String → Bool) (references : List Reference)
    (e : Edge Bool) : Prop :=
  ∃ before r after, references = before ++ r :: after ∧ r.Drawn keeps ∧ r.edge cycles = e ∧
    ∀ later ∈ after, ¬(later.Drawn keeps ∧ later.ends = e.ends)

theorem setLast_cons {first : Reference} : SetLast cycles keeps (first :: references) e ↔
    SetLast cycles keeps references e ∨ (first.Drawn keeps ∧ first.edge cycles = e) ∧
      ∀ later ∈ references, ¬(later.Drawn keeps ∧ later.ends = e.ends) := by
  constructor
  · rintro ⟨before, r, after, split, drawn, own, none⟩
    rcases List.cons_eq_append_iff.mp split with ⟨rfl, same⟩ | ⟨earlier, rfl, remaining⟩
    · cases same
      exact Or.inr ⟨⟨drawn, own⟩, none⟩
    · exact Or.inl ⟨earlier, r, after, remaining, drawn, own, none⟩
  · rintro (⟨before, r, after, split, drawn, own, none⟩ | ⟨⟨drawn, own⟩, none⟩)
    · exact ⟨first :: before, r, after, congrArg (first :: ·) split, drawn, own, none⟩
    · exact ⟨[], first, references, rfl, drawn, own, none⟩

/-- Between two nodes the last reference that is drawn decides about the label. -/
theorem mem_edges_addReferences (run : references.foldlM (addReference c cycles keeps) g = .ok h) :
    e ∈ h.edges ↔ SetLast cycles keeps references e ∨
      e ∈ g.edges ∧ ∀ r ∈ references, ¬(r.Drawn keeps ∧ r.ends = e.ends) := by
  induction references generalizing g with
  | nil =>
    cases run
    simp [SetLast]
  | cons first rest ih =>
    obtain ⟨middle, here, later⟩ := ok_of_bind run
    rw [ih later, mem_edges_addReference here, setLast_cons, List.forall_mem_cons, or_and_right, or_assoc,
      and_assoc (a := e ∈ g.edges)]

theorem mem_edges_ofReferences (run : references.foldlM (addReference c cycles keeps) .empty = .ok h) :
    e ∈ h.edges ↔ SetLast cycles keeps references e := by
  rw [mem_edges_addReferences run]
  simp [empty]

end DependencyGraph

namespace Container

theorem pairwise_turn (c : Container) : c.references.Pairwise fun a b => a.kind.turn ≤ b.kind.turn := by
  have ofKind (kind : Kind) (entities : List Entity) (r : Reference)
      (member : r ∈ entities.flatMap (Reference.ofEntity kind)) : r.kind = kind := by
    obtain ⟨e, _, ofEntity⟩ := List.mem_flatMap.mp member
    obtain ⟨target, _, rfl⟩ := List.mem_map.mp ofEntity
    rfl
  have within (kind : Kind) (entities : List Entity) :
      (entities.flatMap (Reference.ofEntity kind)).Pairwise fun a b => a.kind.turn ≤ b.kind.turn := by
    refine List.pairwise_of_forall_mem_list fun a isA b isB => ?_
    rw [ofKind kind entities a isA, ofKind kind entities b isB]
  unfold references
  refine List.pairwise_append.mpr ⟨List.pairwise_append.mpr ⟨List.pairwise_append.mpr
    ⟨within .tag c.tags, within .trigger c.triggers, ?_⟩, within .variable c.userVariables, ?_⟩,
    within .client c.clients, ?_⟩
  · intro a isA b isB
    rw [ofKind _ _ a isA, ofKind _ _ b isB]
    decide
  · intro a isA b isB
    rw [ofKind _ _ b isB]
    rcases List.mem_append.mp isA with ofTag | ofTrigger
    · rw [ofKind _ _ a ofTag]
      decide
    · rw [ofKind _ _ a ofTrigger]
      decide
  · intro a _ b isB
    rw [ofKind _ _ b isB]
    cases a.kind <;> decide

open DependencyGraph

variable {c : Container} {limit : Nat} {g : DependencyGraph} {cycles : List (String × String)}
  {keeps : String → Bool} {e : Edge Bool}

/-- An edge is labelled by the references of variables, unless a client comes after them. -/
theorem label_iff (last : SetLast cycles keeps c.references e) : e.label = true ↔
    ((∃ r ∈ c.references, r.kind = .variable ∧ r.Drawn keeps ∧ r.ends = e.ends) ∧ e.ends ∈ cycles) ∧
      ¬∃ r ∈ c.references, r.kind = .client ∧ r.Drawn keeps ∧ r.ends = e.ends := by
  obtain ⟨before, r, after, split, drawn, rfl, none⟩ := last
  have member : r ∈ c.references := split ▸ List.mem_append_right _ List.mem_cons_self
  -- Whatever else is drawn between the two nodes comes before `r`.
  have earlier (other : Reference) (isReference : other ∈ c.references) (isDrawn : other.Drawn keeps)
      (same : other.ends = r.ends) : other.kind.turn ≤ r.kind.turn := by
    have order := c.pairwise_turn
    rw [split] at order isReference
    rcases List.mem_append.mp isReference with inFront | behind
    · exact (List.pairwise_append.mp order).2.2 other inFront r List.mem_cons_self
    · rcases List.mem_cons.mp behind with rfl | late
      · exact Nat.le_refl _
      · exact absurd ⟨isDrawn, same⟩ (none other late)
  constructor
  · intro marked
    obtain ⟨isVariable, onCycle⟩ := Bool.and_eq_true_iff.mp marked
    have isVariable : r.kind = .variable := beq_iff_eq.mp isVariable
    have ends : r.ends = (r.source, r.target) := Prod.ext (if_pos isVariable) rfl
    refine ⟨⟨⟨r, member, isVariable, drawn, rfl⟩, ?_⟩, ?_⟩
    · exact (ends ▸ List.contains_iff_mem.mp onCycle : r.ends ∈ cycles)
    · rintro ⟨client, isReference, isClient, isDrawn, same⟩
      have order := earlier client isReference isDrawn same
      rw [isClient, isVariable] at order
      exact absurd order (by decide)
  · rintro ⟨⟨⟨other, isReference, isVariable, isDrawn, same⟩, onCycle⟩, noClient⟩
    have order := earlier other isReference isDrawn same
    rw [isVariable] at order
    have ofVariable : r.kind = .variable := by
      cases kind : r.kind with
      | «variable» => rfl
      | client => exact absurd ⟨r, member, kind, drawn, rfl⟩ noClient
      | _ =>
        rw [kind] at order
        exact absurd order (by decide)
    have ends : r.ends = (r.source, r.target) := Prod.ext (if_pos ofVariable) rfl
    refine Bool.and_eq_true_iff.mpr ⟨beq_iff_eq.mpr ofVariable, List.contains_iff_mem.mpr ?_⟩
    exact ends ▸ onCycle

/-- A drawn reference leads from one variable to another name and lies on a cycle of references. -/
def Circling (c : Container) (limit : Nat) (u v : String) : Prop :=
  (∃ r ∈ c.references, r.kind = .variable ∧ r.Drawn (DependencyGraph.keeps c limit) ∧ r.ends = (u, v)) ∧
    c.referenceGraph.ClosesRing u v

/-- A drawn reference of a client connects two nodes, the first of which has the name of the client's node. -/
def Covers (c : Container) (limit : Nat) (u v : String) : Prop :=
  ∃ r ∈ c.references, r.kind = .client ∧ r.Drawn (DependencyGraph.keeps c limit) ∧ r.ends = (u, v)

/-- A graph of a container marks what lies on cycles: the edges of variables that do, and the nodes at their
ends. -/
structure MarksCycles (c : Container) (limit : Nat) (g : DependencyGraph) : Prop where
  edges : ∀ e ∈ g.edges, e.label = true ↔ c.Circling limit e.source e.target
  nodes : ∀ row ∈ g.nodes, row.2.inCycle = true ↔ ∃ u v, c.Circling limit u v ∧ (row.1 = u ∨ row.1 = v)

theorem mem_cycleEdges_iff {u v : String} :
    (u, v) ∈ c.referenceGraph.cycleEdges ↔ c.referenceGraph.ClosesRing u v := by
  have wellFormed := c.wellFormed_referenceGraph
  rw [Digraph.cycleEdges, Digraph.mem_edgesOnCycles wellFormed (Digraph.isComponents_components wellFormed),
    Digraph.closesRing_iff]

theorem label_markCycles (run : DependencyGraph.ofContainer c limit = .ok g) (member : e ∈ g.edges) :
    e.label = true ↔ c.Circling limit e.source e.target ∧ ¬c.Covers limit e.source e.target := by
  obtain ⟨drawn, built, rfl⟩ := exists_addReferences run
  rw [label_iff ((mem_edges_ofReferences built).mp member), Circling, Covers, ← mem_cycleEdges_iff, Edge.ends]

theorem inCycle_markCycles {row : String × Node} {g : DependencyGraph} (member : row ∈ (markCycles g).nodes) :
    row.2.inCycle = true ↔ ∃ e ∈ (markCycles g).edges, e.label = true ∧ (row.1 = e.source ∨ row.1 = e.target) := by
  obtain ⟨old, _, rfl⟩ := List.mem_map.mp member
  simp [markCycles, and_assoc]

theorem Circling.exists_edge {u v : String} (circling : c.Circling limit u v)
    (run : DependencyGraph.ofContainer c limit = .ok g) : ∃ e ∈ g.edges, e.source = u ∧ e.target = v := by
  obtain ⟨drawn, built, rfl⟩ := exists_addReferences run
  obtain ⟨⟨r, member, _, isDrawn, ends⟩, _⟩ := circling
  have connected : (u, v) ∈ drawn.ends := (mem_ends_addReferences built).mpr (Or.inr ⟨r, member, isDrawn, ends⟩)
  obtain ⟨e, isEdge, same⟩ := List.mem_map.mp connected
  exact ⟨e, isEdge, (Prod.mk.inj same).1, (Prod.mk.inj same).2⟩

theorem inCycle_iff (run : DependencyGraph.ofContainer c limit = .ok g) {row : String × Node}
    (member : row ∈ g.nodes) : row.2.inCycle = true ↔
      ∃ u v, c.Circling limit u v ∧ ¬c.Covers limit u v ∧ (row.1 = u ∨ row.1 = v) := by
  have marked : row.2.inCycle = true ↔ ∃ e ∈ g.edges, e.label = true ∧ (row.1 = e.source ∨ row.1 = e.target) := by
    obtain ⟨drawn, _, rfl⟩ := exists_addReferences run
    exact inCycle_markCycles member
  rw [marked]
  constructor
  · rintro ⟨e, isEdge, labelled, isEnd⟩
    obtain ⟨circling, uncovered⟩ := (label_markCycles run isEdge).mp labelled
    exact ⟨e.source, e.target, circling, uncovered, isEnd⟩
  · rintro ⟨u, v, circling, uncovered, isEnd⟩
    obtain ⟨e, isEdge, rfl, rfl⟩ := circling.exists_edge run
    exact ⟨e, isEdge, (label_markCycles run isEdge).mpr ⟨circling, uncovered⟩, isEnd⟩

/-- Of the edges on cycles exactly those are marked that no client covers, and of the nodes exactly the ends of
marked edges. So all that lies on cycles is marked exactly if no client covers an edge on a cycle. -/
theorem dependencyGraph_marks (run : DependencyGraph.ofContainer c limit = .ok g) :
    (∀ e ∈ g.edges, e.label = true ↔ c.Circling limit e.source e.target ∧ ¬c.Covers limit e.source e.target) ∧
    (∀ row ∈ g.nodes, row.2.inCycle = true ↔ ∃ u v, c.Circling limit u v ∧ ¬c.Covers limit u v ∧
      (row.1 = u ∨ row.1 = v)) ∧
    (c.MarksCycles limit g ↔ ∀ u v, c.Circling limit u v → ¬c.Covers limit u v) := by
  refine ⟨fun e isEdge => label_markCycles run isEdge, fun row isNode => inCycle_iff run isNode,
    fun marks u v circling => ?_, fun uncovered => ⟨fun e isEdge => ?_, fun row isNode => ?_⟩⟩
  · obtain ⟨e, isEdge, rfl, rfl⟩ := circling.exists_edge run
    have labelled := (marks.edges e isEdge).mpr circling
    exact ((label_markCycles run isEdge).mp labelled).2
  · rw [label_markCycles run isEdge]
    exact and_iff_left_of_imp (uncovered e.source e.target)
  · rw [inCycle_iff run isNode]
    refine exists_congr fun u => exists_congr fun v => and_congr_right fun circling => ?_
    exact and_iff_right (uncovered u v circling)

/-- Where there are no clients, all edges and nodes on cycles are marked. -/
theorem forked_marks : ∃ g, DependencyGraph.ofContainer forked (500 : Nat) = .ok g ∧ forked.MarksCycles 500 g ∧
    forked.Circling 500 "A" "B" := by
  obtain ⟨g, run⟩ := exists_dependencyGraph (c := forked) (by decide) (500 : Nat)
  obtain ⟨_, _, exact_iff⟩ := dependencyGraph_marks run
  have ofVariables : ∀ r ∈ forked.references, r.kind = .variable := by simp [forked_references]
  refine ⟨g, run, exact_iff.mpr fun u v _ => ?_, ?_⟩
  · rintro ⟨r, member, isClient, _⟩
    cases isClient.symm.trans (ofVariables r member)
  · exact ⟨⟨⟨.variable, "", "A", "B"⟩, by simp [forked_references], rfl, ⟨rfl, fun _ => rfl⟩, rfl⟩,
      mem_cycleEdges_iff.mp (by decide)⟩

/-- Two variables that reference each other, one of them with the name of the node of a client that references the
other one. -/
def homonymous : Container :=
  let version := [("variable", Json.arr [textVariable "client:GA4" (Text.reference "Page"),
    textVariable "Page" (Text.reference "client:GA4")]),
    ("client", .arr [textVariable "GA4" (Text.reference "Page")])]
  ⟨[("containerVersion", .obj version)], version, true, none, rfl⟩

def homonymousGraph : DependencyGraph :=
  ⟨[("Page", ⟨.component .variable, "other", "Page", true⟩),
      ("client:GA4", ⟨.component .variable, "other", "client:GA4", true⟩)],
    [⟨"client:GA4", "Page", false⟩, ⟨"Page", "client:GA4", true⟩]⟩

/-- The edge that the variable and the client share lies on a cycle and is not marked: the client is read last. -/
theorem homonymous_unmarked : DependencyGraph.ofContainer homonymous (500 : Nat) = .ok homonymousGraph ∧
    homonymous.Circling 500 "client:GA4" "Page" ∧ ¬homonymous.MarksCycles 500 homonymousGraph := by
  have circling : homonymous.Circling 500 "client:GA4" "Page" :=
    ⟨⟨⟨.variable, "", "client:GA4", "Page"⟩, List.mem_cons_self, rfl, ⟨rfl, fun _ => rfl⟩, rfl⟩,
      mem_cycleEdges_iff.mp (by decide)⟩
  refine ⟨rfl, circling, fun marks => ?_⟩
  have marked := (marks.edges ⟨"client:GA4", "Page", false⟩ List.mem_cons_self).mpr circling
  cases marked

end Container

end TagAudit

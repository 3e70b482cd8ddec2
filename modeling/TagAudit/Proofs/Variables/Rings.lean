import TagAudit.Proofs.Variables.Agreement

namespace TagAudit

open Relation

/-- A path can be shortened to one that comes to no name twice. -/
theorem exists_nodup_path {r : String → String → Prop} {u v : String} (path : ReflTransGen r v u) :
    ∃ ring : List String, ring.Nodup ∧ ring.IsChain r ∧ ring.head? = some v ∧ ring.getLast? = some u := by
  induction path using ReflTransGen.head_induction_on with
  | refl => exact ⟨[u], by simp, List.isChain_singleton u, rfl, rfl⟩
  | @head v w leads _ ih =>
    obtain ⟨ring, nodup, chain, first, last⟩ := ih
    by_cases again : v ∈ ring
    · -- The path comes back to `v`, so what lies between is left out.
      obtain ⟨between, behind, rfl⟩ := List.append_of_mem again
      refine ⟨v :: behind, nodup.of_append_right, chain.right_of_append, rfl, ?_⟩
      rw [← last, List.getLast?_append_of_ne_nil _ (List.cons_ne_nil v behind)]
    · refine ⟨v :: ring, List.nodup_cons.mpr ⟨again, nodup⟩, List.isChain_cons.mpr ⟨?_, chain⟩, rfl, ?_⟩
      · exact fun next isFirst => Option.some.inj (first.symm.trans isFirst) ▸ leads
      · rw [List.getLast?_cons, last]
        rfl

theorem reflTransGen_of_path {r : String → String → Prop} {u v : String} {path : List String}
    (chain : path.IsChain r) (first : path.head? = some v) (last : path.getLast? = some u) :
    ReflTransGen r v u := by
  obtain ⟨rest, rfl⟩ := List.head?_eq_some_iff.mp first
  refine List.relationReflTransGen_of_exists_isChain_cons rest chain ?_
  rw [List.getLast?_eq_some_getLast (List.cons_ne_nil v rest)] at last
  exact Option.some.inj last

namespace Digraph

variable {ν ε : Type} {g : Digraph ν ε} {u v : String}

/-- The edge from `u` to `v` closes a ring: different nodes, each with an edge to the next one, from `v`
on and up to `u`. -/
def ClosesRing (g : Digraph ν ε) (u v : String) : Prop :=
  g.Links u v ∧ ∃ ring : List String, ring.Nodup ∧ ring.IsChain g.Links ∧
    ring.head? = some v ∧ ring.getLast? = some u

theorem closesRing_iff : g.ClosesRing u v ↔ g.Links u v ∧ ReflTransGen g.Links v u := by
  refine and_congr_right fun _ => ⟨?_, exists_nodup_path⟩
  rintro ⟨ring, _, chain, first, last⟩
  exact reflTransGen_of_path chain first last

/-- The edges on cycles are those from whose target a path leads back to their source, which are those
that close a ring, whatever list of the components is used to find them. -/
theorem edgesOnCycles_exact (wellFormed : g.WellFormed) {components : List (List String)}
    (correct : g.IsComponents components) :
    (g.edgesOnCycles components).Nodup ∧
    (∀ u v, (u, v) ∈ g.edgesOnCycles components ↔ g.Links u v ∧ ReflTransGen g.Links v u) ∧
    (∀ u v, (u, v) ∈ g.edgesOnCycles components ↔ g.ClosesRing u v) ∧
    ∀ e, e ∈ g.cycleEdges ↔ e ∈ g.edgesOnCycles components := by
  refine ⟨distinct_nodup _, fun u v => mem_edgesOnCycles wellFormed correct, fun u v => ?_, fun (u, v) => ?_⟩
  · rw [mem_edgesOnCycles wellFormed correct, closesRing_iff]
  · rw [cycleEdges, mem_edgesOnCycles wellFormed (isComponents_components wellFormed),
      mem_edgesOnCycles wellFormed correct]

end Digraph

namespace Container

/-- Variables A and B reference each other, B references C, and C references itself. -/
def bridged : Container :=
  let version := [("variable", Json.arr [textVariable "A" (Text.reference "B"),
    textVariable "B" (Text.reference "A" ++ Text.reference "C"), textVariable "C" (Text.reference "C")])]
  ⟨[("containerVersion", .obj version)], version, false, none, rfl⟩

theorem bridged_components : bridged.referenceGraph.IsComponents [["A", "B"], ["C"]] := by
  have parts : bridged.referenceGraph.components = [["A", "B"], ["C"]] := by decide
  exact parts ▸ Digraph.isComponents_components bridged.wellFormed_referenceGraph

/-- The reference from B to C leads from one cycle to another and lies on none. -/
theorem bridged_exact : bridged.referenceGraph.WellFormed ∧
    bridged.referenceGraph.IsComponents [["A", "B"], ["C"]] ∧
    bridged.referenceGraph.ClosesRing "B" "A" ∧ bridged.referenceGraph.ClosesRing "C" "C" ∧
    bridged.referenceGraph.Links "B" "C" ∧ ¬ ReflTransGen bridged.referenceGraph.Links "C" "B" := by
  obtain ⟨_, byPath, byRing, _⟩ :=
    Digraph.edgesOnCycles_exact bridged.wellFormed_referenceGraph bridged_components
  have links : ("B", "C") ∈ bridged.referenceGraph.ends := by decide
  refine ⟨bridged.wellFormed_referenceGraph, bridged_components, (byRing "B" "A").mp (by decide),
    (byRing "C" "C").mp (by decide), links, fun back => ?_⟩
  exact absurd ((byPath "B" "C").mpr ⟨links, back⟩) (by decide)

end Container

end TagAudit

import Mathlib.Data.List.Nodup
import TagAudit.Container.Graph

namespace TagAudit

def Edge.ends {ε : Type} (e : Edge ε) : String × String := (e.source, e.target)

namespace Digraph

variable {ν ε : Type} {g : Digraph ν ε} {u v : String}

/-- The pairs of names between which there is an edge. -/
def ends (g : Digraph ν ε) : List (String × String) := g.edges.map Edge.ends

theorem hasEdge_iff : g.hasEdge u v = true ↔ (u, v) ∈ g.ends := by
  simp only [hasEdge, List.any_eq_true, Bool.and_eq_true, beq_iff_eq, ends, List.mem_map, Edge.ends,
    Prod.mk.injEq]

theorem ends_setEdge (g : Digraph ν ε) (u v : String) (label : ε) :
    (g.setEdge u v label).ends = if (u, v) ∈ g.ends then g.ends else g.ends ++ [(u, v)] := by
  unfold setEdge
  by_cases present : (u, v) ∈ g.ends
  · rw [if_pos (hasEdge_iff.mpr present), if_pos present]
    simp only [ends, List.map_map]
    refine List.map_congr_left fun e _ => ?_
    by_cases same : e.source = u ∧ e.target = v
    · simp [Edge.ends, same]
    · simp [Edge.ends, same]
  · rw [if_neg (mt hasEdge_iff.mp present), if_neg present]
    simp [ends, Edge.ends]

@[simp]
theorem ends_addNode (g : Digraph ν ε) (name : String) (label : ν) :
    (g.addNode name label).ends = g.ends := by
  unfold addNode
  split
  · rfl
  · rfl

@[simp]
theorem ends_setNode (g : Digraph ν ε) (name : String) (label : ν) :
    (g.setNode name label).ends = g.ends := by
  unfold setNode
  split
  · rfl
  · rfl

theorem successors_eq (g : Digraph ν ε) (u : String) :
    g.successors u = (g.ends.filter (·.1 == u)).map (·.2) := by
  simp only [successors, ends, List.filter_map, List.map_map]
  rfl

theorem mem_successors_iff : v ∈ g.successors u ↔ (u, v) ∈ g.ends := by
  rw [successors_eq, List.mem_map]
  constructor
  · rintro ⟨⟨source, target⟩, member, rfl⟩
    obtain ⟨edge, same⟩ := List.mem_filter.mp member
    exact beq_iff_eq.mp same ▸ edge
  · exact fun edge => ⟨(u, v), List.mem_filter.mpr ⟨edge, beq_self_eq_true u⟩, rfl⟩

theorem successors_nodup (nodup : g.ends.Nodup) : (g.successors u).Nodup := by
  rw [successors_eq]
  refine (nodup.filter _).map_on fun first one second other same => ?_
  have fromU := beq_iff_eq.mp (List.mem_filter.mp one).2
  have alsoFromU := beq_iff_eq.mp (List.mem_filter.mp other).2
  exact Prod.ext (fromU.trans alsoFromU.symm) same

end Digraph

namespace Container

variable {c : Container} {u v : String}

theorem ends_addReference (g : Digraph (Option Json) Unit) (r : Reference) :
    (addReference g r).ends =
      if (r.source, r.target) ∈ g.ends then g.ends else g.ends ++ [(r.source, r.target)] := by
  rw [addReference, Digraph.ends_setEdge]
  simp

theorem ends_addReferences (references : List Reference) {g : Digraph (Option Json) Unit}
    (nodup : g.ends.Nodup) :
    (references.foldl addReference g).ends.Nodup ∧
      ∀ e, e ∈ (references.foldl addReference g).ends ↔
        e ∈ g.ends ∨ ∃ r ∈ references, e = (r.source, r.target) := by
  induction references generalizing g with
  | nil => simp [nodup]
  | cons r rest ih =>
    have added : (addReference g r).ends.Nodup ∧
        ∀ e, e ∈ (addReference g r).ends ↔ e ∈ g.ends ∨ e = (r.source, r.target) := by
      rw [ends_addReference]
      split
      · rename_i present
        exact ⟨nodup, fun e => ⟨Or.inl, fun either => either.elim id fun same => same ▸ present⟩⟩
      · rename_i absent
        exact ⟨List.concat_eq_append ▸ nodup.concat absent, by simp⟩
    obtain ⟨distinct, members⟩ := ih added.1
    refine ⟨distinct, fun e => ?_⟩
    rw [List.foldl_cons, members, added.2]
    simp [or_assoc]

/-- A reference of an existing variable to an existing variable. Several variables of one name count
as one. -/
def Mentions (c : Container) (u v : String) : Prop :=
  u ∈ c.variableNames ∧ v ∈ c.variableNames ∧
    ∃ w ∈ c.userVariables, w.name = u ∧ v ∈ w.references .variable

theorem mem_variableNames : u ∈ c.variableNames ↔ u ≠ "" ∧ ∃ w ∈ c.userVariables, w.name = u := by
  simp [variableNames, and_comm]

/-- A variable can be looked up by exactly the names of variables. -/
theorem mem_variableNames_iff : u ∈ c.variableNames ↔ (c.variableByName u).isSome = true := by
  rw [mem_variableNames, variableByName]
  by_cases empty : u = ""
  · simp [empty]
  · have named (w : Entity) : w.name = u ↔ (w.get "name").isStr u = true := by
      unfold Entity.name
      cases w.get "name" with
      | str s => simp [Json.textOrEmpty, Json.isStr]
      | _ => simp [Json.textOrEmpty, Json.isStr, Ne.symm empty]
    simp [empty, named, List.find?_isSome]

theorem mem_references_variable {r : Reference} :
    r ∈ c.references ∧ r.kind = .variable ↔
      ∃ w ∈ c.userVariables, r ∈ Reference.ofEntity .variable w := by
  simp only [references, Reference.ofEntity, List.mem_append, List.mem_flatMap, List.mem_map]
  constructor
  · rintro ⟨((⟨w, _, _, _, rfl⟩ | ⟨w, _, _, _, rfl⟩) | found) | ⟨w, _, _, _, rfl⟩, kind⟩
    · cases kind
    · cases kind
    · exact found
    · cases kind
  · rintro ⟨w, member, target, mentioned, rfl⟩
    exact ⟨Or.inl (Or.inr ⟨w, member, target, mentioned, rfl⟩), rfl⟩

theorem ends_declared (entities : List Entity) (g : Digraph (Option Json) Unit) :
    (entities.foldl (fun g v => g.setNode v.name (some (v.getOr "type" ""))) g).ends = g.ends := by
  induction entities generalizing g with
  | nil => rfl
  | cons v rest ih => rw [List.foldl_cons, ih, Digraph.ends_setNode]

theorem referenceGraph_ends (c : Container) :
    c.referenceGraph.ends.Nodup ∧ ∀ u v, (u, v) ∈ c.referenceGraph.ends ↔
      u ≠ "" ∧ ∃ w ∈ c.userVariables, w.name = u ∧ v ∈ w.references .variable := by
  let declared : Digraph (Option Json) Unit := (c.userVariables.filter fun v => !v.name.isEmpty).foldl
    (fun g v => g.setNode v.name (some (v.getOr "type" ""))) .empty
  have none : declared.ends = [] := ends_declared _ .empty
  obtain ⟨nodup, members⟩ := ends_addReferences
    (c.references.filter fun r => r.kind == .variable && !r.source.isEmpty)
    (none ▸ List.nodup_nil : declared.ends.Nodup)
  refine ⟨nodup, fun u v => (members (u, v)).trans ?_⟩
  simp only [none, List.not_mem_nil, false_or, List.mem_filter, Bool.and_eq_true, beq_iff_eq,
    Bool.not_eq_true', Prod.mk.injEq]
  constructor
  · rintro ⟨r, ⟨member, kind, named⟩, rfl, rfl⟩
    obtain ⟨w, found, ofEntity⟩ := mem_references_variable.mp ⟨member, kind⟩
    obtain ⟨target, mentioned, rfl⟩ := List.mem_map.mp ofEntity
    exact ⟨by simpa using named, w, found, rfl, mentioned⟩
  · rintro ⟨named, w, found, rfl, mentioned⟩
    have made := List.mem_map_of_mem (f := fun target =>
      (⟨.variable, w.idOrEmpty Kind.variable.idField, w.name, target⟩ : Reference)) mentioned
    obtain ⟨member, kind⟩ := mem_references_variable.mpr ⟨w, found, made⟩
    exact ⟨_, ⟨member, kind, by simpa using named⟩, rfl, rfl⟩

theorem mem_knownReferences : v ∈ c.knownReferences u ↔ c.Mentions u v := by
  rw [knownReferences, List.mem_filter, Digraph.mem_successors_iff, (referenceGraph_ends c).2,
    List.contains_iff_mem, Mentions, mem_variableNames (u := u)]
  constructor
  · rintro ⟨⟨named, w, found, isU, mentioned⟩, known⟩
    exact ⟨⟨named, w, found, isU⟩, known, w, found, isU, mentioned⟩
  · rintro ⟨⟨named, _⟩, known, mentioned⟩
    exact ⟨⟨named, mentioned⟩, known⟩

theorem knownReferences_nodup (c : Container) (u : String) : (c.knownReferences u).Nodup :=
  (Digraph.successors_nodup (referenceGraph_ends c).1).filter _

end Container

end TagAudit

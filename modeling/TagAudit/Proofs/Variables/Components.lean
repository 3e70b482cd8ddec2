import Mathlib.Data.List.Perm.Subperm
import Mathlib.Logic.Relation
import TagAudit.Proofs.Variables.References

namespace TagAudit

open Relation

namespace Reach

variable {successors : String → List String} {targets frontier seen names : List String} {v : String}

theorem mem_fresh : v ∈ fresh seen names ↔ v ∈ names ∧ v ∉ seen := by
  induction names generalizing seen with
  | nil => simp [fresh]
  | cons name rest ih =>
    rw [fresh]
    by_cases known : name ∈ seen
    · rw [if_pos (by simpa using known), ih, List.mem_cons]
      constructor
      · exact fun found => ⟨Or.inr found.1, found.2⟩
      · rintro ⟨rfl | later, new⟩
        · exact absurd known new
        · exact ⟨later, new⟩
    · rw [if_neg (by simpa using known), List.mem_cons, ih, List.mem_cons, List.mem_cons]
      by_cases same : v = name
      · simp [same, known]
      · simp [same]

theorem length_unseen_lt {news : List String} (isTarget : v ∈ targets) (unseen : v ∉ seen)
    (met : v ∈ news) :
    (targets.filter (· ∉ news ++ seen)).length < (targets.filter (· ∉ seen)).length := by
  have parts : targets.filter (· ∉ news ++ seen) =
      (targets.filter (· ∉ seen)).filter (· ∉ news) := by
    rw [List.filter_filter]
    refine List.filter_congr fun w _ => ?_
    simp
  rw [parts, List.length_filter_lt_length_iff_exists]
  exact ⟨v, List.mem_filter.mpr ⟨isTarget, by simpa using unseen⟩, by simpa using met⟩

/-- All that can be reached from some names, and nothing else. -/
structure Closure (successors : String → List String) (start found : List String) : Prop where
  starts : start ⊆ found
  closed : ∀ w ∈ found, successors w ⊆ found
  reached : ∀ w ∈ found, ∃ u ∈ start, ReflTransGen (fun a b => b ∈ successors a) u w

theorem closure_self (closed : ∀ w ∈ seen, successors w ⊆ seen) : Closure successors seen seen :=
  ⟨List.Subset.refl seen, closed, fun w member => ⟨w, member, .refl⟩⟩

theorem mem_closure {u : String} (closure : Closure successors [u] names) :
    v ∈ names ↔ ReflTransGen (fun a b => b ∈ successors a) u v := by
  constructor
  · intro member
    obtain ⟨start, isStart, path⟩ := closure.reached v member
    exact List.mem_singleton.mp isStart ▸ path
  · intro path
    induction path with
    | refl => exact closure.starts (List.mem_singleton_self u)
    | tail _ leads ih => exact closure.closed _ ih leads

/-- Each round meets a target that was not seen before, so there are at most as many rounds as
targets. -/
theorem closure_within (bounded : ∀ w, successors w ⊆ targets) {steps : Nat}
    (enough : (targets.filter (· ∉ seen)).length ≤ steps) (inside : frontier ⊆ seen)
    (done : ∀ w ∈ seen, w ∉ frontier → successors w ⊆ seen) :
    Closure successors seen (within successors steps frontier seen) := by
  induction steps generalizing frontier seen with
  | zero =>
    have none := List.eq_nil_of_length_eq_zero (Nat.le_zero.mp enough)
    refine closure_self fun w _ target leads => ?_
    by_contra unseen
    have left : target ∈ targets.filter (· ∉ seen) :=
      List.mem_filter.mpr ⟨bounded w leads, decide_eq_true unseen⟩
    exact List.not_mem_nil (none ▸ left)
  | succ steps ih =>
    have fresh_iff (w : String) : w ∈ fresh seen (frontier.flatMap successors) ↔
        (∃ u ∈ frontier, w ∈ successors u) ∧ w ∉ seen := by
      rw [mem_fresh, List.mem_flatMap]
    have fresh_of_leads {w target : String} (member : w ∈ seen) (leads : target ∈ successors w)
        (unseen : target ∉ seen) : target ∈ fresh seen (frontier.flatMap successors) := by
      refine (fresh_iff target).mpr ⟨⟨w, ?_, leads⟩, unseen⟩
      by_contra outside
      exact unseen (done w member outside leads)
    rw [within]
    split
    · rename_i nothing
      refine closure_self fun w member target leads => ?_
      by_contra unseen
      exact List.not_mem_nil (nothing ▸ fresh_of_leads member leads unseen)
    · rename_i something
      generalize fresh seen (frontier.flatMap successors) = news at fresh_iff fresh_of_leads something ⊢
      obtain ⟨first, met⟩ := List.exists_mem_of_ne_nil news something
      obtain ⟨⟨before, _, leadsToFirst⟩, unseen⟩ := (fresh_iff first).mp met
      have fewer : (targets.filter (· ∉ news ++ seen)).length ≤ steps := by
        have less := length_unseen_lt (bounded before leadsToFirst) unseen met
        omega
      have rest := ih fewer (List.subset_append_left news seen) fun w member notNew => by
        have old : w ∈ seen := (List.mem_append.mp member).resolve_left notNew
        intro target leads
        by_cases again : target ∈ seen
        · exact List.mem_append_right news again
        · exact List.mem_append_left seen (fresh_of_leads old leads again)
      refine ⟨List.Subset.trans (List.subset_append_right news seen) rest.starts, rest.closed, ?_⟩
      intro w member
      obtain ⟨u, start, path⟩ := rest.reached w member
      rcases List.mem_append.mp start with new | old
      · obtain ⟨⟨parent, atFrontier, leads⟩, _⟩ := (fresh_iff u).mp new
        exact ⟨parent, inside atFrontier, path.head leads⟩
      · exact ⟨u, old, path⟩

end Reach

namespace Digraph

variable {ν ε : Type} {g : Digraph ν ε} {u v : String}

def Links (g : Digraph ν ε) (u v : String) : Prop := (u, v) ∈ g.ends

theorem mem_reachable : v ∈ g.reachable u ↔ ReflTransGen g.Links u v := by
  have bounded (w : String) : g.successors w ⊆ g.edges.map (·.target) := by
    intro target leads
    obtain ⟨e, member, same⟩ := List.mem_map.mp leads
    exact List.mem_map.mpr ⟨e, (List.mem_filter.mp member).1, same⟩
  have enough : ((g.edges.map (·.target)).filter (· ∉ [u])).length ≤ g.edges.length := by
    have fewer := List.length_filter_le (· ∉ [u]) (g.edges.map (·.target))
    rwa [List.length_map] at fewer
  have found : Reach.Closure g.successors [u] (g.reachable u) :=
    Reach.closure_within bounded enough (List.Subset.refl [u]) fun w member outside =>
      absurd member outside
  have links : (fun a b => b ∈ g.successors a) = g.Links :=
    funext₂ fun a b => propext mem_successors_iff
  rw [Reach.mem_closure found, links]

/-- What is relied on of the strongly connected components of a graph. -/
structure IsComponents (g : Digraph ν ε) (components : List (List String)) : Prop where
  covers : ∀ u, g.hasNode u = true → ∃ names ∈ components, u ∈ names
  nodup : ∀ names ∈ components, names.Nodup
  connected : ∀ names ∈ components, ∀ u ∈ names, ∀ v,
    v ∈ names ↔ ReflTransGen g.Links u v ∧ ReflTransGen g.Links v u

def names (g : Digraph ν ε) : List String := g.nodes.map (·.1)

/-- A graph whose nodes have different names and whose edges are between its nodes. -/
structure WellFormed (g : Digraph ν ε) : Prop where
  nodup : g.names.Nodup
  source_known : ∀ u v, g.Links u v → g.hasNode u = true
  target_known : ∀ u v, g.Links u v → g.hasNode v = true

theorem hasNode_iff : g.hasNode u = true ↔ u ∈ g.names := by
  simp [hasNode, names]

theorem WellFormed.known_of_reach (wellFormed : g.WellFormed) (known : g.hasNode u = true)
    (reach : ReflTransGen g.Links u v) : g.hasNode v = true := by
  cases reach with
  | refl => exact known
  | tail _ links => exact wellFormed.target_known _ v links

theorem mem_components {names : List String} : names ∈ g.components ↔ ∃ u, g.hasNode u = true ∧
    names = g.names.filter fun v =>
      (g.reachable u).contains v && (g.reachable v).contains u := by
  simp only [components, mem_distinct, List.map_map, List.mem_map, hasNode_iff, List.filter_map,
    Digraph.names]
  constructor
  · rintro ⟨node, member, rfl⟩
    exact ⟨node.1, ⟨node, member, rfl⟩, rfl⟩
  · rintro ⟨_, ⟨node, member, rfl⟩, rfl⟩
    exact ⟨node, member, rfl⟩

theorem isComponents_components (wellFormed : g.WellFormed) : g.IsComponents g.components := by
  have member_iff (u v : String) : v ∈ g.names.filter (fun v =>
      (g.reachable u).contains v && (g.reachable v).contains u) ↔
        g.hasNode v = true ∧ ReflTransGen g.Links u v ∧ ReflTransGen g.Links v u := by
    simp only [List.mem_filter, ← hasNode_iff, Bool.and_eq_true, List.contains_iff_mem, mem_reachable]
  constructor
  · intro u known
    exact ⟨_, mem_components.mpr ⟨u, known, rfl⟩, (member_iff u u).mpr ⟨known, .refl, .refl⟩⟩
  · intro names component
    obtain ⟨u, _, rfl⟩ := mem_components.mp component
    exact wellFormed.nodup.filter _
  · intro names component w isMember v
    obtain ⟨u, known, rfl⟩ := mem_components.mp component
    obtain ⟨isNode, toW, fromW⟩ := (member_iff u w).mp isMember
    rw [member_iff]
    constructor
    · rintro ⟨_, toV, fromV⟩
      exact ⟨fromW.trans toV, fromV.trans toW⟩
    · rintro ⟨out, home⟩
      exact ⟨wellFormed.known_of_reach isNode out, toW.trans out, home.trans fromW⟩

/-- An edge lies on a cycle if one gets back from its target to its source. -/
theorem mem_edgesOnCycles (wellFormed : g.WellFormed) {components : List (List String)}
    (correct : g.IsComponents components) :
    (u, v) ∈ g.edgesOnCycles components ↔ g.Links u v ∧ ReflTransGen g.Links v u := by
  have edge_iff : (∃ e ∈ g.edges, (e.source, e.target) = (u, v)) ↔ g.Links u v := by
    simp [Links, ends, Edge.ends]
  simp only [edgesOnCycles, mem_distinct, List.mem_map, List.mem_append, List.mem_flatMap,
    List.mem_filter]
  constructor
  · rintro ⟨e, ⟨names, member, inside⟩ | ⟨isEdge, loop⟩, same⟩
    · split at inside
      · obtain ⟨isEdge, both⟩ := List.mem_filter.mp inside
        simp only [Bool.and_eq_true, List.contains_iff_mem] at both
        obtain ⟨rfl, rfl⟩ := Prod.mk.inj same
        exact ⟨edge_iff.mp ⟨e, isEdge, rfl⟩,
          ((correct.connected names member e.source both.1 e.target).mp both.2).2⟩
      · cases inside
    · obtain ⟨rfl, rfl⟩ := Prod.mk.inj same
      refine ⟨edge_iff.mp ⟨e, isEdge, rfl⟩, ?_⟩
      rw [beq_iff_eq.mp loop]
  · rintro ⟨links, back⟩
    obtain ⟨e, isEdge, same⟩ := edge_iff.mpr links
    obtain ⟨rfl, rfl⟩ := Prod.mk.inj same
    refine ⟨e, ?_, rfl⟩
    by_cases loop : e.source = e.target
    · exact Or.inr ⟨isEdge, beq_iff_eq.mpr loop⟩
    · obtain ⟨names, member, hasSource⟩ :=
        correct.covers e.source (wellFormed.source_known _ _ links)
      have hasTarget : e.target ∈ names :=
        (correct.connected names member e.source hasSource e.target).mpr ⟨.single links, back⟩
      have several : 1 < names.length := by
        have pair : [e.source, e.target].Nodup := by simpa using loop
        have both : [e.source, e.target] ⊆ names := by simp [hasSource, hasTarget]
        exact (List.subperm_of_subset pair both).length_le
      refine Or.inl ⟨names, member, ?_⟩
      rw [if_pos several]
      exact List.mem_filter.mpr ⟨isEdge, by simp [hasSource, hasTarget]⟩

theorem names_setNode (g : Digraph ν ε) (name : String) (label : ν) :
    (g.setNode name label).names = if name ∈ g.names then g.names else g.names ++ [name] := by
  unfold setNode
  by_cases known : name ∈ g.names
  · rw [if_pos (hasNode_iff.mpr known), if_pos known]
    simp [names, Function.comp_def]
  · rw [if_neg (mt hasNode_iff.mp known), if_neg known]
    simp [names]

theorem names_addNode (g : Digraph ν ε) (name : String) (label : ν) :
    (g.addNode name label).names = if name ∈ g.names then g.names else g.names ++ [name] := by
  unfold addNode
  by_cases known : name ∈ g.names
  · rw [if_pos (hasNode_iff.mpr known), if_pos known]
  · rw [if_neg (mt hasNode_iff.mp known), if_neg known]
    simp [names]

@[simp]
theorem names_setEdge (g : Digraph ν ε) (source target : String) (label : ε) :
    (g.setEdge source target label).names = g.names := by
  unfold setEdge
  split
  · rfl
  · rfl

theorem mem_names_of_grown {h : Digraph ν ε} {name : String}
    (grown : h.names = if name ∈ g.names then g.names else g.names ++ [name]) :
    u ∈ h.names ↔ u ∈ g.names ∨ u = name := by
  rw [grown]
  split
  · rename_i known
    exact ⟨Or.inl, fun either => either.elim id fun same => same ▸ known⟩
  · simp

theorem wellFormed_empty : (empty : Digraph ν ε).WellFormed where
  nodup := List.nodup_nil
  source_known u v links := by cases links
  target_known u v links := by cases links

theorem WellFormed.grow (wellFormed : g.WellFormed) {h : Digraph ν ε} {name : String}
    (sameEnds : h.ends = g.ends)
    (grown : h.names = if name ∈ g.names then g.names else g.names ++ [name]) : h.WellFormed := by
  have keeps (u : String) (known : g.hasNode u = true) : h.hasNode u = true :=
    hasNode_iff.mpr ((mem_names_of_grown grown).mpr (Or.inl (hasNode_iff.mp known)))
  have links_iff (u v : String) : h.Links u v ↔ g.Links u v := by rw [Links, Links, sameEnds]
  refine ⟨?_, fun u v links => ?_, fun u v links => ?_⟩
  · rw [grown]
    split
    · exact wellFormed.nodup
    · rename_i new
      exact List.concat_eq_append ▸ wellFormed.nodup.concat new
  · exact keeps u (wellFormed.source_known u v ((links_iff u v).mp links))
  · exact keeps v (wellFormed.target_known u v ((links_iff u v).mp links))

theorem WellFormed.setEdge (wellFormed : g.WellFormed) (label : ε) (source : u ∈ g.names)
    (target : v ∈ g.names) : (g.setEdge u v label).WellFormed := by
  have known_iff (w : String) : (g.setEdge u v label).hasNode w = true ↔ g.hasNode w = true := by
    rw [hasNode_iff, names_setEdge, hasNode_iff]
  have old_or_new {a b : String} (links : (g.setEdge u v label).Links a b) :
      g.Links a b ∨ (a = u ∧ b = v) := by
    rw [Links, ends_setEdge] at links
    split at links
    · exact Or.inl links
    · exact (List.mem_append.mp links).imp_right fun new => by simpa using new
  refine ⟨?_, fun a b links => (known_iff a).mpr ?_, fun a b links => (known_iff b).mpr ?_⟩
  · rw [names_setEdge]
    exact wellFormed.nodup
  · rcases old_or_new links with old | ⟨rfl, rfl⟩
    · exact wellFormed.source_known a b old
    · exact hasNode_iff.mpr source
  · rcases old_or_new links with old | ⟨rfl, rfl⟩
    · exact wellFormed.target_known a b old
    · exact hasNode_iff.mpr target

end Digraph

namespace Container

theorem wellFormed_addReference {g : Digraph (Option Json) Unit} (wellFormed : g.WellFormed)
    (r : Reference) : (addReference g r).WellFormed := by
  have source := g.names_addNode r.source none
  have target := (g.addNode r.source none).names_addNode r.target none
  have first := wellFormed.grow (g.ends_addNode r.source none) source
  have second := first.grow (Digraph.ends_addNode _ r.target none) target
  refine second.setEdge () ?_ ?_
  · exact (Digraph.mem_names_of_grown target).mpr
      (Or.inl ((Digraph.mem_names_of_grown source).mpr (Or.inr rfl)))
  · exact (Digraph.mem_names_of_grown target).mpr (Or.inr rfl)

theorem wellFormed_referenceGraph (c : Container) : c.referenceGraph.WellFormed := by
  refine List.foldlRecOn (motive := Digraph.WellFormed) _ _ ?_ fun g wellFormed r _ =>
    wellFormed_addReference wellFormed r
  exact List.foldlRecOn (motive := Digraph.WellFormed) _ _ Digraph.wellFormed_empty
    fun g wellFormed v _ =>
      wellFormed.grow (g.ends_setNode v.name _) (g.names_setNode v.name _)

end Container

end TagAudit

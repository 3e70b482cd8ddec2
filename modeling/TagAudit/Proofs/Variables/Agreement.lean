import TagAudit.Proofs.Variables.Components
import TagAudit.Proofs.Variables.Cycles

namespace TagAudit.Container

open Relation

variable {c : Container} {components : List (List String)} {u v : String}

/-- A variable that a reported circular reference names. -/
def Named (c : Container) (v : String) : Prop := ∃ path ∈ c.circularReferences, v ∈ path

/-- A variable at an end of an edge that is drawn as part of a cycle. -/
def Drawn (c : Container) (components : List (List String)) (v : String) : Prop :=
  ∃ e ∈ c.referenceGraph.edgesOnCycles components, v = e.1 ∨ v = e.2

theorem links_known (links : c.referenceGraph.Links u v) : u ∈ c.variableNames := by
  obtain ⟨named, w, member, isU, _⟩ := ((referenceGraph_ends c).2 u v).mp links
  exact mem_variableNames.mpr ⟨named, w, member, isU⟩

theorem mentions_iff_links : c.Mentions u v ↔ c.referenceGraph.Links u v ∧ v ∈ c.variableNames := by
  constructor
  · rintro ⟨isU, isV, mentioned⟩
    exact ⟨((referenceGraph_ends c).2 u v).mpr ⟨(mem_variableNames.mp isU).1, mentioned⟩, isV⟩
  · rintro ⟨links, isV⟩
    exact ⟨links_known links, isV, (((referenceGraph_ends c).2 u v).mp links).2⟩

theorem transGen_mentions (path : TransGen c.referenceGraph.Links u v) (isV : v ∈ c.variableNames) :
    TransGen c.Mentions u v := by
  induction path using TransGen.head_induction_on with
  | single links => exact .single (mentions_iff_links.mpr ⟨links, isV⟩)
  | head links rest ih =>
    obtain ⟨w, behind, _⟩ := TransGen.head'_iff.mp rest
    exact .head (mentions_iff_links.mpr ⟨links, links_known behind⟩) ih

/-- Only variables have references, so a cycle never leaves them. -/
theorem transGen_links_iff :
    TransGen c.referenceGraph.Links v v ↔ TransGen c.Mentions v v := by
  constructor
  · intro circle
    obtain ⟨w, first, _⟩ := TransGen.head'_iff.mp circle
    exact transGen_mentions circle (links_known first)
  · exact fun circle => TransGen.mono (fun _ _ mentions => (mentions_iff_links.mp mentions).1) v v circle

theorem drawn_iff (correct : c.referenceGraph.IsComponents components) :
    c.Drawn components v ↔ TransGen c.Mentions v v := by
  rw [← transGen_links_iff]
  constructor
  · rintro ⟨e, onCycle, isEnd⟩
    obtain ⟨links, back⟩ := (Digraph.mem_edgesOnCycles c.wellFormed_referenceGraph correct).mp onCycle
    rcases isEnd with rfl | rfl
    · exact .head' links back
    · exact .tail' back links
  · intro circle
    obtain ⟨w, links, back⟩ := TransGen.head'_iff.mp circle
    exact ⟨(v, w), (Digraph.mem_edgesOnCycles c.wellFormed_referenceGraph correct).mpr ⟨links, back⟩,
      Or.inl rfl⟩

/-- What the reports of circular references and the drawing have in common: both tell which groups of
variables reference each other in circles. The drawing marks all variables of such a group, the
reports name those on cycles on which only one reference goes against the order of the search. -/
theorem named_and_drawn (c : Container) (correct : c.referenceGraph.IsComponents components) :
    (∀ v, c.Drawn components v ↔ TransGen c.Mentions v v) ∧
    (∃ final, Search.Visits c.knownReferences [] ⟨[], []⟩ c.variableNames final ∧
      ∀ v, c.Named v ↔ ∃ x rest, v ∈ x :: rest ∧ (x :: rest).Sublist final.visited.reverse ∧
        (x :: rest ++ [x]).IsChain c.Mentions) ∧
    (∀ v, c.Named v → c.Drawn components v) ∧
    ∀ v, c.Drawn components v →
      ∃ w, c.Named w ∧ ReflTransGen c.Mentions v w ∧ ReflTransGen c.Mentions w v := by
  obtain ⟨final, searched, found⟩ := c.exists_search
  obtain ⟨branch, survey⟩ := searched.survey
  have named_iff (v : String) : c.Named v ↔ ∃ path ∈ final.cycles, v ∈ path := by
    rw [Named, found]
    simp
  refine ⟨fun v => drawn_iff correct, ⟨final, searched, fun v => ?_⟩, fun v named => ?_,
    fun v drawn => ?_⟩
  · rw [named_iff, survey.exists_path_through_iff, leads_eq_mentions]
    refine exists₂_congr fun x rest => and_congr_right fun _ => and_congr_left fun _ => ?_
    rw [← List.reverse_sublist, List.reverse_reverse]
  · obtain ⟨path, reported, onPath⟩ := (named_iff v).mp named
    obtain ⟨x, rest, rfl, _, chain⟩ := survey.exists_path reported
    rw [drawn_iff correct, ← leads_eq_mentions]
    exact transGen_of_isChain chain (Search.mem_of_mem_round onPath)
  · obtain ⟨x, out, home, reported⟩ :=
      exists_circularReference searched ((drawn_iff correct).mp drawn)
    exact ⟨x, (named_iff x).mpr reported, out, home⟩

/-- A variable whose value is a text. -/
def textVariable (name text : String) : Json :=
  .obj [("name", name), ("parameter", .arr [.obj [("type", "template"), ("value", text)]])]

/-- Variable A references B and C, C references B, and B references A. -/
def forked : Container :=
  let version := [("variable", Json.arr [textVariable "A" (Text.reference "B" ++ Text.reference "C"),
    textVariable "B" (Text.reference "A"), textVariable "C" (Text.reference "B")])]
  ⟨[("containerVersion", .obj version)], version, false, none, rfl⟩

theorem forked_components : forked.referenceGraph.IsComponents [["A", "B", "C"]] := by
  have single : forked.referenceGraph.components = [["A", "B", "C"]] := by decide
  exact single ▸ Digraph.isComponents_components forked.wellFormed_referenceGraph

theorem forked_related : TransGen forked.Mentions "C" "C" ∧ ∃ w, forked.Named w ∧
    ReflTransGen forked.Mentions "C" w ∧ ReflTransGen forked.Mentions w "C" := by
  obtain ⟨drawn_iff, _, _, related⟩ := named_and_drawn forked forked_components
  have drawn : forked.Drawn [["A", "B", "C"]] "C" := ⟨("A", "C"), by decide, Or.inr rfl⟩
  exact ⟨(drawn_iff "C").mp drawn, related "C" drawn⟩

/-- The cycle A, C, B is drawn and not reported: the search comes to C when it has left B. -/
theorem forked_disagrees : forked.circularReferences = [["A", "B", "A"]] ∧
    forked.referenceGraph.IsComponents [["A", "B", "C"]] ∧
      ¬ ∀ v, forked.Named v ↔ forked.Drawn [["A", "B", "C"]] v := by
  have reported : forked.circularReferences = [["A", "B", "A"]] := by decide
  refine ⟨reported, forked_components, fun agree => ?_⟩
  obtain ⟨path, member, onPath⟩ := (agree "C").mpr ⟨("A", "C"), by decide, Or.inr rfl⟩
  rw [reported, List.mem_singleton] at member
  subst member
  exact absurd onPath (by decide)

end TagAudit.Container

import TagAudit.Proofs.Variables.References
import TagAudit.Proofs.Variables.Survey

namespace TagAudit

open Relation

/-- Who goes along a path back to where it starts comes from each of its names back to that name. -/
theorem transGen_of_isChain {r : String → String → Prop} {v x : String} {rest : List String}
    (chain : (x :: rest ++ [x]).IsChain r) (onPath : v ∈ x :: rest) : TransGen r v v := by
  have steps : (x :: rest ++ [x]).IsChain (TransGen r) := chain.imp fun _ _ => TransGen.single
  have ordered : (x :: rest ++ [x]).Pairwise (TransGen r) := steps.pairwise
  have home : TransGen r v x := (List.pairwise_append.mp ordered).2.2 v onPath x (by simp)
  rcases List.mem_cons.mp onPath with rfl | later
  · exact home
  · have out : TransGen r x v :=
      (List.pairwise_cons.mp ordered).1 v (List.mem_append_left _ later)
    exact home.trans out

namespace Container

variable {c : Container} {final : Search} {u v : String}

theorem knownReferences_subset (c : Container) (name : String) :
    c.knownReferences name ⊆ c.variableNames :=
  fun _ known => (mem_knownReferences.mp known).2.1

theorem leads_eq_mentions (c : Container) : Search.Leads c.knownReferences = c.Mentions :=
  funext₂ fun _ _ => propext mem_knownReferences

/-- The search for circular references comes to an end. -/
theorem exists_search (c : Container) :
    ∃ final, Search.Visits c.knownReferences [] ⟨[], []⟩ c.variableNames final ∧
      c.circularReferences = final.cycles.reverse :=
  Search.visits_cyclesFrom fun name _ => c.knownReferences_subset name

theorem exists_circularReference (searched : Search.Visits c.knownReferences [] ⟨[], []⟩ c.variableNames final)
    (circle : TransGen c.Mentions v v) :
    ∃ x, ReflTransGen c.Mentions v x ∧ ReflTransGen c.Mentions x v ∧ ∃ path ∈ final.cycles, x ∈ path := by
  obtain ⟨branch, survey⟩ := searched.survey
  obtain ⟨w, first, _⟩ := TransGen.head'_iff.mp circle
  rw [← leads_eq_mentions] at circle ⊢
  exact survey.exists_reported (survey.covers first.1) circle

theorem circularReferences_correct (c : Container) :
    (∃ final, (∀ s, Search.Visits c.knownReferences [] ⟨[], []⟩ c.variableNames s ↔ s = final) ∧
      c.circularReferences = final.cycles.reverse) ∧
    (∀ path ∈ c.circularReferences, ∃ v inner,
      path = v :: inner ++ [v] ∧ (v :: inner).Nodup ∧ path.IsChain c.Mentions) ∧
    (c.circularReferences.Pairwise fun path other => ¬ path.dropLast ~r other.dropLast) ∧
    (c.circularReferences = [] ↔ ∀ v, ¬ TransGen c.Mentions v v) := by
  obtain ⟨final, searched, found⟩ := c.exists_search
  obtain ⟨branch, survey⟩ := searched.survey
  have shape : ∀ path ∈ c.circularReferences, ∃ v inner,
      path = v :: inner ++ [v] ∧ (v :: inner).Nodup ∧ path.IsChain c.Mentions := by
    intro path reported
    rw [found, List.mem_reverse] at reported
    obtain ⟨v, inner, isPath, order, chain⟩ := survey.exists_path reported
    exact ⟨v, inner, isPath, List.nodup_reverse.mp (survey.nodup.sublist order),
      leads_eq_mentions c ▸ chain⟩
  refine ⟨⟨final, fun s => ⟨fun run => run.unique searched, fun same => same ▸ searched⟩, found⟩,
    shape, ?_, ?_, ?_⟩
  · rw [found, List.pairwise_reverse]
    exact (survey.pairwise_not_isRotated c.knownReferences_nodup).imp fun differ rotated =>
      differ rotated.symm
  · intro none v circle
    obtain ⟨x, _, _, path, reported, _⟩ := exists_circularReference searched circle
    rw [found, List.reverse_eq_nil_iff] at none
    exact List.not_mem_nil (none ▸ reported)
  · intro acyclic
    refine List.eq_nil_iff_forall_not_mem.mpr fun path reported => ?_
    obtain ⟨v, inner, rfl, _, chain⟩ := shape path reported
    exact acyclic v (transGen_of_isChain chain List.mem_cons_self)

end Container

end TagAudit

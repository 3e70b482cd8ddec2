import TagAudit.Proofs.Container.Partition
import TagAudit.Proofs.Variables.Agreement

namespace TagAudit

theorem Reference.filter_ofEntities (kind : Kind) (name : String) (entities : List Entity) :
    ((entities.flatMap (ofEntity kind)).filter fun r => r.kind == .variable && r.source == name).map (·.target) =
      if kind = .variable then (entities.filter fun e => e.name == name).flatMap (Entity.references kind)
      else [] := by
  have targets (e : Entity) :
      ((ofEntity kind e).filter fun r => r.kind == .variable && r.source == name).map (·.target) =
      if kind = .variable ∧ e.name = name then e.references kind else [] := by
    rw [ofEntity, List.filter_map, List.map_map]
    by_cases chosen : kind = .variable ∧ e.name = name
    · rw [if_pos chosen, List.filter_eq_self.mpr fun target _ => by simp [chosen]]
      exact List.map_id _
    · rw [if_neg chosen, List.filter_eq_nil_iff.mpr fun target _ => by simpa using chosen]
      rfl
  induction entities with
  | nil => simp
  | cons e rest ih =>
    rw [List.flatMap_cons, List.filter_append, List.map_append, ih, targets]
    by_cases isVariable : kind = .variable
    · by_cases same : e.name = name
      · simp [isVariable, same]
      · simp [isVariable, same]
    · simp [isVariable]

namespace Container

variable {c : Container} {u name : String}

theorem successors_addReference_of_ne {r : Reference} (other : r.source ≠ u) (g : Digraph (Option Json) Unit) :
    (addReference g r).successors u = g.successors u := by
  rw [Digraph.successors_eq, Digraph.successors_eq, ends_addReference]
  split
  · rfl
  · simp [other]

/-- A reference that is added leads to one more successor of its source, unless it leads to one already. -/
theorem successors_addReference_self (g : Digraph (Option Json) Unit) (r : Reference) :
    (addReference g r).successors r.source =
      if r.target ∈ g.successors r.source then g.successors r.source else g.successors r.source ++ [r.target] := by
  simp only [Digraph.mem_successors_iff]
  rw [Digraph.successors_eq, Digraph.successors_eq, ends_addReference]
  split
  · rfl
  · simp

/-- The successors of a name are the targets of the references that were added for it, in the order in which each was
added first. -/
theorem successors_addReferences {g : Digraph (Option Json) Unit} (unlinked : g.ends = [])
    (references : List Reference) (u : String) : (references.foldl addReference g).successors u =
      distinct ((references.filter fun r => r.source == u).map (·.target)) := by
  induction references using List.reverseRecOn with
  | nil =>
    rw [List.foldl_nil, Digraph.successors_eq, unlinked]
    rfl
  | append_singleton before r ih =>
    rw [List.foldl_append, List.foldl_cons, List.foldl_nil, List.filter_append, List.filter_singleton]
    by_cases same : r.source = u
    · subst same
      rw [successors_addReference_self, ih, beq_self_eq_true, cond_true, List.map_append, List.map_singleton]
      split
      · rename_i old
        exact (distinct_concat_of_mem (mem_distinct.mp old)).symm
      · rename_i new
        exact (distinct_concat_of_not_mem fun member => new (mem_distinct.mpr member)).symm
    · rw [successors_addReference_of_ne same, ih, beq_eq_false_iff_ne.mpr same, cond_false, List.append_nil]

theorem variableReferences_eq (c : Container) (name : String) : c.variableReferences name =
    distinct ((c.references.filter fun r => (r.kind == .variable && !r.source.isEmpty) && r.source == name).map
      (·.target)) := by
  rw [variableReferences, referenceGraph, successors_addReferences (ends_declared _ .empty), List.filter_filter]
  simp only [Bool.and_comm]

theorem referencesOf_variable (c : Container) (name : String) : c.referencesOf "variable" name =
    (c.references.filter fun r => r.kind == .variable && r.source == name).map (·.target) := by
  refine congrArg (List.map _) (List.filter_congr fun r _ => ?_)
  have kind : (Json.str "variable").isStr r.kind.label = (r.kind == .variable) := by
    cases r.kind <;> decide
  have source : (Json.str name).isStr r.source = (r.source == name) := BEq.comm
  rw [kind, source]

/-- The edge list has the references of all variables of a name, one variable after the other. -/
theorem referencesOf_eq_flatMap (c : Container) (name : String) : c.referencesOf "variable" name =
    (c.userVariables.filter fun v => v.name == name).flatMap (Entity.references .variable) := by
  rw [referencesOf_variable, references]
  simp only [List.filter_append, List.map_append, Reference.filter_ofEntities]
  simp

/-- For a name that is not empty, the successors in the graph are what the edge list has for the variables of this
name, each once and in the order of the first occurrences. -/
theorem variableReferences_eq_distinct (c : Container) (named : name ≠ "") :
    c.variableReferences name = distinct (c.referencesOf "variable" name) ∧
      c.referencesOf "variable" name =
        (c.userVariables.filter fun v => v.name == name).flatMap (Entity.references .variable) := by
  refine ⟨?_, c.referencesOf_eq_flatMap name⟩
  rw [variableReferences_eq, referencesOf_variable]
  refine congrArg (fun rs => distinct (List.map _ rs)) (List.filter_congr fun r _ => ?_)
  by_cases same : r.source = name
  · simp [same, named]
  · simp only [beq_eq_false_iff_ne.mpr same, Bool.and_false]

/-- Two variables A, the first of which references itself, and a variable without a name. -/
def merged : Container :=
  let version := [("variable", Json.arr [textVariable "A" (Text.reference "B" ++ Text.reference "A"),
    .obj [("name", .null), ("parameter", .arr [.obj [("type", "template"), ("value", Text.reference "C")]])],
    textVariable "A" (Text.reference "C" ++ Text.reference "B")])]
  ⟨[("containerVersion", .obj version)], version, false, none, rfl⟩

/-- What the second variable references again is not listed again, and nothing is listed for a name that is only
referenced. -/
theorem merged_references : "A" ≠ "" ∧ merged.referencesOf "variable" "A" = ["B", "A", "C", "B"] ∧
    merged.variableReferences "A" = ["B", "A", "C"] ∧ merged.variableReferences "C" = [] := by
  have ofA := (merged.variableReferences_eq_distinct (by decide : "A" ≠ "")).1
  have ofC := (merged.variableReferences_eq_distinct (by decide : "C" ≠ "")).1
  have listed : merged.referencesOf "variable" "A" = ["B", "A", "C", "B"] := by decide
  have unlisted : merged.referencesOf "variable" "C" = [] := by decide
  refine ⟨by decide, listed, ?_, ?_⟩
  · rw [ofA, listed]
    decide
  · rw [ofC, unlisted]
    rfl

end Container

end TagAudit

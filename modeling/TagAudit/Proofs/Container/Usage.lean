import TagAudit.Proofs.Cleanup.Unused
import TagAudit.Proofs.Json.Referenced

namespace TagAudit

/-- An entity references a name: a template that does so stands in one of the fields that are looked through. -/
def Entity.RefersTo (kind : Kind) (e : Entity) (name : String) : Prop :=
  ∃ key ∈ kind.scannedFields, ∃ fields, Json.StandsIn (.obj fields) (e.get key) ∧ Json.RefersTo fields name

/-- A trigger refers to a trigger in its parameters, as a group does to its members. -/
def Entity.Groups (group : Entity) (id : String) : Prop :=
  ∃ fields, Json.StandsIn (.obj fields) (group.get "parameter") ∧ Json.RefersToTrigger fields id

theorem Json.standsIn_arr_iff {fields : List (String × Json)} {items : List Json} :
    StandsIn (.obj fields) (.arr items) ↔ ∃ value ∈ items, StandsIn (.obj fields) value := by
  constructor
  · intro inside
    cases inside with
    | item isItem deeper => exact ⟨_, isItem, deeper⟩
  · rintro ⟨value, isItem, inside⟩
    exact .item isItem inside

theorem Entity.mem_references_iff {kind : Kind} {e : Entity} {name : String} :
    name ∈ e.references kind ↔ e.RefersTo kind name := by
  rw [Entity.references, mem_distinct, Json.mem_references_iff]
  constructor
  · rintro ⟨fields, inside, refers⟩
    obtain ⟨value, isRoot, deeper⟩ := Json.standsIn_arr_iff.mp inside
    obtain ⟨key, scanned, rfl⟩ := List.mem_map.mp isRoot
    exact ⟨key, scanned, fields, deeper, refers⟩
  · rintro ⟨key, scanned, fields, inside, refers⟩
    have isRoot : e.get key ∈ kind.scannedFields.map e.get := List.mem_map_of_mem scanned
    exact ⟨fields, Json.standsIn_arr_iff.mpr ⟨_, isRoot, inside⟩, refers⟩

namespace Container

variable {c : Container}

/-- A name is not used where nothing references it but the variables of this name. -/
theorem not_mem_used_iff {name : String} :
    name ∉ (c.references.filter fun r => !r.isSelf).map (·.target) ↔
      (∀ tag ∈ c.tags, ¬tag.RefersTo .tag name) ∧ (∀ t ∈ c.triggers, ¬t.RefersTo .trigger name) ∧
      (∀ client ∈ c.clients, ¬client.RefersTo .client name) ∧
      ∀ other ∈ c.userVariables, other.name ≠ name → ¬other.RefersTo .variable name := by
  rw [mem_used_iff, not_exists]
  constructor
  · intro unused
    have free (kind : Kind) (e : Entity) (looked : e ∈ c.regarded kind)
        (differs : ¬(kind = .variable ∧ e.name = name)) : ¬e.RefersTo kind name := fun refers =>
      unused kind ⟨e, looked, Entity.mem_references_iff.mpr refers, differs⟩
    refine ⟨fun tag isTag => free .tag tag isTag (by simp), fun t isTrigger => free .trigger t isTrigger (by simp),
      fun client isClient => free .client client isClient (by simp), fun other isVariable differs => ?_⟩
    exact free .variable other isVariable fun same => differs same.2
  · rintro ⟨tags, triggers, clients, others⟩ kind ⟨e, looked, mentioned, differs⟩
    have refers := Entity.mem_references_iff.mp mentioned
    cases kind with
    | tag => exact tags e looked refers
    | trigger => exact triggers e looked refers
    | «variable» => exact others e looked (fun same => differs ⟨rfl, same⟩) refers
    | client => exact clients e looked refers

/-- An identifier of a trigger is not used where no tag and no group has it. -/
theorem not_mem_triggerUses_iff {id : String} :
    id ∉ c.triggerUses.map (·.1) ↔
      (∀ tag ∈ c.tags, ∀ listed ∈ (tag.get "firingTriggerId").items ++ (tag.get "blockingTriggerId").items,
        listed.text ≠ id) ∧
      ∀ group ∈ c.triggers, ¬group.Groups id := by
  rw [mem_triggerUses, not_or, not_exists, not_exists]
  refine and_congr (forall_congr' fun tag => ?_) (forall_congr' fun group => ?_)
  · rw [not_and, Entity.triggerIds, List.mem_map]
    simp only [not_exists, not_and, ne_eq]
  · rw [not_and, Json.mem_triggerReferences_iff, Entity.Groups]

/-- A variable is unused exactly if it is no built-in one and no component but a variable of its name references
it; a trigger exactly if it is no built-in one and no tag and no group has its identifier. -/
theorem unused_iff (c : Container) :
    (∀ v, v ∈ c.unusedVariables ↔ v ∈ c.userVariables ∧ v.isBuiltIn = false ∧
      (∀ tag ∈ c.tags, ¬tag.RefersTo .tag v.name) ∧ (∀ t ∈ c.triggers, ¬t.RefersTo .trigger v.name) ∧
      (∀ client ∈ c.clients, ¬client.RefersTo .client v.name) ∧
      ∀ other ∈ c.userVariables, other.name ≠ v.name → ¬other.RefersTo .variable v.name) ∧
    ∀ t, t ∈ c.unusedTriggers ↔ t ∈ c.triggers ∧
      t.idOrEmpty "triggerId" ≠ allPagesId ∧ (t.get "builtIn").holds = false ∧ t.isBuiltIn = false ∧
      (∀ tag ∈ c.tags, ∀ listed ∈ (tag.get "firingTriggerId").items ++ (tag.get "blockingTriggerId").items,
        listed.text ≠ t.idOrEmpty "triggerId") ∧
      ∀ group ∈ c.triggers, ¬group.Groups (t.idOrEmpty "triggerId") := by
  constructor
  · intro v
    rw [← not_mem_used_iff, unusedVariables, List.mem_filter, Bool.and_eq_true, Bool.not_eq_true',
      Bool.not_eq_true', ← Bool.not_eq_true (List.contains _ _), List.contains_iff_mem]
  · intro t
    rw [← not_mem_triggerUses_iff, unusedTriggers, List.mem_filter]
    simp only [Bool.not_eq_true', Bool.or_eq_false_iff, beq_eq_false_iff_ne, ← Bool.not_eq_true (List.contains _ _),
      List.contains_iff_mem, and_assoc, ne_eq]

end Container

end TagAudit

import TagAudit.Proofs.Cleanup.Deduplication
import TagAudit.Proofs.Cleanup.Unused
import TagAudit.Proofs.Text.Renaming

namespace TagAudit

namespace Cleanup

/-- What a key stands for once the second entity of each pair is gone: the key of the first one. -/
def kept (key : Entity → String) (pairs : List Pair) (old : String) : String :=
  match pairs.find? fun p => key p.duplicate == old with
  | some p => key p.keep
  | none => old

/-- The key of a removed entity says what is kept for it, and no kept entity has the key of a removed one. -/
structure Coherent (key : Entity → String) (pairs : List Pair) : Prop where
  same : ∀ p ∈ pairs, ∀ q ∈ pairs, key p.duplicate = key q.duplicate → key p.keep = key q.keep
  apart : ∀ p ∈ pairs, ∀ q ∈ pairs, key p.duplicate ≠ key q.keep

theorem Coherent.kept_of_mem {key : Entity → String} {pairs : List Pair} (coherent : Coherent key pairs)
    {p : Pair} (member : p ∈ pairs) : kept key pairs (key p.duplicate) = key p.keep := by
  unfold kept
  cases found : pairs.find? fun q => key q.duplicate == key p.duplicate with
  | none => exact absurd (beq_self_eq_true _) (List.find?_eq_none.mp found p member)
  | some q =>
    have named := List.find?_some found
    exact coherent.same q (List.mem_of_find?_eq_some found) p member (beq_iff_eq.mp named)

theorem kept_of_not_mem {key : Entity → String} {pairs : List Pair} {old : String}
    (other : ∀ p ∈ pairs, key p.duplicate ≠ old) : kept key pairs old = old := by
  unfold kept
  rw [List.find?_eq_none.mpr fun p member same => other p member (beq_iff_eq.mp same)]

/-- A key that is not one of a removed entity stands for itself, and no other key is left. -/
theorem Coherent.kept_ne {key : Entity → String} {pairs : List Pair} (coherent : Coherent key pairs)
    {p : Pair} (member : p ∈ pairs) (old : String) : kept key pairs old ≠ key p.duplicate := by
  by_cases removed : ∃ q ∈ pairs, key q.duplicate = old
  · obtain ⟨q, there, rfl⟩ := removed
    rw [coherent.kept_of_mem there]
    exact (coherent.apart p member q there).symm
  · have other : ∀ q ∈ pairs, key q.duplicate ≠ old := fun q there same => removed ⟨q, there, same⟩
    rw [kept_of_not_mem other]
    exact (other p member).symm

/-- The entities of a signature that are still there at some stage. -/
def present (cleanup : Cleanup) (c : Container) (kind : Comparable) (signature : String) : List Entity :=
  (c.group kind signature).filter fun e => ((cleanup.entities kind).map (Entity.idOf kind)).contains (e.idOf kind)

theorem mem_pairs {cleanup : Cleanup} {c : Container} {kind : Comparable} {p : Pair}
    (member : p ∈ cleanup.pairs c kind) : ∃ rest,
      cleanup.present c kind (kind.signature p.keep) = p.keep :: rest ∧ p.duplicate ∈ rest := by
  obtain ⟨⟨signature, members⟩, grouped, paired⟩ := List.mem_flatMap.mp member
  obtain ⟨_, rfl⟩ := mem_groupBy.mp (List.mem_filter.mp grouped).1
  change p ∈ pairsOf (cleanup.present c kind signature) at paired
  cases shape : cleanup.present c kind signature with
  | nil =>
    rw [shape] at paired
    cases paired
  | cons keep rest =>
    rw [shape] at paired
    obtain ⟨d, later, rfl⟩ := List.mem_map.mp paired
    have first : keep ∈ cleanup.present c kind signature := shape ▸ List.mem_cons_self
    have named := (Container.mem_group.mp (List.mem_filter.mp first).1).2
    exact ⟨rest, named ▸ shape, later⟩

theorem mem_allOf_of_present {cleanup : Cleanup} {c : Container} {kind : Comparable} {signature : String}
    {e : Entity} (member : e ∈ cleanup.present c kind signature) :
    e ∈ c.entitiesOf kind ∧ kind.signature e = signature :=
  Container.mem_group.mp (List.mem_filter.mp member).1

theorem pair_of_mem {cleanup : Cleanup} {c : Container} {kind : Comparable} {p : Pair}
    (member : p ∈ cleanup.pairs c kind) : p.keep ∈ c.entitiesOf kind ∧ p.duplicate ∈ c.entitiesOf kind ∧
      kind.signature p.duplicate = kind.signature p.keep := by
  obtain ⟨rest, shape, later⟩ := mem_pairs member
  have first : p.keep ∈ cleanup.present c kind (kind.signature p.keep) := shape ▸ List.mem_cons_self
  have second : p.duplicate ∈ cleanup.present c kind (kind.signature p.keep) := shape ▸ List.mem_cons_of_mem _ later
  exact ⟨(mem_allOf_of_present first).1, mem_allOf_of_present second⟩

/-- A key that tells the entities of a kind apart tells for each removed one what is kept. -/
theorem coherent_pairs {c : Container} {kind : Comparable} {key : Entity → String}
    (nodup : ((c.allOf kind).map key).Nodup) (cleanup : Cleanup) : Coherent key (cleanup.pairs c kind) := by
  have injective {e f : Entity} (here : e ∈ c.entitiesOf kind) (there : f ∈ c.entitiesOf kind)
      (same : key e = key f) : e = f :=
    List.inj_on_of_nodup_map nodup ((c.entitiesOf_sublist kind).subset here)
      ((c.entitiesOf_sublist kind).subset there) same
  constructor
  · intro p pMember q qMember same
    obtain ⟨_, pPresent, pSignature⟩ := pair_of_mem pMember
    obtain ⟨_, qPresent, qSignature⟩ := pair_of_mem qMember
    have signatures : kind.signature p.keep = kind.signature q.keep := by
      rw [← pSignature, ← qSignature, injective pPresent qPresent same]
    obtain ⟨_, pShape, _⟩ := mem_pairs pMember
    obtain ⟨_, qShape, _⟩ := mem_pairs qMember
    rw [signatures, qShape] at pShape
    rw [(List.cons.inj pShape).1]
  · intro p pMember q qMember same
    obtain ⟨_, pPresent, pSignature⟩ := pair_of_mem pMember
    obtain ⟨qPresent, _, _⟩ := pair_of_mem qMember
    have equal := injective pPresent qPresent same
    obtain ⟨rest, pShape, later⟩ := mem_pairs pMember
    obtain ⟨_, qShape, _⟩ := mem_pairs qMember
    -- The removed one is the first of its own group, in which it comes later.
    rw [← equal, pSignature, pShape] at qShape
    have once : (cleanup.present c kind (kind.signature p.keep)).Nodup :=
      (List.Nodup.of_map _ nodup).sublist
        ((List.filter_sublist.trans List.filter_sublist).trans (c.entitiesOf_sublist kind))
    rw [pShape, List.nodup_cons] at once
    exact once.1 ((List.cons.inj qShape).1 ▸ later)

theorem remapTrigger_text {pairs : List Pair} (coherent : Coherent (Entity.idOf .triggers) pairs) (id : Json) :
    (remapTrigger (triggerRenames pairs) id).text = kept (Entity.idOf .triggers) pairs id.text := by
  unfold remapTrigger
  rcases latest?_cases (triggerRenames pairs) id.text with ⟨absent, none⟩ | ⟨value, member, found⟩
  · rw [none]
    refine (kept_of_not_mem fun p there same => absent (p.keep.idOf .triggers) ?_).symm
    exact same ▸ List.mem_map_of_mem there
  · rw [found]
    obtain ⟨p, there, row⟩ := List.mem_map.mp member
    obtain ⟨named, rfl⟩ := Prod.mk.inj row
    exact named ▸ (coherent.kept_of_mem there).symm

/-- The variables of the pairs have names that references can have. -/
def Named (pairs : List Pair) : Prop :=
  ∀ p ∈ pairs, Text.Referable p.keep.name.toList ∧ Text.Referable p.duplicate.name.toList

/-- The pairs of variables for which references are renamed: those where both have a name. -/
def renamedPairs (pairs : List Pair) : List Pair :=
  pairs.filter fun p => (p.duplicate.get "name").holds && (p.keep.get "name").holds

theorem variableRenames_eq {pairs : List Pair}
    (texts : ∀ p ∈ renamedPairs pairs, (p.duplicate.get "name").isText = true) :
    variableRenames pairs = .ok ((renamedPairs pairs).map fun p => (.str p.duplicate.name, p.keep.get "name")) := by
  refine mapM_ok fun p member => ?_
  obtain ⟨name, text⟩ := Json.exists_of_isText (texts p member)
  rw [Entity.name, text]
  rfl

theorem written_of_referable {e : Entity} (referable : Text.Referable e.name.toList) :
    e.get "name" = .str e.name :=
  Entity.get_of_name rfl fun blank => referable.nonempty (blank ▸ rfl)

theorem variableRenames_named {pairs : List Pair} (named : Named pairs) :
    variableRenames pairs = .ok (pairs.map fun p => (.str p.duplicate.name, .str p.keep.name)) := by
  have holds {e : Entity} (referable : Text.Referable e.name.toList) : (e.get "name").holds = true := by
    rw [written_of_referable referable, Json.holds, Bool.not_eq_true', String.isEmpty_eq_false_iff]
    exact fun blank => referable.nonempty (blank ▸ rfl)
  have all : renamedPairs pairs = pairs :=
    List.filter_eq_self.mpr fun p member => by rw [holds (named p member).1, holds (named p member).2]; rfl
  have texts : ∀ p ∈ renamedPairs pairs, (p.duplicate.get "name").isText = true := by
    rw [all]
    intro p member
    rw [written_of_referable (named p member).2]
    rfl
  rw [variableRenames_eq texts, all]
  refine congrArg Except.ok (List.map_congr_left fun p member => ?_)
  rw [written_of_referable (named p member).1]

/-- Names that are texts can be looked for, whatever is to replace them. -/
theorem writtenRenames_eq (pairs : List Pair) (replacement : Pair → Json) :
    writtenRenames (pairs.map fun p => (.str p.duplicate.name, replacement p)) =
      .ok (pairs.map fun p => (p.duplicate.name, replacement p)) := by
  rw [writtenRenames, mapM_ok (g := fun row => (row.1.toJson.textOrEmpty, row.2))]
  · simp [Function.comp_def, Scalar.toJson, Json.textOrEmpty]
  · intro row member
    obtain ⟨p, _, rfl⟩ := List.mem_map.mp member
    rfl

theorem mem_renameTable {renames : List (String × Json)} {row : List Char × Option (List Char)}
    (member : row ∈ renameTable renames) :
    ∃ entry ∈ renames, row = (entry.1.toList, entry.2.text?.map String.toList) := by
  obtain ⟨entry, inside, rfl⟩ := List.mem_map.mp member
  rcases mem_foldl_put inside with renamed | none
  · exact ⟨entry, renamed, rfl⟩
  · cases none

/-- The table of renames of some pairs. -/
def tableOf (pairs : List Pair) : Text.Renames :=
  renameTable (pairs.map fun p => (p.duplicate.name, .str p.keep.name))

theorem mem_tableOf {pairs : List Pair} {row : List Char × Option (List Char)} (member : row ∈ tableOf pairs) :
    ∃ p ∈ pairs, row = (p.duplicate.name.toList, some p.keep.name.toList) := by
  obtain ⟨entry, renamed, rfl⟩ := mem_renameTable member
  obtain ⟨p, there, rfl⟩ := List.mem_map.mp renamed
  exact ⟨p, there, rfl⟩

theorem mem_keys_tableOf {pairs : List Pair} {name : List Char} :
    name ∈ (tableOf pairs).map (·.1) ↔ ∃ p ∈ pairs, p.duplicate.name.toList = name := by
  constructor
  · intro key
    obtain ⟨row, member, rfl⟩ := List.mem_map.mp key
    obtain ⟨p, there, rfl⟩ := mem_tableOf member
    exact ⟨p, there, rfl⟩
  · rintro ⟨p, there, rfl⟩
    have row : (p.duplicate.name, Json.str p.keep.name) ∈
        pairs.map fun p => (p.duplicate.name, Json.str p.keep.name) := List.mem_map_of_mem there
    have key := (@mem_keys_foldl_put _ _ [] _).mpr (Or.inl (List.mem_map_of_mem row))
    obtain ⟨entry, inside, same⟩ := List.mem_map.mp key
    exact List.mem_map.mpr ⟨_, List.mem_map_of_mem inside, congrArg String.toList same⟩

theorem tableOf_proper {pairs : List Pair} (coherent : Coherent Entity.name pairs) (named : Named pairs) :
    (tableOf pairs).Proper := by
  constructor
  · intro row member
    obtain ⟨p, there, rfl⟩ := mem_tableOf member
    exact (named p there).2
  · intro row member
    obtain ⟨p, there, rfl⟩ := mem_tableOf member
    refine ⟨_, rfl, (named p there).1, fun other inside same => ?_⟩
    obtain ⟨q, here, rfl⟩ := mem_tableOf inside
    exact coherent.apart q here p there (String.toList_inj.mp same)

/-- The table renames a removed variable to the one that is kept for it. -/
theorem tableOf_apply {pairs : List Pair} (coherent : Coherent Entity.name pairs) (named : Named pairs)
    (name : String) : String.ofList ((tableOf pairs).apply name.toList) = kept Entity.name pairs name := by
  by_cases old : name.toList ∈ (tableOf pairs).map (·.1)
  · obtain ⟨found, _⟩ := (tableOf_proper coherent named).apply_of_mem old
    obtain ⟨p, there, row⟩ := mem_tableOf (List.mem_of_find?_eq_some found)
    obtain ⟨same, new⟩ := Prod.mk.inj row
    rw [Option.some.inj new, String.ofList_toList, String.toList_inj.mp same]
    exact (coherent.kept_of_mem there).symm
  · rw [(Text.Renames.apply_of_not_mem old).2, String.ofList_toList]
    refine (kept_of_not_mem fun p there same => old ?_).symm
    exact mem_keys_tableOf.mpr ⟨p, there, congrArg String.toList same⟩

end Cleanup

end TagAudit

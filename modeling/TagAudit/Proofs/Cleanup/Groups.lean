import TagAudit.Proofs.Cleanup.Merging

namespace TagAudit

namespace Container

open Cleanup

section

variable {c : Container} {kind : Comparable}

theorem shape_of_mem_duplicates {row : String × List Entity} (member : row ∈ c.duplicates kind) :
    ∃ keep rest, row.2 = keep :: rest ∧ rest ≠ [] ∧ c.group kind (kind.signature keep) = keep :: rest := by
  obtain ⟨signature, members⟩ := row
  obtain ⟨grouped, several⟩ := List.mem_filter.mp member
  obtain ⟨_, rfl⟩ := mem_groupBy.mp grouped
  change decide (1 < (c.group kind signature).length) = true at several
  change ∃ keep rest, c.group kind signature = keep :: rest ∧ _
  cases shape : c.group kind signature with
  | nil =>
    rw [shape] at several
    cases several
  | cons keep rest =>
    rw [shape] at several
    have first : keep ∈ c.group kind signature := shape ▸ List.mem_cons_self
    refine ⟨keep, rest, rfl, ?_, (mem_group.mp first).2 ▸ shape⟩
    rintro rfl
    exact Nat.lt_irrefl 1 (of_decide_eq_true several)

/-- The removed identifiers are those of the entities that are not the first of their group. -/
theorem mem_repeatedIds_iff {id : String} : id ∈ c.repeatedIds kind ↔
    ∃ row ∈ c.duplicates kind, ∃ d ∈ row.2.tail, d.idOf kind = id := by
  simp only [repeatedIds, List.mem_flatMap, List.mem_map]

theorem not_survives_of_tail {row : String × List Entity} (member : row ∈ c.duplicates kind) {d : Entity}
    (later : d ∈ row.2.tail) : ¬ c.Survives kind d := fun survives =>
  (survives_iff.mp survives).2 (mem_repeatedIds_iff.mpr ⟨row, member, d, later, rfl⟩)

/-- Of a group at most the first entity survives. -/
theorem existsUnique_survivor_iff {row : String × List Entity} (member : row ∈ c.duplicates kind)
    {keep : Entity} {rest : List Entity} (shape : row.2 = keep :: rest) :
    (∃! e, e ∈ row.2 ∧ c.Survives kind e) ↔ keep.idOf kind ∉ c.repeatedIds kind := by
  have gone : ∀ d ∈ rest, ¬ c.Survives kind d := fun d later =>
    not_survives_of_tail member (by rwa [shape])
  have present : keep ∈ c.allOf kind := by
    obtain ⟨first, others, same, _, grouped⟩ := shape_of_mem_duplicates member
    obtain ⟨rfl, rfl⟩ := List.cons.inj (shape.symm.trans same)
    have inGroup : keep ∈ c.group kind (kind.signature keep) := grouped ▸ List.mem_cons_self
    exact (c.entitiesOf_sublist kind).subset (mem_group.mp inGroup).1
  rw [shape]
  constructor
  · rintro ⟨e, ⟨inside, survives⟩, _⟩
    rcases List.mem_cons.mp inside with rfl | later
    · exact (survives_iff.mp survives).2
    · exact absurd survives (gone e later)
  · intro single
    refine ⟨keep, ⟨List.mem_cons_self, survives_iff.mpr ⟨present, single⟩⟩, fun e holds => ?_⟩
    rcases List.mem_cons.mp holds.1 with same | later
    · exact same
    · exact absurd holds.2 (gone e later)

theorem DistinctIds.mem_tail_of_not_survives (distinct : c.DistinctIds kind) {e : Entity}
    (present : e ∈ c.allOf kind) (gone : ¬ c.Survives kind e) : ∃ row ∈ c.duplicates kind, e ∈ row.2.tail := by
  have repeated : e.idOf kind ∈ c.repeatedIds kind := by
    by_contra single
    exact gone (survives_iff.mpr ⟨present, single⟩)
  obtain ⟨row, member, d, later, same⟩ := mem_repeatedIds_iff.mp repeated
  have there : d ∈ c.allOf kind := by
    obtain ⟨keep, rest, shape, _, grouped⟩ := shape_of_mem_duplicates member
    rw [shape] at later
    have inGroup : d ∈ c.group kind (kind.signature keep) := grouped ▸ List.mem_cons_of_mem _ later
    exact (c.entitiesOf_sublist kind).subset (mem_group.mp inGroup).1
  exact ⟨row, member, distinct.eq_of_idOf there present same ▸ later⟩

end

/-- What removing duplicates leaves of each group. An entity is removed exactly if it has the identifier of
one that is not the first of its group, so of a group no later entity is left, and the first one exactly if
no later entity of a group has its identifier. Where identifiers are unique, one of each group is left, and
nothing that is outside of the groups is removed. -/
theorem optimizedDocument_groups {c : Container} {stamp : String} {document : List (String × Json)}
    (run : c.optimizedDocument (c.cleanUp false true) stamp = .ok document) :
    ∃ (optimized : Container) (table : Text.Renames),
      Container.ofJson (.obj document) true none = .ok optimized ∧ ∀ kind : Comparable,
        List.Forall₂ (fun old new =>
          redirectItem (triggerRenames (c.pairs .triggers)) table kind old = .ok new)
          (c.unrepeated kind) (optimized.get kind.key).items ∧
        (∀ e ∈ c.allOf kind, ¬ c.Survives kind e ↔
          ∃ row ∈ c.duplicates kind, ∃ d ∈ row.2.tail, d.idOf kind = e.idOf kind) ∧
        (∀ row ∈ c.duplicates kind, ∃ keep rest, row.2 = keep :: rest ∧ (∀ d ∈ rest, ¬ c.Survives kind d) ∧
          ((∃! e, e ∈ row.2 ∧ c.Survives kind e) ↔
            ¬ ∃ other ∈ c.duplicates kind, ∃ d ∈ other.2.tail, d.idOf kind = keep.idOf kind)) ∧
        (c.DistinctIds kind → (∀ row ∈ c.duplicates kind, ∃! e, e ∈ row.2 ∧ c.Survives kind e) ∧
          ∀ e ∈ c.allOf kind, ¬ c.Survives kind e → ∃ row ∈ c.duplicates kind, e ∈ row.2.tail) := by
  obtain ⟨v, cleaned, optimized, read, items⟩ := optimizedDocument_read run
  obtain ⟨_, _, written, _, _, redirected⟩ := cleanUp_duplicates cleaned
  refine ⟨optimized, renameTable written, read, fun kind => ⟨?_, ?_, ?_, ?_⟩⟩
  · rw [items kind]
    exact redirected kind
  · intro e present
    rw [survives_iff, ← mem_repeatedIds_iff]
    simp [present]
  · intro row member
    obtain ⟨keep, rest, shape, _, _⟩ := shape_of_mem_duplicates member
    refine ⟨keep, rest, shape, fun d later => not_survives_of_tail member (by rwa [shape]), ?_⟩
    rw [existsUnique_survivor_iff member shape, mem_repeatedIds_iff]
  · intro distinct
    refine ⟨fun row member => ?_, fun e present gone => distinct.mem_tail_of_not_survives present gone⟩
    obtain ⟨keep, rest, shape, _, grouped⟩ := shape_of_mem_duplicates member
    exact (existsUnique_survivor_iff member shape).mpr (distinct.first_not_repeated grouped)

theorem ofTags_duplicates {first second : Entity}
    (tags : (ofTags [first, second]).tags = [first, second])
    (alike : Comparable.tags.signature second = Comparable.tags.signature first) :
    (ofTags [first, second]).duplicates .tags = [(Comparable.tags.signature first, [first, second])] := by
  have looked : (ofTags [first, second]).entitiesOf .tags = [first, second] := tags
  simp [duplicates, looked, groupBy, distinct, alike]

/-- Of two tags with one configuration and identifiers of their own one is left. -/
theorem equalTags_grouped : ∃ document,
    equalTags.optimizedDocument (equalTags.cleanUp false true) "7" = .ok document ∧
    ∃! e, e ∈ [taggedAs "1" "A" "html", taggedAs "2" "B" "html"] ∧ equalTags.Survives .tags e := by
  obtain ⟨document, run⟩ := exists_ok_of_isOk
    (show (equalTags.optimizedDocument (equalTags.cleanUp false true) "7").isOk = true by decide +kernel)
  obtain ⟨_, _, _, kinds⟩ := optimizedDocument_groups run
  have distinct : equalTags.DistinctIds .tags := by
    unfold DistinctIds
    decide
  have grouped : equalTags.duplicates .tags =
      [(Comparable.tags.signature (taggedAs "1" "A" "html"),
        [taggedAs "1" "A" "html", taggedAs "2" "B" "html"])] := ofTags_duplicates rfl rfl
  exact ⟨document, run, ((kinds .tags).2.2.2 distinct).1 _ (grouped ▸ List.mem_cons_self)⟩

/-- Two tags with one configuration and one identifier. -/
def sameIdTags : Container := ofTags [taggedAs "1" "A" "html", taggedAs "1" "B" "html"]

/-- Both tags of the group are removed. -/
theorem sameIdTags_lost : ∃ row ∈ sameIdTags.duplicates .tags,
    row.2 = [taggedAs "1" "A" "html", taggedAs "1" "B" "html"] ∧ ∃ document optimized,
      sameIdTags.optimizedDocument (sameIdTags.cleanUp false true) "7" = .ok document ∧
      Container.ofJson (.obj document) true none = .ok optimized ∧ optimized.allOf .tags = [] := by
  obtain ⟨document, run⟩ := exists_ok_of_isOk
    (show (sameIdTags.optimizedDocument (sameIdTags.cleanUp false true) "7").isOk = true by decide +kernel)
  have grouped : sameIdTags.duplicates .tags =
      [(Comparable.tags.signature (taggedAs "1" "A" "html"),
        [taggedAs "1" "A" "html", taggedAs "1" "B" "html"])] := ofTags_duplicates rfl rfl
  refine ⟨_, grouped ▸ List.mem_cons_self, rfl, document, ?_⟩
  obtain ⟨v, cleaned, optimized, read, items⟩ := optimizedDocument_read run
  obtain ⟨_, _, written, _, _, redirected⟩ := cleanUp_duplicates cleaned
  have none : sameIdTags.unrepeated .tags = [] := List.isEmpty_iff.mp (by decide +kernel)
  refine ⟨optimized, run, read, ?_⟩
  have left := redirected .tags
  rw [none, List.forall₂_nil_left_iff] at left
  rw [allOf, items .tags, left]
  rfl

end Container

end TagAudit

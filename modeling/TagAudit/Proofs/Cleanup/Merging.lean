import TagAudit.Proofs.Cleanup.Deduplication

namespace TagAudit

theorem Container.ofJson_obj {fields version : List (String × Json)}
    (found : Json.lookup fields "containerVersion" = some (.obj version)) (includePaused : Bool)
    (source : Option String) : Container.ofJson (.obj fields) includePaused source =
      .ok ⟨fields, version, includePaused, source, found⟩ := by
  simp only [Container.ofJson]
  split
  · rename_i other same
    cases found.symm.trans same
    rfl
  · rename_i value noObject same
    exact absurd (Option.some.inj (same.symm.trans found)) (noObject version)
  · rename_i absent
    cases absent.symm.trans found

namespace Cleanup

theorem lookup_stampVersion {key : String} (notId : key ≠ "containerVersionId")
    (notFingerprint : key ≠ "fingerprint") (stamp : String) (version : List (String × Json)) :
    Json.lookup (stampVersion stamp version) key = Json.lookup version key := by
  rw [stampVersion, Json.lookup_assign_of_ne notFingerprint, Json.lookup_assign_of_ne notId]

theorem itemsAt_stampVersion (stamp : String) (version : List (String × Json)) (kind : Comparable) :
    itemsAt (stampVersion stamp version) kind.key = itemsAt version kind.key := by
  have notId : kind.key ≠ "containerVersionId" := by cases kind <;> decide
  have notFingerprint : kind.key ≠ "fingerprint" := by cases kind <;> decide
  rw [itemsAt, lookup_stampVersion notId notFingerprint, itemsAt]

end Cleanup

namespace Container

open Cleanup

/-- An optimized document is a container whose version is the stamped one. -/
theorem optimizedDocument_readAs {c : Container} {o : Optimized} {stamp : String}
    {document : List (String × Json)} (run : c.optimizedDocument o stamp = .ok document) (includePaused : Bool)
    (source : Option String) : ∃ v, o.version = .ok v ∧ ∃ optimized : Container,
      Container.ofJson (.obj document) includePaused source = .ok optimized ∧
      optimized.includePaused = includePaused ∧ optimized.version = stampVersion stamp v := by
  unfold optimizedDocument at run
  cases version : o.version with
  | error f =>
    rw [version] at run
    cases run
  | ok v =>
    rw [version] at run
    cases run
    exact ⟨v, rfl, _, ofJson_obj (Json.lookup_assign_self _ _ _) _ _, rfl, rfl⟩

theorem optimizedDocument_read {c : Container} {o : Optimized} {stamp : String}
    {document : List (String × Json)} (run : c.optimizedDocument o stamp = .ok document) :
    ∃ v, o.version = .ok v ∧ ∃ optimized : Container,
      Container.ofJson (.obj document) true none = .ok optimized ∧
      ∀ kind : Comparable, (optimized.get kind.key).items = itemsAt v kind.key := by
  obtain ⟨v, version, optimized, read, _, stamped⟩ := optimizedDocument_readAs run true none
  refine ⟨v, version, optimized, read, fun kind => ?_⟩
  rw [get, stamped]
  exact itemsAt_stampVersion stamp v kind

/-- An entity of a document that is not removed as a duplicate. -/
def Survives (c : Container) (kind : Comparable) (e : Entity) : Prop := e.toJson ∈ c.unrepeated kind

theorem survives_iff {c : Container} {kind : Comparable} {e : Entity} :
    c.Survives kind e ↔ e ∈ c.allOf kind ∧ e.idOf kind ∉ c.repeatedIds kind := by
  have named : isNamed kind (c.repeatedIds kind) e.toJson = (c.repeatedIds kind).contains (e.idOf kind) :=
    rfl
  have present : e ∈ c.allOf kind ↔ e.toJson ∈ (c.get kind.key).items := Entity.mem_filterMap_ofJson?
  rw [Survives, unrepeated, List.mem_filter, named, present]
  simp

/-- Exactly when the configuration of a removed duplicate is still there: if the entity that is kept for
it has this configuration and not just its signature, or one that is not looked at has. -/
theorem DistinctIds.configuration_kept_iff {c : Container} {kind : Comparable}
    (distinct : c.DistinctIds kind) {e : Entity} (removed : e ∈ c.repeated kind) :
    ∃ keep ∈ c.entitiesOf kind, c.Survives kind keep ∧ kind.signature keep = kind.signature e ∧
      ((∃ s, c.Survives kind s ∧ kind.configuration s = kind.configuration e) ↔
        kind.configuration keep = kind.configuration e ∨
          ∃ s ∈ c.allOf kind, s ∉ c.entitiesOf kind ∧ kind.configuration s = kind.configuration e) := by
  obtain ⟨member, repeated⟩ := List.mem_filter.mp removed
  obtain ⟨_, keep, ofKind, signature, single, only⟩ :=
    distinct.repeated_origin member (List.contains_iff_mem.mp repeated)
  have survives : c.Survives kind keep :=
    survives_iff.mpr ⟨(c.entitiesOf_sublist kind).subset ofKind, single⟩
  refine ⟨keep, ofKind, survives, signature, ?_, ?_⟩
  · rintro ⟨s, sSurvives, same⟩
    obtain ⟨present, sSingle⟩ := survives_iff.mp sSurvives
    by_cases seen : s ∈ c.entitiesOf kind
    · have sameSignature : kind.signature s = kind.signature e := congrArg TagAudit.signature same
      cases only s seen sSingle sameSignature
      exact Or.inl same
    · exact Or.inr ⟨s, present, seen, same⟩
  · rintro (same | ⟨s, present, skipped, same⟩)
    · exact ⟨keep, survives, same⟩
    · exact ⟨s, survives_iff.mpr ⟨present, distinct.skipped_not_repeated present skipped⟩, same⟩

/-- What removing duplicates does to a document whose identifiers are unique: exactly the repeated
entities are logged and missing, and the configuration of one of them is still in the document if and
only if it is that of the entity kept for it, or of one that is not looked at. -/
theorem optimizedDocument_duplicates {c : Container} {stamp : String} {document : List (String × Json)}
    (distinct : ∀ kind, c.DistinctIds kind)
    (run : c.optimizedDocument (c.cleanUp false true) stamp = .ok document) :
    (c.cleanUp false true).changes = Comparable.all.flatMap c.repeatedChanges ∧
    (∃ (optimized : Container) (table : Text.Renames),
      Container.ofJson (.obj document) true none = .ok optimized ∧ ∀ kind : Comparable,
        List.Forall₂ (fun old new =>
          redirectItem (triggerRenames (c.pairs .triggers)) table kind old = .ok new)
          (c.unrepeated kind) (optimized.get kind.key).items) ∧
    ∀ kind, ∀ e ∈ c.repeated kind, ∃ keep ∈ c.entitiesOf kind, c.Survives kind keep ∧
      kind.signature keep = kind.signature e ∧
      ((∃ s, c.Survives kind s ∧ kind.configuration s = kind.configuration e) ↔
        kind.configuration keep = kind.configuration e ∨
          ∃ s ∈ c.allOf kind, s ∉ c.entitiesOf kind ∧ kind.configuration s = kind.configuration e) := by
  obtain ⟨v, cleaned, optimized, read, items⟩ := optimizedDocument_read run
  obtain ⟨log, _, written, _, _, redirected⟩ := cleanUp_duplicates cleaned
  refine ⟨log, ⟨optimized, renameTable written, read, fun kind => ?_⟩, fun kind e removed => ?_⟩
  · rw [items kind]
    exact redirected kind
  · exact (distinct kind).configuration_kept_iff removed

def taggedAs (id name type : String) : Entity :=
  ⟨[("tagId", .str id), ("name", .str name), ("type", .str type)]⟩

def ofTags (tags : List Entity) : Container :=
  ⟨[("containerVersion", .obj [("tag", .arr (tags.map Entity.toJson))])],
    [("tag", .arr (tags.map Entity.toJson))], true, none, rfl⟩

def equalTags : Container := ofTags [taggedAs "1" "A" "html", taggedAs "2" "B" "html"]

/-- Of two tags with one configuration the second is removed, and its configuration is kept. -/
theorem equalTags_merged : (∀ kind, equalTags.DistinctIds kind) ∧
    (∃ document, equalTags.optimizedDocument (equalTags.cleanUp false true) "7" = .ok document) ∧
    equalTags.repeated .tags = [taggedAs "2" "B" "html"] ∧
    ∃ s, equalTags.Survives .tags s ∧
      Comparable.tags.configuration s = Comparable.tags.configuration (taggedAs "2" "B" "html") := by
  have distinct : ∀ kind, equalTags.DistinctIds kind := by
    intro kind
    cases kind <;> (unfold DistinctIds; decide)
  obtain ⟨document, run⟩ := exists_ok_of_isOk
    (show (equalTags.optimizedDocument (equalTags.cleanUp false true) "7").isOk = true by decide +kernel)
  have removed : equalTags.repeated .tags = [taggedAs "2" "B" "html"] := rfl
  have left : equalTags.unrepeated .tags = [(taggedAs "1" "A" "html").toJson] := rfl
  obtain ⟨_, _, kept⟩ := optimizedDocument_duplicates distinct run
  obtain ⟨keep, _, survives, _, same⟩ := kept .tags _ (removed ▸ List.mem_cons_self)
  refine ⟨distinct, ⟨document, run⟩, removed, same.mpr (Or.inl ?_)⟩
  rw [Survives, left, List.mem_singleton] at survives
  cases keep
  cases survives
  rfl

def collidingTags : Container := ofTags [taggedAs "1" "A" "Aa", taggedAs "2" "B" "BB"]

/-- Two types of one checksum: the second of the tags is removed, though no tag with its configuration
is kept. -/
theorem collidingTags_merged : (∀ kind, collidingTags.DistinctIds kind) ∧
    (∃ document, collidingTags.optimizedDocument (collidingTags.cleanUp false true) "7" = .ok document) ∧
    (collidingTags.cleanUp false true).changes = [⟨.tags, "B", .duplicate⟩] ∧
    collidingTags.repeated .tags = [taggedAs "2" "B" "BB"] ∧ ∀ s, collidingTags.Survives .tags s →
      Comparable.tags.configuration s ≠ Comparable.tags.configuration (taggedAs "2" "B" "BB") := by
  obtain ⟨document, run⟩ := exists_ok_of_isOk (show
    (collidingTags.optimizedDocument (collidingTags.cleanUp false true) "7").isOk = true by decide +kernel)
  have removed : collidingTags.repeated .tags = [taggedAs "2" "B" "BB"] := rfl
  have left : collidingTags.unrepeated .tags = [(taggedAs "1" "A" "Aa").toJson] := rfl
  refine ⟨?_, ⟨document, run⟩, ?_, removed, ?_⟩
  · intro kind
    cases kind <;> (unfold DistinctIds; decide)
  · obtain ⟨_, cleaned, _⟩ := optimizedDocument_read run
    rw [(cleanUp_duplicates cleaned).1]
    simp only [Comparable.all, List.flatMap_cons, repeatedChanges, removed]
    rfl
  · rintro ⟨fields⟩ survives same
    rw [Survives, left, List.mem_singleton] at survives
    cases survives
    have types := (List.cons.inj same).1
    exact absurd (Json.str.inj types) (by decide)

end Container

end TagAudit

import TagAudit.Proofs.Cleanup.Unused

namespace TagAudit

namespace Cleanup

theorem remove_lookup_self (c : Cleanup) (kind : Comparable) (ids : List String) (reason : Reason) :
    Json.lookup (c.remove kind ids reason).version kind.key = (Json.lookup c.version kind.key).map fun _ =>
      .arr ((c.items kind).filter fun item => !isNamed kind ids item) := by
  unfold remove
  dsimp only
  cases found : Json.lookup c.version kind.key with
  | none =>
    rw [Option.isSome_none, if_neg Bool.false_ne_true, found]
    rfl
  | some value =>
    rw [Option.isSome_some, if_pos rfl, Json.lookup_assign_self]
    rfl

theorem remove_entities_of_ne (c : Cleanup) {kind other : Comparable} (ne : other ≠ kind) (ids : List String)
    (reason : Reason) : (c.remove kind ids reason).entities other = c.entities other := by
  rw [entities, remove_items_of_ne c ne, entities]

/-- An array of the version that is there becomes the list of what is left in it; no array is added. -/
theorem removeUnused_lookup (c : Cleanup) (container : Container) (kind : Comparable) :
    Json.lookup (c.removeUnused container).version kind.key = (Json.lookup c.version kind.key).map fun _ =>
      .arr ((c.items kind).filter fun item =>
        !isNamed kind ((unusedOf container kind).map (Entity.idOf kind)) item) := by
  have apart {other : Comparable} (ne : kind ≠ other) : kind.key ≠ other.key := fun same =>
    ne (Comparable.key_injective same)
  simp only [removeUnused, Comparable.all, List.foldl_cons, List.foldl_nil]
  cases kind with
  | tags =>
    rw [remove_lookup_of_ne _ (apart (by decide)), remove_lookup_of_ne _ (apart (by decide)), remove_lookup_self]
  | triggers =>
    rw [remove_lookup_of_ne _ (apart (by decide)), remove_lookup_self, remove_lookup_of_ne _ (apart (by decide)),
      remove_items_of_ne _ (by decide)]
  | userVariables =>
    rw [remove_lookup_self, remove_lookup_of_ne _ (apart (by decide)), remove_lookup_of_ne _ (apart (by decide)),
      remove_items_of_ne _ (by decide), remove_items_of_ne _ (by decide)]

/-- The log goes by kind. The entities of a kind are those of the start until its turn comes. -/
theorem removeUnused_changes (c : Cleanup) (container : Container) :
    (c.removeUnused container).changes = c.changes ++ Comparable.all.flatMap fun kind =>
      ((c.entities kind).filter fun e =>
        ((unusedOf container kind).map (Entity.idOf kind)).contains (e.idOf kind)).map fun e =>
          ⟨kind, e.rawName, .unused⟩ := by
  have logged (c : Cleanup) (kind : Comparable) (ids : List String) : (c.remove kind ids .unused).changes =
      c.changes ++ ((c.entities kind).filter fun e => ids.contains (e.idOf kind)).map fun e =>
        ⟨kind, e.rawName, .unused⟩ := rfl
  simp only [removeUnused, Comparable.all, List.foldl_cons, List.foldl_nil, List.flatMap_cons, List.flatMap_nil]
  rw [logged, logged, logged, remove_entities_of_ne _ (by decide), remove_entities_of_ne _ (by decide),
    remove_entities_of_ne _ (by decide), List.append_assoc, List.append_assoc, List.append_nil]

end Cleanup

namespace Container

open Cleanup

/-- What is logged about the unused entities of a kind. -/
def unusedChanges (c : Container) (kind : Comparable) : List Change :=
  (unusedOf c kind).map fun e => ⟨kind, e.rawName, .unused⟩

/-- The unused entities of a kind are told from the others by a test. -/
theorem exists_unusedOf_eq (c : Container) (kind : Comparable) :
    ∃ test : Entity → Bool, unusedOf c kind = (c.allOf kind).filter test := by
  cases kind with
  | tags => exact ⟨_, by rw [unusedOf, unusedTags, tags, entities, List.filter_filter, List.filter_filter]; rfl⟩
  | triggers => exact ⟨_, by rw [unusedOf, unusedTriggers, triggers, entities, List.filter_filter]; rfl⟩
  | userVariables => exact ⟨_, by rw [unusedOf, unusedVariables, userVariables, entities, List.filter_filter]; rfl⟩

variable {c : Container} {kind : Comparable}

/-- Identifiers are unique, so an entity has the identifier of an unused one only if it is unused. -/
theorem DistinctIds.named_iff (distinct : c.DistinctIds kind) {e : Entity} (present : e ∈ c.allOf kind) :
    ((unusedOf c kind).map (Entity.idOf kind)).contains (e.idOf kind) = true ↔ e ∈ unusedOf c kind := by
  rw [List.contains_iff_mem]
  exact distinct.idOf_mem_iff (fun f unused => (c.unusedOf_sublist kind).subset unused) present

theorem DistinctIds.filter_unused (distinct : c.DistinctIds kind) : (c.allOf kind).filter (fun e =>
    ((unusedOf c kind).map (Entity.idOf kind)).contains (e.idOf kind)) = unusedOf c kind := by
  obtain ⟨test, selected⟩ := c.exists_unusedOf_eq kind
  refine Eq.trans (List.filter_congr fun e present => ?_) selected.symm
  have member : e ∈ unusedOf c kind ↔ test e = true := by
    rw [selected, List.mem_filter]
    exact and_iff_right present
  rw [Bool.eq_iff_iff, distinct.named_iff present, member]

open Classical in
theorem DistinctIds.filter_items (distinct : c.DistinctIds kind) : ((c.get kind.key).items.filter fun item =>
    !isNamed kind ((unusedOf c kind).map (Entity.idOf kind)) item) =
      (c.get kind.key).items.filter fun item => item ∉ (unusedOf c kind).map Entity.toJson := by
  refine List.filter_congr fun item inside => ?_
  have same : isNamed kind ((unusedOf c kind).map (Entity.idOf kind)) item = true ↔
      item ∈ (unusedOf c kind).map Entity.toJson := by
    cases item with
    | obj fields =>
      have present : (⟨fields⟩ : Entity) ∈ c.allOf kind := Entity.mem_filterMap_ofJson?.mpr inside
      refine (distinct.named_iff present).trans ⟨fun unused => List.mem_map_of_mem unused, fun written => ?_⟩
      obtain ⟨e, unused, same⟩ := List.mem_map.mp written
      cases e
      cases same
      exact unused
    | _ => simp [isNamed, Entity.ofJson?, Entity.toJson]
  rw [Bool.eq_iff_iff, decide_eq_true_iff, Bool.not_eq_true', ← Bool.not_eq_true, same]

open Classical in
/-- Removing what is unused removes exactly the unused entities: every other entry of an array stays as it
is, in its place, the log lists the unused entities by kind in their order, and apart from the stamps
nothing else in the document changes. -/
theorem optimizedDocument_unused (distinct : ∀ kind, c.DistinctIds kind) (stamp : String) :
    ∃ document version, c.optimizedDocument (c.cleanUp true false) stamp = .ok document ∧
      Json.lookup document "containerVersion" = some (.obj version) ∧
      (∀ kind : Comparable, Json.lookup version kind.key = (Json.lookup c.version kind.key).map fun _ =>
        .arr ((c.get kind.key).items.filter fun item => item ∉ (unusedOf c kind).map Entity.toJson)) ∧
      (c.cleanUp true false).changes = Comparable.all.flatMap c.unusedChanges ∧
      (∀ kind, (unusedOf c kind).Sublist (c.allOf kind)) ∧
      (∀ key, (∀ kind : Comparable, key ≠ kind.key) → key ≠ "containerVersionId" → key ≠ "fingerprint" →
        Json.lookup version key = Json.lookup c.version key) ∧
      ∀ key, key ≠ "containerVersion" → Json.lookup document key = Json.lookup c.document key := by
  let left := Cleanup.removeUnused ⟨c.version, []⟩ c
  refine ⟨_, stampVersion stamp left.version, rfl, Json.lookup_assign_self _ _ _, fun kind => ?_, ?_,
    c.unusedOf_sublist, fun key other notId notFingerprint => ?_, fun key other => Json.lookup_assign_of_ne other _ _⟩
  · have notId : kind.key ≠ "containerVersionId" := by cases kind <;> decide
    have notFingerprint : kind.key ≠ "fingerprint" := by cases kind <;> decide
    rw [lookup_stampVersion notId notFingerprint, removeUnused_lookup, ← (distinct kind).filter_items]
    rfl
  · have log : (c.cleanUp true false).changes = left.changes := rfl
    rw [log, removeUnused_changes, List.nil_append]
    refine List.flatMap_congr fun kind _ => ?_
    have all : Cleanup.entities ⟨c.version, []⟩ kind = c.allOf kind := rfl
    rw [all, (distinct kind).filter_unused, unusedChanges]
  · rw [lookup_stampVersion notId notFingerprint, removeUnused_lookup_of_ne _ c other]

def idleTag : Entity := ⟨[("tagId", "4"), ("name", "Chat"), ("firingTriggerId", .arr ["9"])]⟩

def firedTag : Entity := ⟨[("tagId", "3"), ("name", "Pixel"), ("firingTriggerId", .arr ["6"])]⟩

def restingTag : Entity :=
  ⟨[("tagId", "2"), ("name", "Survey"), ("paused", true), ("firingTriggerId", .arr ["5"])]⟩

def publishedTag : Entity := ⟨[("tagId", "1"), ("name", "Banner"), ("liveOnly", true)]⟩

def clicks : Entity := ⟨[("triggerId", "5"), ("name", "All clicks"), ("type", "CLICK")]⟩

def views : Entity := ⟨[("triggerId", "6"), ("name", "All views"), ("type", "PAGEVIEW")]⟩

/-- The fields of a version with an entry that is no object, a tag of the published version only, a paused
tag and its trigger, a tag that a trigger fires, and a tag that nothing fires. -/
def mixedVersion : List (String × Json) :=
  [("tag", .arr ["note", idleTag.toJson, firedTag.toJson, restingTag.toJson, publishedTag.toJson]),
    ("trigger", .arr [clicks.toJson, views.toJson])]

/-- A container that does not look at paused tags. -/
def mixed : Container := ⟨[("containerVersion", .obj mixedVersion)], mixedVersion, false, none, rfl⟩

/-- The tag that nothing fires goes, and the trigger that only a tag uses that is not looked at. -/
theorem mixed_unused : (∀ kind, mixed.DistinctIds kind) ∧ ∃ document version,
    mixed.optimizedDocument (mixed.cleanUp true false) "7" = .ok document ∧
    Json.lookup document "containerVersion" = some (.obj version) ∧
    Json.lookup version "tag" =
      some (.arr ["note", firedTag.toJson, restingTag.toJson, publishedTag.toJson]) ∧
    Json.lookup version "trigger" = some (.arr [views.toJson]) ∧
    Json.lookup version "variable" = none ∧
    (mixed.cleanUp true false).changes = [⟨.tags, "Chat", .unused⟩, ⟨.triggers, "All clicks", .unused⟩] := by
  have distinct : ∀ kind, mixed.DistinctIds kind := by
    intro kind
    cases kind <;> (unfold DistinctIds; decide)
  have tags : unusedOf mixed .tags = [idleTag] := by cbv
  have triggers : unusedOf mixed .triggers = [clicks] := by cbv
  have others : unusedOf mixed .userVariables = [] := by cbv
  have tagItems : (mixed.get Comparable.tags.key).items =
    [.str "note", idleTag.toJson, firedTag.toJson, restingTag.toJson, publishedTag.toJson] := rfl
  have triggerItems : (mixed.get Comparable.triggers.key).items = [clicks.toJson, views.toJson] := rfl
  obtain ⟨document, version, run, found, arrays, log, _⟩ := optimizedDocument_unused distinct "7"
  have tagArray := arrays .tags
  have triggerArray := arrays .triggers
  rw [tagItems, tags] at tagArray
  rw [triggerItems, triggers] at triggerArray
  refine ⟨distinct, document, version, run, found, tagArray.trans ?_, triggerArray.trans ?_,
    arrays .userVariables, ?_⟩
  · simp [mixed, mixedVersion, Comparable.key, Json.lookup, Entity.toJson, idleTag, firedTag, restingTag,
      publishedTag]
  · simp [mixed, mixedVersion, Comparable.key, Json.lookup, Entity.toJson, clicks, views]
  · rw [log]
    simp only [Comparable.all, List.flatMap_cons, unusedChanges, tags, triggers, others]
    rfl

end Container

end TagAudit

import TagAudit.Proofs.Cleanup.Remaining

namespace TagAudit

/-- A trigger that counts as used whatever refers to it. -/
def Entity.isSystemTrigger (t : Entity) : Bool :=
  t.id "triggerId" == allPagesId || (t.get "builtIn").holds || t.isBuiltIn

theorem Cleanup.Redirected.isBuiltIn {triggers : List (String × String)} {table : Text.Renames} {kind : Kind}
    {old new : Entity} (redirected : Redirected triggers table kind old new) : new.isBuiltIn = old.isBuiltIn := by
  rw [Entity.isBuiltIn, Entity.type, redirected.get (by decide) (by decide), redirected.get (by decide) (by decide),
    Json.textOrEmpty_renameReferences, Json.textOrEmpty_renameReferences, Entity.isBuiltIn, Entity.type]

namespace Container

open Cleanup

/-- No signature occurs twice exactly if no two entities have one signature. -/
theorem duplicates_eq_nil_iff {c : Container} {kind : Comparable} : c.duplicates kind = [] ↔
    (c.entitiesOf kind).Pairwise fun e f => kind.signature e ≠ kind.signature f := by
  have counted (signature : String) :
      ((c.entitiesOf kind).map kind.signature).count signature = (c.group kind signature).length := by
    rw [List.count_eq_countP, List.countP_map, List.countP_eq_length_filter]
    rfl
  have once : ((c.entitiesOf kind).Pairwise fun e f => kind.signature e ≠ kind.signature f) ↔
      ((c.entitiesOf kind).map kind.signature).Nodup := List.pairwise_map.symm
  rw [once, List.nodup_iff_count_le_one, duplicates, List.filter_eq_nil_iff]
  constructor
  · intro none signature
    rw [counted]
    by_contra several
    obtain ⟨e, member⟩ := List.exists_mem_of_length_pos (show 0 < (c.group kind signature).length by omega)
    obtain ⟨ofKind, rfl⟩ := mem_group.mp member
    refine none (_, c.group kind (kind.signature e)) (mem_groupBy.mpr ⟨List.mem_map_of_mem ofKind, rfl⟩) ?_
    exact decide_eq_true (by omega)
  · rintro single ⟨signature, members⟩ grouped several
    obtain ⟨_, rfl⟩ := mem_groupBy.mp grouped
    have bound := single signature
    rw [counted] at bound
    exact absurd (of_decide_eq_true several) (Nat.not_lt.mpr bound)

/-- Nothing is unused, and nothing is there twice. -/
structure Clean (c : Container) : Prop where
  used : ∀ kind, unusedOf c kind = []
  single : ∀ kind, c.duplicates kind = []

/-- A document whose identifiers and names are unique texts, and whose references are written as the
optimizer looks for them. -/
structure Orderly (c : Container) : Prop where
  objects : ∀ item ∈ (c.get "tag").items, (Entity.ofJson? item).isSome = true
  distinct : ∀ kind, c.DistinctIds kind
  identified : ∀ t ∈ c.allOf .triggers, (t.get "triggerId").isText = true
  fired : ∀ tag ∈ c.allOf .tags, ∀ field ∈ triggerFields, ∀ value ∈ (tag.get field).items, value.isText = true
  grouped : ∀ t ∈ c.allOf .triggers, ∀ value ∈ t.members, value.isText = true
  names : ((c.allOf .userVariables).map Entity.name).Nodup
  referable : ∀ v ∈ c.allOf .userVariables, Text.Referable v.name.toList
  exact : ∀ kind : Kind, ∀ e ∈ c.objects kind.label, ∀ name ∈ e.written kind,
    ¬ Text.Nested name ∧ Text.trim name = name

/-- The identifier that stands for one of a trigger when unused entities and duplicates are removed. -/
def keptId (c : Container) (id : String) : String :=
  kept (Entity.idOf .triggers) ((c.base true).pairs c .triggers) id

/-- The name that stands for one of a variable when unused entities and duplicates are removed. -/
def keptName (c : Container) (name : String) : String :=
  kept Entity.name ((c.base true).pairs c .userVariables) name

/-- What an entity that is left becomes when unused entities and duplicates are removed. -/
def Becomes (c : Container) (kind : Kind) (old new : Entity) : Prop :=
  Redirected (triggerRenames ((c.base true).pairs c .triggers)) (tableOf ((c.base true).pairs c .userVariables))
    kind old new

/-- What remains needs what remains: no trigger and no variable is there only for something that is removed,
and no two entities become alike when their references are redirected. -/
structure Settled (c : Container) : Prop where
  triggers : ∀ t ∈ c.remaining .trigger, t.isSystemTrigger = true ∨
    (∃ tag ∈ c.remaining .tag, ∃ id ∈ tag.triggerIds, c.keptId id = t.id "triggerId") ∨
    ∃ group ∈ c.remaining .trigger, t.id "triggerId" ∈ group.memberIds
  userVariables : ∀ v ∈ c.remaining .variable, v.isBuiltIn = true ∨ ∃ kind, ∃ e ∈ c.remaining kind,
    (∃ name ∈ e.references kind, c.keptName name = v.name) ∧ ¬(kind = .variable ∧ e.name = v.name)
  apart : ∀ kind : Comparable, (c.remaining kind.asKind).Pairwise fun e f => ∀ e' f',
    c.Becomes kind.asKind e e' → c.Becomes kind.asKind f f' → kind.signature e' ≠ kind.signature f'

theorem objects_of_remaining {c : Container} {kind : Kind} {e : Entity} (member : e ∈ c.remaining kind) :
    e ∈ c.objects kind.label :=
  c.objects_of_left (List.mem_filter.mp member).1

section

variable {c : Container} (orderly : c.Orderly) {old new : Entity}
include orderly

theorem Orderly.coherent_ids : Coherent (Entity.idOf .triggers) ((c.base true).pairs c .triggers) :=
  coherent_pairs (orderly.distinct .triggers) _

theorem Orderly.coherent_names : Coherent Entity.name ((c.base true).pairs c .userVariables) :=
  coherent_pairs orderly.names _

theorem Orderly.named : Named ((c.base true).pairs c .userVariables) := fun _ member =>
  have ⟨keep, duplicate, _⟩ := pair_of_mem member
  ⟨orderly.referable _ ((c.entitiesOf_sublist _).subset keep),
    orderly.referable _ ((c.entitiesOf_sublist _).subset duplicate)⟩

theorem Orderly.exists_document (stamp : String) :
    ∃ document, c.optimizedDocument (c.cleanUp true true) stamp = .ok document := by
  refine exists_optimizedDocument c true stamp (fun item member => ?_) fun v member =>
    written_of_referable (orderly.referable v member)
  obtain ⟨tag, read⟩ := Option.isSome_iff_exists.mp (orderly.objects item member)
  obtain rfl : item = tag.toJson := by cases item <;> cases read; rfl
  refine ⟨tag, rfl, fun field inField value inside => ?_⟩
  obtain ⟨id, rfl⟩ := Json.exists_of_isText
    (orderly.fired tag (Entity.mem_filterMap_ofJson?.mpr member) field inField value inside)
  rfl

theorem Orderly.becomes_id (present : old ∈ c.remaining .trigger) (becomes : c.Becomes .trigger old new) :
    new.get "triggerId" = old.get "triggerId" := by
  obtain ⟨id, written⟩ := Json.exists_of_isText (orderly.identified old (objects_of_remaining present))
  rw [becomes.get (by decide) (by decide), written, Json.renameReferences_of_scalar _ rfl]

theorem Orderly.becomes_system (present : old ∈ c.remaining .trigger) (becomes : c.Becomes .trigger old new) :
    new.isSystemTrigger = old.isSystemTrigger := by
  rw [Entity.isSystemTrigger, Entity.id, orderly.becomes_id present becomes, becomes.get (by decide) (by decide),
    Json.holds_renameReferences, becomes.isBuiltIn, Entity.isSystemTrigger, Entity.id]

theorem Orderly.becomes_memberIds (present : old ∈ c.remaining .trigger) (becomes : c.Becomes .trigger old new) :
    new.memberIds = old.memberIds := by
  refine becomes.memberIds fun value inside => ?_
  obtain ⟨id, rfl⟩ := Json.exists_of_isText (orderly.grouped old (objects_of_remaining present) value inside)
  rfl

/-- A tag refers in each field to what is kept for what it referred to, and to nothing else. -/
theorem Orderly.becomes_field (present : old ∈ c.remaining .tag) (becomes : c.Becomes .tag old new) {field : String}
    (member : field ∈ triggerFields) {id : String} : (∃ value ∈ (new.get field).items, value.text = id) ↔
      ∃ value ∈ (old.get field).items, c.keptId value.text = id := by
  have run := becomes.remapped rfl member
  have text (value : Json) := remapTrigger_text orderly.coherent_ids value
  constructor
  · rintro ⟨_, inside, rfl⟩
    obtain ⟨_, former, there, rfl⟩ := mem_of_mem_remapTriggers run inside
    exact ⟨former, there, (text former).symm⟩
  · rintro ⟨value, inside, rfl⟩
    obtain ⟨s, rfl⟩ :=
      Json.exists_of_isText (orderly.fired old (objects_of_remaining present) field member value inside)
    exact ⟨_, remapTrigger_mem run inside, text (.str s)⟩

theorem Orderly.becomes_triggerIds (present : old ∈ c.remaining .tag) (becomes : c.Becomes .tag old new)
    {id : String} : id ∈ new.triggerIds ↔ ∃ former ∈ old.triggerIds, c.keptId former = id := by
  rw [Entity.mem_triggerIds]
  constructor
  · rintro ⟨field, member, refers⟩
    obtain ⟨value, inside, same⟩ := (orderly.becomes_field present becomes member).mp refers
    exact ⟨value.text, Entity.mem_triggerIds.mpr ⟨field, member, value, inside, rfl⟩, same⟩
  · rintro ⟨former, refers, same⟩
    obtain ⟨field, member, value, inside, rfl⟩ := Entity.mem_triggerIds.mp refers
    exact ⟨field, member, (orderly.becomes_field present becomes member).mpr ⟨value, inside, same⟩⟩

theorem Orderly.becomes_references {kind : Kind} (present : old ∈ c.remaining kind) (becomes : c.Becomes kind old new)
    {name : String} : name ∈ new.references kind ↔ ∃ former ∈ old.references kind, c.keptName former = name := by
  have exact := orderly.exact kind old (objects_of_remaining present)
  have unpadded : ∀ p ∈ (c.base true).pairs c .userVariables, ¬ p.Padded kind old := by
    rintro p _ ⟨written, inside, _, padded⟩
    exact padded (exact written inside).2
  rw [(Redirected.references_eq_iff orderly.coherent_names orderly.named becomes
    fun written inside => (exact written inside).1).mpr unpadded, mem_distinct, List.mem_map]
  rfl

end

section

variable {c optimized : Container} (orderly : c.Orderly)
  (regarded : ∀ kind, List.Forall₂ (c.Becomes kind) (c.remaining kind) (optimized.regarded kind))
include orderly

theorem Orderly.id_not_null {t : Entity} (present : t ∈ c.allOf .triggers) : (t.get "triggerId").isNull = false := by
  obtain ⟨id, written⟩ := Json.exists_of_isText (orderly.identified t present)
  rw [written]
  rfl

theorem Orderly.becomes_idOrEmpty {old new : Entity} (present : old ∈ c.remaining .trigger)
    (becomes : c.Becomes .trigger old new) : new.idOrEmpty "triggerId" = old.id "triggerId" := by
  have same := orderly.becomes_id present becomes
  have notNull := orderly.id_not_null (objects_of_remaining present)
  rw [Entity.idOrEmpty_of_not_null (same ▸ notNull), Entity.id, same, Entity.id]

/-- The trigger that a tag uses is not unused. -/
theorem Orderly.not_unused {tag t : Entity} (looked : tag ∈ c.tags) (member : t ∈ c.triggers)
    (refers : t.id "triggerId" ∈ tag.triggerIds) : t ∉ unusedOf c .triggers := by
  intro unused
  have other := (List.mem_filter.mp unused).2
  dsimp only at other
  have used : t.id "triggerId" ∈ c.triggerUses.map (·.1) := mem_triggerUses.mpr (Or.inl ⟨tag, looked, refers⟩)
  have notNull := orderly.id_not_null ((c.entitiesOf_sublist .triggers).subset member)
  rw [Entity.idOrEmpty_of_not_null notNull, List.contains_iff_mem.mpr used] at other
  simp at other

include regarded

/-- A trigger that a tag uses is a trigger of the cleaned document, or another one is kept in its place. -/
theorem Orderly.isTriggerId_keptId {tag : Entity} (looked : tag ∈ c.tags) {id : String} (refers : id ∈ tag.triggerIds)
    (valid : c.isTriggerId id = true) : optimized.isTriggerId (c.keptId id) = true := by
  rw [isTriggerId_iff]
  by_cases present : ∃ t ∈ c.triggers, t.id "triggerId" = id
  · obtain ⟨t, member, rfl⟩ := present
    obtain ⟨keep, left, same⟩ := (orderly.distinct .triggers).kept_remaining member
      (orderly.not_unused looked member refers)
    obtain ⟨new, there, becomes⟩ := forall₂_of_mem_left (regarded .trigger) left
    have sameId := orderly.becomes_id left becomes
    refine Or.inr ⟨new, there, ?_, ?_⟩
    · rw [sameId]
      exact orderly.id_not_null (objects_of_remaining left)
    · rw [Entity.id, sameId]
      exact same
  · have single : c.keptId id = id := kept_of_not_mem fun p member same =>
      present ⟨p.duplicate, (pair_of_mem member).2.1, same⟩
    rw [single]
    rcases isTriggerId_iff.mp valid with all | ⟨t, member, _, same⟩
    · exact Or.inl all
    · exact absurd ⟨t, member, same⟩ present

/-- A tag that is left has a trigger that is left. -/
theorem Orderly.unusedTags_eq_nil : optimized.unusedTags = [] := by
  refine List.filter_eq_nil_iff.mpr fun new there => ?_
  obtain ⟨tag, left, becomes⟩ := forall₂_of_mem_right (regarded .tag) there
  obtain ⟨kept, looked⟩ := (mem_remaining .tags).mp left
  have fires : tag.firingIds.any c.isTriggerId = true := by
    by_contra none
    have unused : tag ∈ unusedOf c .tags := List.mem_filter.mpr ⟨looked, by simpa using none⟩
    exact ((orderly.distinct .tags).mem_left.mp kept).2.1 unused
  obtain ⟨id, fired, valid⟩ := List.any_eq_true.mp fires
  obtain ⟨value, inside, rfl⟩ := List.mem_map.mp fired
  have refers : value.text ∈ tag.triggerIds :=
    Entity.mem_triggerIds.mpr ⟨_, List.mem_cons_self, value, inside, rfl⟩
  obtain ⟨newValue, newInside, same⟩ :=
    (orderly.becomes_field left becomes List.mem_cons_self).mpr ⟨value, inside, rfl⟩
  have still := orderly.isTriggerId_keptId regarded looked refers valid
  rw [← same] at still
  have firesNew : new.firingIds.any optimized.isTriggerId = true :=
    List.any_eq_true.mpr ⟨newValue.text, List.mem_map_of_mem newInside, still⟩
  rw [firesNew]
  decide

theorem Orderly.mem_triggerUses {id : String} : id ∈ optimized.triggerUses.map (·.1) ↔
    (∃ tag ∈ c.remaining .tag, ∃ former ∈ tag.triggerIds, c.keptId former = id) ∨
      ∃ group ∈ c.remaining .trigger, id ∈ group.memberIds := by
  rw [Container.mem_triggerUses]
  refine or_congr (forall₂_exists_iff (regarded .tag) fun tag present new becomes => ?_)
    (forall₂_exists_iff (regarded .trigger) fun group present new becomes => ?_)
  · exact orderly.becomes_triggerIds present becomes
  · rw [← orderly.becomes_memberIds present becomes]
    rfl

theorem Orderly.unusedTriggers_eq_nil_iff : optimized.unusedTriggers = [] ↔
    ∀ t ∈ c.remaining .trigger, t.isSystemTrigger = true ∨
      (∃ tag ∈ c.remaining .tag, ∃ id ∈ tag.triggerIds, c.keptId id = t.id "triggerId") ∨
      ∃ group ∈ c.remaining .trigger, t.id "triggerId" ∈ group.memberIds := by
  rw [unusedTriggers, List.filter_eq_nil_iff]
  refine forall₂_forall_iff (regarded .trigger) fun t present new becomes => ?_
  have system := orderly.becomes_system present becomes
  rw [Entity.isSystemTrigger, Entity.id, orderly.becomes_id present becomes, ← Entity.id] at system
  dsimp only
  rw [orderly.becomes_idOrEmpty present becomes, system, ← orderly.mem_triggerUses regarded, Bool.not_eq_true',
    Bool.not_eq_false, Bool.or_eq_true, List.contains_iff_mem]

theorem Orderly.unusedVariables_eq_nil_iff : optimized.unusedVariables = [] ↔
    ∀ v ∈ c.remaining .variable, v.isBuiltIn = true ∨ ∃ kind, ∃ e ∈ c.remaining kind,
      (∃ name ∈ e.references kind, c.keptName name = v.name) ∧ ¬(kind = .variable ∧ e.name = v.name) := by
  rw [unusedVariables, List.filter_eq_nil_iff]
  refine forall₂_forall_iff (regarded .variable) fun v present new becomes => ?_
  have used : v.name ∈ (optimized.references.filter fun r => !r.isSelf).map (·.target) ↔
      ∃ kind, ∃ e ∈ c.remaining kind, (∃ name ∈ e.references kind, c.keptName name = v.name) ∧
        ¬(kind = .variable ∧ e.name = v.name) := by
    rw [mem_used_iff]
    refine exists_congr fun kind => forall₂_exists_iff (regarded kind) fun e member other redirected => ?_
    rw [orderly.becomes_references member redirected, redirected.name]
  have either : ∀ builtIn used : Bool, ¬ (!builtIn && !used) = true ↔ builtIn = true ∨ used = true := by decide
  rw [becomes.isBuiltIn, becomes.name, ← used, ← List.contains_iff_mem, either]

theorem Orderly.clean_iff_settled : optimized.Clean ↔ c.Settled := by
  have apart (kind : Comparable) : optimized.duplicates kind = [] ↔
      (c.remaining kind.asKind).Pairwise fun e f => ∀ e' f',
        c.Becomes kind.asKind e e' → c.Becomes kind.asKind f f' → kind.signature e' ≠ kind.signature f' := by
    rw [duplicates_eq_nil_iff, entitiesOf_eq]
    exact forall₂_pairwise_iff (regarded kind.asKind) fun _ _ _ first second => first.unique second
  constructor
  · intro clean
    exact ⟨(orderly.unusedTriggers_eq_nil_iff regarded).mp (clean.used .triggers),
      (orderly.unusedVariables_eq_nil_iff regarded).mp (clean.used .userVariables),
      fun kind => (apart kind).mp (clean.single kind)⟩
  · intro settled
    refine ⟨fun kind => ?_, fun kind => (apart kind).mpr (settled.apart kind)⟩
    cases kind with
    | tags => exact orderly.unusedTags_eq_nil regarded
    | triggers => exact (orderly.unusedTriggers_eq_nil_iff regarded).mpr settled.triggers
    | userVariables => exact (orderly.unusedVariables_eq_nil_iff regarded).mpr settled.userVariables

end

/-- What removing unused entities and duplicates leaves. A tag that is left still has a trigger, so none of
them is unused. The rest is clean exactly if it is settled: the unused entities are looked up once, before
anything is removed, so what only a removed entity uses is left, and so are entities that become alike when
their references are redirected. -/
theorem optimizedDocument_clean_iff {c : Container} (orderly : c.Orderly) (stamp : String)
    (source : Option String) : ∃ document optimized,
      c.optimizedDocument (c.cleanUp true true) stamp = .ok document ∧
      Container.ofJson (.obj document) c.includePaused source = .ok optimized ∧
      (∀ kind e, e ∈ c.remaining (Comparable.asKind kind) ↔ e ∈ c.entitiesOf kind ∧ e ∉ unusedOf c kind ∧
        ∀ p ∈ (c.base true).pairs c kind, p.duplicate ≠ e) ∧
      (∀ kind, List.Forall₂ (c.Becomes kind) (c.remaining kind) (optimized.regarded kind)) ∧
      optimized.unusedTags = [] ∧ (optimized.Clean ↔ c.Settled) := by
  obtain ⟨document, run⟩ := orderly.exists_document stamp
  obtain ⟨optimized, read, sameFlag, left⟩ := optimizedDocument_named orderly.named run c.includePaused source
  have regarded (kind : Kind) : List.Forall₂ (c.Becomes kind) (c.remaining kind) (optimized.regarded kind) :=
    regarded_redirected sameFlag (left kind)
  refine ⟨document, optimized, run, read, fun kind e => ?_, regarded, orderly.unusedTags_eq_nil regarded,
    orderly.clean_iff_settled regarded⟩
  rw [mem_remaining, (orderly.distinct kind).mem_left]
  constructor
  · rintro ⟨⟨_, kept⟩, member⟩
    exact ⟨member, kept⟩
  · rintro ⟨member, kept⟩
    exact ⟨⟨(c.entitiesOf_sublist kind).subset member, kept⟩, member⟩

def pricedTag (id name : String) : Entity :=
  ⟨[("tagId", .str id), ("name", .str name), ("type", "html"),
    ("parameter", .arr [.obj [("type", "TEMPLATE"), ("key", "html"), ("value", "\x7b\x7bPrice\x7d\x7d")]]),
    ("firingTriggerId", .arr ["10"])]⟩

def scriptVariable (id name script : String) : Entity :=
  ⟨[("variableId", .str id), ("name", .str name), ("type", "jsm"),
    ("parameter", .arr [.obj [("type", "TEMPLATE"), ("key", "javascript"), ("value", .str script)]])]⟩

def pricedVersion : List (String × Json) :=
  [("tag", .arr [(pricedTag "1" "A").toJson, (pricedTag "2" "B").toJson]),
    ("trigger", .arr [(plainTrigger "10" "All clicks" "CLICK").toJson]),
    ("variable", .arr [(scriptVariable "1" "Price" "1").toJson, (scriptVariable "2" "Old" "2").toJson])]

/-- A container with a tag, a copy of it, their trigger, their variable, and a variable that nothing refers to. -/
def priced : Container := ⟨[("containerVersion", .obj pricedVersion)], pricedVersion, true, none, rfl⟩

theorem priced_orderly : priced.Orderly where
  objects := by decide +kernel
  distinct kind := by cases kind <;> (unfold DistinctIds; decide +kernel)
  identified := by decide +kernel
  fired := by decide +kernel
  grouped := by decide +kernel
  names := by decide +kernel
  referable := by decide +kernel
  exact kind := by cases kind <;> decide +kernel

theorem priced_remaining : (priced.remaining .tag).map Entity.name = ["A"] ∧
    (priced.remaining .trigger).map Entity.name = ["All clicks"] ∧
    (priced.remaining .variable).map Entity.name = ["Price"] ∧
    priced.keptId "10" = "10" ∧ priced.keptName "Price" = "Price" := by
  decide +kernel

theorem pricedTag_remaining : pricedTag "1" "A" ∈ priced.remaining .tag := by
  have named : "A" ∈ (priced.remaining .tag).map Entity.name := priced_remaining.1 ▸ List.mem_cons_self
  obtain ⟨tag, left, name⟩ := List.mem_map.mp named
  have either : tag ∈ [pricedTag "1" "A", pricedTag "2" "B"] := ((mem_remaining .tags).mp left).2
  rcases List.mem_cons.mp either with rfl | second
  · exact left
  · obtain rfl := List.mem_singleton.mp second
    exact absurd name (by decide)

theorem priced_settled : priced.Settled where
  triggers t left := by
    have only : t ∈ [plainTrigger "10" "All clicks" "CLICK"] := ((mem_remaining .triggers).mp left).2
    obtain rfl := List.mem_singleton.mp only
    exact Or.inr (Or.inl ⟨_, pricedTag_remaining, "10", by decide, priced_remaining.2.2.2.1⟩)
  userVariables v left := by
    have named : v.name = "Price" := List.mem_singleton.mp (priced_remaining.2.2.1 ▸ List.mem_map_of_mem left)
    rw [named]
    exact Or.inr ⟨.tag, _, pricedTag_remaining, ⟨"Price", by decide +kernel, priced_remaining.2.2.2.2⟩, by decide⟩
  apart kind := by
    have single : ((priced.remaining kind.asKind).map Entity.name).length ≤ 1 := by
      obtain ⟨tags, triggers, userVariables, _⟩ := priced_remaining
      cases kind with
      | tags => exact tags ▸ le_rfl
      | triggers => exact triggers ▸ le_rfl
      | userVariables => exact userVariables ▸ le_rfl
    rw [List.length_map] at single
    match priced.remaining kind.asKind, single with
    | [], _ => exact .nil
    | [e], _ => exact List.pairwise_singleton _ e

/-- The copy and the variable that nothing refers to are removed, and what is left is clean. -/
theorem priced_clean : priced.Orderly ∧ ∃ document optimized,
    priced.optimizedDocument (priced.cleanUp true true) "7" = .ok document ∧
    Container.ofJson (.obj document) true none = .ok optimized ∧
    (∃ tag ∈ optimized.tags, tag.name = "A") ∧ optimized.Clean := by
  obtain ⟨document, optimized, run, read, _, becomes, _, clean⟩ :=
    optimizedDocument_clean_iff priced_orderly "7" none
  obtain ⟨tag, present, redirected⟩ := forall₂_of_mem_left (becomes .tag) pricedTag_remaining
  exact ⟨priced_orderly, document, optimized, run, read, ⟨tag, present, redirected.name⟩,
    clean.mpr priced_settled⟩

def totalsVersion : List (String × Json) :=
  [("variable", .arr [(scriptVariable "1" "Total" "\x7b\x7bPrice\x7d\x7d").toJson,
    (scriptVariable "2" "Price" "1").toJson])]

/-- A container with a variable that nothing refers to, and one that only the first refers to. -/
def totals : Container := ⟨[("containerVersion", .obj totalsVersion)], totalsVersion, true, none, rfl⟩

theorem totals_orderly : totals.Orderly where
  objects := by decide +kernel
  distinct kind := by cases kind <;> (unfold DistinctIds; decide +kernel)
  identified := by decide +kernel
  fired := by decide +kernel
  grouped := by decide +kernel
  names := by decide +kernel
  referable := by decide +kernel
  exact kind := by cases kind <;> decide +kernel

/-- The variable that only a removed variable refers to is left, and unused. -/
theorem totals_unused : totals.Orderly ∧ ∃ document optimized,
    totals.optimizedDocument (totals.cleanUp true true) "7" = .ok document ∧
    Container.ofJson (.obj document) true none = .ok optimized ∧ optimized.unusedVariables ≠ [] ∧
    ¬ optimized.Clean := by
  obtain ⟨document, run⟩ := totals_orderly.exists_document "7"
  obtain ⟨optimized, read, sameFlag, left⟩ := optimizedDocument_named totals_orderly.named run true none
  have regarded (kind : Kind) :
      List.Forall₂ (totals.Becomes kind) (totals.remaining kind) (optimized.regarded kind) :=
    regarded_redirected sameFlag (left kind)
  have unused : optimized.unusedVariables ≠ [] := by
    intro none
    have names : (totals.remaining .variable).map Entity.name = ["Price"] := by decide +kernel
    have alone : ∀ kind, ∀ e ∈ totals.remaining kind, e.references kind = [] := by
      intro kind
      cases kind <;> decide +kernel
    have own : ∀ v ∈ totals.remaining .variable, v.isBuiltIn = false := by decide +kernel
    obtain ⟨v, left, _⟩ := List.mem_map.mp (names ▸ List.mem_cons_self : "Price" ∈ _)
    rcases (totals_orderly.unusedVariables_eq_nil_iff regarded).mp none v left with builtIn | used
    · rw [own v left] at builtIn
      cases builtIn
    · obtain ⟨kind, e, present, ⟨name, refers, _⟩, _⟩ := used
      rw [alone kind e present] at refers
      cases refers
  exact ⟨totals_orderly, document, optimized, run, read, unused, fun clean => unused (clean.used .userVariables)⟩

end Container

end TagAudit

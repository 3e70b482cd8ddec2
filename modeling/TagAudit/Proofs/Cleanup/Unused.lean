import TagAudit.Proofs.Cleanup.Merging
import TagAudit.Proofs.Json.Objects

namespace TagAudit

theorem Text.references_named (text : String) : "" ∉ Text.references text := by
  intro member
  obtain ⟨name, _, some⟩ := List.mem_filterMap.mp member
  cases name <;> simp at some

namespace Json

theorem ownReferences_named (fields : List (String × Json)) : "" ∉ ownReferences fields := by
  unfold ownReferences
  split
  · exact Text.references_named _
  · exact List.not_mem_nil

/-- Blank names are not taken for references, wherever they stand. -/
theorem references_named (value : Json) : "" ∉ value.references := by
  rw [collects_references.eq_flatMap]
  intro member
  obtain ⟨fields, _, own⟩ := List.mem_flatMap.mp member
  exact ownReferences_named fields own

end Json

namespace Entity

theorem references_named (kind : Kind) (e : Entity) : "" ∉ e.references kind := by
  rw [references, mem_distinct]
  exact Json.references_named _

/-- The identifiers of the triggers that fire a tag or keep it from firing. -/
def triggerIds (tag : Entity) : List String :=
  ((tag.get "firingTriggerId").items ++ (tag.get "blockingTriggerId").items).map Json.text

theorem name_of_get {e : Entity} {name : String} (named : e.get "name" = .str name) : e.name = name := by
  rw [Entity.name, named, Json.textOrEmpty]

theorem get_of_name {e : Entity} {name : String} (named : e.name = name) (some : name ≠ "") :
    e.get "name" = .str name := by
  unfold Entity.name at named
  cases written : e.get "name" with
  | str s =>
    rw [written] at named
    exact congrArg Json.str named
  | _ =>
    rw [written] at named
    exact absurd named.symm some

theorem idOrEmpty_of_not_null {e : Entity} {key : String} (present : (e.get key).isNull = false) :
    e.idOrEmpty key = e.id key := by
  unfold idOrEmpty id getOr get at *
  cases found : e.get? key with
  | none => simp [found, Json.isNull] at present
  | some value => rfl

end Entity

theorem Reference.isSelf_iff {r : Reference} :
    r.isSelf = true ↔ r.kind = .variable ∧ r.source = r.target := by
  simp [isSelf]

namespace Cleanup

theorem removeUnused_lookup_of_ne (c : Cleanup) (container : Container) {key : String}
    (other : ∀ kind : Comparable, key ≠ kind.key) :
    Json.lookup (c.removeUnused container).version key = Json.lookup c.version key := by
  simp only [removeUnused, Comparable.all, List.foldl_cons, List.foldl_nil]
  rw [remove_lookup_of_ne _ (other _), remove_lookup_of_ne _ (other _), remove_lookup_of_ne _ (other _)]

/-- Of each kind exactly the unused entities are removed. -/
theorem removeUnused_items (c : Cleanup) (container : Container) (kind : Comparable) :
    (c.removeUnused container).items kind = (c.items kind).filter fun item =>
      !isNamed kind ((unusedOf container kind).map (Entity.idOf kind)) item := by
  simp only [removeUnused, Comparable.all, List.foldl_cons, List.foldl_nil]
  cases kind with
  | tags =>
    rw [remove_items_of_ne _ (by decide), remove_items_of_ne _ (by decide), remove_items]
  | triggers => rw [remove_items_of_ne _ (by decide), remove_items, remove_items_of_ne _ (by decide)]
  | userVariables =>
    rw [remove_items, remove_items_of_ne _ (by decide), remove_items_of_ne _ (by decide)]

end Cleanup

namespace Container

open Cleanup

/-- The objects of an array of the version, also those that are not looked at. -/
def objects (c : Container) (key : String) : List Entity := (c.get key).items.filterMap Entity.ofJson?

/-- The entities that are looked at. -/
def regarded (c : Container) : Kind → List Entity
  | .tag => c.tags
  | .trigger => c.triggers
  | .variable => c.userVariables
  | .client => c.clients

/-- Whether an entity is looked at: all are but paused tags, which can be left out. -/
def Regards (c : Container) (kind : Kind) (e : Entity) : Prop :=
  kind = .tag → c.includePaused = true ∨ (e.get "paused").holds = false

/-- A document in which nothing is marked as live only, and in which tags, triggers and variables have
identifiers, each of them its own. -/
structure Regular (c : Container) : Prop where
  live : ∀ kind : Kind, ∀ e ∈ c.objects kind.label, (e.get "liveOnly").holds = false
  identified : ∀ kind : Comparable, ∀ e ∈ c.allOf kind, (e.get kind.idField).isNull = false
  distinct : ∀ kind : Comparable, c.DistinctIds kind

/-- An identifier names a trigger of the document. -/
def NamesTrigger (c : Container) (id : String) : Prop := ∃ t ∈ c.allOf .triggers, t.id "triggerId" = id

/-- A name names a variable of the document. -/
def NamesVariable (c : Container) (name : String) : Prop :=
  ∃ v ∈ c.allOf .userVariables, v.get "name" = .str name

/-- A trigger that is no built-in one is kept for a tag or a trigger group that is looked at. -/
def NeedsTrigger (c : Container) (id : String) : Prop :=
  (∃ tag ∈ c.tags, id ∈ tag.triggerIds) ∨
    (∃ t ∈ c.triggers, id ∈ Json.triggerReferences (t.get "parameter")) ∨
    id = allPagesId ∨
    ∃ t ∈ c.allOf .triggers, t.id "triggerId" = id ∧ ((t.get "builtIn").holds || t.isBuiltIn) = true

/-- A variable that is no built-in one is kept for what is looked at, unless it is itself all that
references it. -/
def NeedsVariable (c : Container) (name : String) : Prop :=
  (∃ kind, ∃ e ∈ c.regarded kind, name ∈ e.references kind ∧ ¬(kind = .variable ∧ e.name = name)) ∨
    ∃ v ∈ c.allOf .userVariables, v.get "name" = .str name ∧ v.isBuiltIn = true

theorem Regular.mem_regarded {c : Container} (regular : c.Regular) {kind : Kind} {e : Entity} :
    e ∈ c.regarded kind ↔ e ∈ c.objects kind.label ∧ c.Regards kind e := by
  have looked : e ∈ c.entities kind.label ↔ e ∈ c.objects kind.label := by
    rw [entities, List.mem_filter]
    exact ⟨And.left, fun member => ⟨member, by simp [regular.live kind e member]⟩⟩
  rw [← looked]
  by_cases isTag : kind = .tag
  · subst isTag
    simp [regarded, tags, Regards, Kind.label]
  · have all : c.regarded kind = c.entities kind.label := by
      cases kind <;> first | rfl | exact absurd rfl isTag
    simp [all, Regards, isTag]

theorem mem_references {c : Container} {r : Reference} :
    r ∈ c.references ↔ ∃ kind, ∃ e ∈ c.regarded kind, r ∈ Reference.ofEntity kind e := by
  simp only [references, List.mem_append, List.mem_flatMap]
  constructor
  · rintro (((found | found) | found) | found)
    · exact ⟨.tag, found⟩
    · exact ⟨.trigger, found⟩
    · exact ⟨.variable, found⟩
    · exact ⟨.client, found⟩
  · rintro ⟨kind, found⟩
    cases kind with
    | tag => exact Or.inl (Or.inl (Or.inl found))
    | trigger => exact Or.inl (Or.inl (Or.inr found))
    | «variable» => exact Or.inl (Or.inr found)
    | client => exact Or.inr found

/-- A name is used by the references to it that are not made by the variable itself. -/
theorem mem_used_iff {c : Container} {name : String} :
    name ∈ (c.references.filter fun r => !r.isSelf).map (·.target) ↔ ∃ kind, ∃ e ∈ c.regarded kind,
      name ∈ e.references kind ∧ ¬(kind = .variable ∧ e.name = name) := by
  rw [List.mem_map]
  constructor
  · rintro ⟨r, found, rfl⟩
    obtain ⟨member, other⟩ := List.mem_filter.mp found
    obtain ⟨kind, e, looked, made⟩ := mem_references.mp member
    obtain ⟨target, mentioned, rfl⟩ := List.mem_map.mp made
    rw [Bool.not_eq_true', ← Bool.not_eq_true, Reference.isSelf_iff] at other
    exact ⟨kind, e, looked, mentioned, other⟩
  · rintro ⟨kind, e, looked, mentioned, other⟩
    have made := List.mem_map_of_mem (f := fun target =>
      (⟨kind, e.idOrEmpty kind.idField, e.name, target⟩ : Reference)) mentioned
    refine ⟨_, List.mem_filter.mpr ⟨mem_references.mpr ⟨kind, e, looked, made⟩, ?_⟩, rfl⟩
    rw [Bool.not_eq_true', ← Bool.not_eq_true, Reference.isSelf_iff]
    exact other

/-- The container that is read from the document without the unused entities. -/
def pruned (c : Container) (stamp : String) (includePaused : Bool) (source : Option String) : Container where
  document := Json.assign c.document "containerVersion"
    (.obj (stampVersion stamp (Cleanup.removeUnused ⟨c.version, []⟩ c).version))
  version := stampVersion stamp (Cleanup.removeUnused ⟨c.version, []⟩ c).version
  includePaused := includePaused
  source := source
  version_eq := Json.lookup_assign_self _ _ _

section

variable (c : Container) (stamp : String) (includePaused : Bool) (source : Option String)

theorem optimizedDocument_pruned : c.optimizedDocument (c.cleanUp true false) stamp =
    .ok (c.pruned stamp includePaused source).document := rfl

theorem ofJson_pruned : Container.ofJson (.obj (c.pruned stamp includePaused source).document)
    includePaused source = .ok (c.pruned stamp includePaused source) :=
  ofJson_obj (Json.lookup_assign_self _ _ _) _ _

theorem unusedOf_sublist (kind : Comparable) : (unusedOf c kind).Sublist (c.allOf kind) := by
  refine List.Sublist.trans ?_ (c.entitiesOf_sublist kind)
  cases kind <;> exact List.filter_sublist

theorem pruned_clients : (c.pruned stamp includePaused source).objects "client" = c.objects "client" := by
  have same : (c.pruned stamp includePaused source).get "client" = c.get "client" := by
    unfold get pruned
    rw [lookup_stampVersion (by decide) (by decide), removeUnused_lookup_of_ne]
    intro kind
    cases kind <;> decide
  rw [objects, same, objects]

variable {c}

/-- Identifiers are unique, so no entity is removed along with an unused one. -/
theorem mem_pruned {kind : Comparable} (distinct : c.DistinctIds kind) {e : Entity} :
    e ∈ (c.pruned stamp includePaused source).allOf kind ↔ e ∈ c.allOf kind ∧ e ∉ unusedOf c kind := by
  have items : ((c.pruned stamp includePaused source).get kind.key).items =
      ((c.get kind.key).items).filter fun item =>
        !isNamed kind ((unusedOf c kind).map (Entity.idOf kind)) item :=
    (itemsAt_stampVersion stamp _ kind).trans (removeUnused_items _ c kind)
  have named : isNamed kind ((unusedOf c kind).map (Entity.idOf kind)) e.toJson =
      ((unusedOf c kind).map (Entity.idOf kind)).contains (e.idOf kind) := rfl
  rw [allOf, Entity.mem_filterMap_ofJson?, items, List.mem_filter, named, allOf,
    Entity.mem_filterMap_ofJson?, Bool.not_eq_true', ← Bool.not_eq_true, List.contains_iff_mem]
  refine and_congr_right fun present => not_congr (distinct.idOf_mem_iff ?_ ?_)
  · exact fun f unused => (c.unusedOf_sublist kind).subset unused
  · exact Entity.mem_filterMap_ofJson?.mpr present

theorem Regular.of_mem_pruned (regular : c.Regular) {kind : Kind} {e : Entity}
    (left : e ∈ (c.pruned stamp includePaused source).objects kind.label) : e ∈ c.objects kind.label := by
  match kind with
  | .tag => exact ((mem_pruned stamp includePaused source (regular.distinct .tags)).mp left).1
  | .trigger => exact ((mem_pruned stamp includePaused source (regular.distinct .triggers)).mp left).1
  | .variable =>
    exact ((mem_pruned stamp includePaused source (regular.distinct .userVariables)).mp left).1
  | .client => exact c.pruned_clients stamp includePaused source ▸ left

theorem mem_triggerUses {id : String} : id ∈ c.triggerUses.map (·.1) ↔
    (∃ tag ∈ c.tags, id ∈ tag.triggerIds) ∨
      ∃ t ∈ c.triggers, id ∈ Json.triggerReferences (t.get "parameter") := by
  simp only [triggerUses, Entity.triggerIds, List.map_append, List.map_flatMap, List.map_map, List.mem_append,
    List.mem_flatMap]
  simp [Function.comp_def]

theorem needsTrigger_iff {id : String} : c.NeedsTrigger id ↔ id ∈ c.triggerUses.map (·.1) ∨
    id = allPagesId ∨ ∃ t ∈ c.allOf .triggers, t.id "triggerId" = id ∧
      ((t.get "builtIn").holds || t.isBuiltIn) = true := by
  rw [NeedsTrigger, mem_triggerUses, or_assoc]

theorem Regular.not_mem_unusedTriggers (regular : c.Regular) {t : Entity} (present : t ∈ c.allOf .triggers) :
    t ∉ c.unusedTriggers ↔ t.id "triggerId" ∈ c.triggerUses.map (·.1) ∨ t.id "triggerId" = allPagesId ∨
      ((t.get "builtIn").holds || t.isBuiltIn) = true := by
  have looked : t ∈ c.regarded .trigger := regular.mem_regarded.mpr ⟨present, fun isTag => by cases isTag⟩
  have own : t.idOrEmpty "triggerId" = t.id "triggerId" :=
    Entity.idOrEmpty_of_not_null (regular.identified .triggers t present)
  have member : t ∈ c.triggers := looked
  simp only [unusedTriggers, List.mem_filter, member, true_and, own, Bool.not_eq_true', Bool.not_eq_false,
    Bool.or_eq_true, beq_iff_eq, List.contains_iff_mem]
  tauto

theorem Regular.not_mem_unusedVariables (regular : c.Regular) {v : Entity}
    (present : v ∈ c.allOf .userVariables) : v ∉ c.unusedVariables ↔ v.isBuiltIn = true ∨
      v.name ∈ (c.references.filter fun r => !r.isSelf).map (·.target) := by
  have looked : v ∈ c.regarded .variable := regular.mem_regarded.mpr ⟨present, fun isTag => by cases isTag⟩
  have member : v ∈ c.userVariables := looked
  simp only [unusedVariables, List.mem_filter, member, true_and, Bool.and_eq_true, Bool.not_eq_true',
    ← Bool.not_eq_true, List.contains_iff_mem]
  tauto

theorem Regular.mem_pruned_triggers (regular : c.Regular) {t : Entity} :
    t ∈ (c.pruned stamp includePaused source).allOf .triggers ↔ t ∈ c.allOf .triggers ∧
      (t.id "triggerId" ∈ c.triggerUses.map (·.1) ∨ t.id "triggerId" = allPagesId ∨
        ((t.get "builtIn").holds || t.isBuiltIn) = true) :=
  (mem_pruned stamp includePaused source (regular.distinct .triggers)).trans
    (and_congr_right fun present => regular.not_mem_unusedTriggers present)

theorem Regular.mem_pruned_variables (regular : c.Regular) {v : Entity} :
    v ∈ (c.pruned stamp includePaused source).allOf .userVariables ↔ v ∈ c.allOf .userVariables ∧
      (v.isBuiltIn = true ∨ v.name ∈ (c.references.filter fun r => !r.isSelf).map (·.target)) :=
  (mem_pruned stamp includePaused source (regular.distinct .userVariables)).trans
    (and_congr_right fun present => regular.not_mem_unusedVariables present)

/-- Of the identifiers of triggers exactly the needed ones still name a trigger. -/
theorem Regular.pruned_namesTrigger (regular : c.Regular) {id : String} (named : c.NamesTrigger id) :
    (c.pruned stamp includePaused source).NamesTrigger id ↔ c.NeedsTrigger id := by
  rw [needsTrigger_iff]
  constructor
  · rintro ⟨t, member, rfl⟩
    obtain ⟨present, used | all | builtIn⟩ := (regular.mem_pruned_triggers stamp includePaused source).mp member
    · exact Or.inl used
    · exact Or.inr (Or.inl all)
    · exact Or.inr (Or.inr ⟨t, present, rfl, builtIn⟩)
  · obtain ⟨t, present, rfl⟩ := named
    rintro (used | all | ⟨other, there, same, builtIn⟩)
    · exact ⟨t, (regular.mem_pruned_triggers _ _ _).mpr ⟨present, Or.inl used⟩, rfl⟩
    · exact ⟨t, (regular.mem_pruned_triggers _ _ _).mpr ⟨present, Or.inr (Or.inl all)⟩, rfl⟩
    · exact ⟨other, (regular.mem_pruned_triggers _ _ _).mpr ⟨there, Or.inr (Or.inr builtIn)⟩, same⟩

/-- Of the names of variables exactly the needed ones still name a variable. -/
theorem Regular.pruned_namesVariable (regular : c.Regular) {name : String} (named : c.NamesVariable name) :
    (c.pruned stamp includePaused source).NamesVariable name ↔ c.NeedsVariable name := by
  rw [NeedsVariable, ← mem_used_iff]
  constructor
  · rintro ⟨v, member, written⟩
    obtain ⟨present, builtIn | used⟩ := (regular.mem_pruned_variables stamp includePaused source).mp member
    · exact Or.inr ⟨v, present, written, builtIn⟩
    · exact Or.inl (Entity.name_of_get written ▸ used)
  · obtain ⟨v, present, written⟩ := named
    rintro (used | ⟨other, there, same, builtIn⟩)
    · rw [← Entity.name_of_get written] at used
      exact ⟨v, (regular.mem_pruned_variables _ _ _).mpr ⟨present, Or.inr used⟩, written⟩
    · exact ⟨other, (regular.mem_pruned_variables _ _ _).mpr ⟨there, Or.inl builtIn⟩, same⟩

/-- A trigger that a tag refers to is needed if the tag is looked at. -/
theorem Regular.needsTrigger_of_regards (regular : c.Regular) {tag : Entity} (present : tag ∈ c.objects "tag")
    (regards : c.Regards .tag tag) {id : String} (referred : id ∈ tag.triggerIds) : c.NeedsTrigger id := by
  have looked : tag ∈ c.regarded .tag := regular.mem_regarded.mpr ⟨present, regards⟩
  exact Or.inl ⟨tag, looked, referred⟩

/-- A variable that an entity refers to is needed if the entity is looked at, unless the entity is a
variable of this name itself. -/
theorem Regular.namesVariable_of_regards (regular : c.Regular) {kind : Kind} {e : Entity}
    (left : e ∈ (c.pruned stamp includePaused source).objects kind.label) (regards : c.Regards kind e)
    {name : String} (referred : name ∈ e.references kind) (named : c.NamesVariable name) :
    (c.pruned stamp includePaused source).NamesVariable name := by
  by_cases self : kind = .variable ∧ e.name = name
  · obtain ⟨rfl, own⟩ := self
    -- A variable that references itself is there to be referenced.
    have blank : name ≠ "" := fun none => Entity.references_named _ e (none ▸ referred)
    exact ⟨e, left, Entity.get_of_name own blank⟩
  · have present := regular.of_mem_pruned stamp includePaused source left
    have looked := regular.mem_regarded.mpr ⟨present, regards⟩
    exact (regular.pruned_namesVariable stamp includePaused source named).mpr
      (Or.inl ⟨kind, e, looked, referred, self⟩)

/-- Removing what is unused leaves everything else. A reference of something that is left to something
that was there is broken only if it stands in a tag that is not looked at, and then exactly if nothing
else needs what it refers to. -/
theorem optimizedDocument_references (regular : c.Regular) : ∃ document optimized,
    c.optimizedDocument (c.cleanUp true false) stamp = .ok document ∧
    Container.ofJson (.obj document) includePaused source = .ok optimized ∧
    (∀ kind e, e ∈ optimized.allOf kind ↔ e ∈ c.allOf kind ∧ e ∉ unusedOf c kind) ∧
    optimized.objects "client" = c.objects "client" ∧
    (∀ tag ∈ optimized.objects "tag", ∀ id ∈ tag.triggerIds, c.NamesTrigger id →
      (optimized.NamesTrigger id ↔ c.Regards .tag tag ∨ c.NeedsTrigger id)) ∧
    ∀ kind : Kind, ∀ e ∈ optimized.objects kind.label, ∀ name ∈ e.references kind, c.NamesVariable name →
      (optimized.NamesVariable name ↔ c.Regards kind e ∨ c.NeedsVariable name) := by
  refine ⟨_, c.pruned stamp includePaused source, c.optimizedDocument_pruned stamp includePaused source,
    c.ofJson_pruned stamp includePaused source, fun kind _ => mem_pruned _ _ _ (regular.distinct kind),
    c.pruned_clients stamp includePaused source, ?_, ?_⟩
  · intro tag left id referred named
    have present : tag ∈ c.objects Kind.tag.label := regular.of_mem_pruned stamp includePaused source left
    rw [regular.pruned_namesTrigger stamp includePaused source named]
    refine ⟨Or.inr, ?_⟩
    rintro (regards | needed)
    · exact regular.needsTrigger_of_regards present regards referred
    · exact needed
  · intro kind e left name referred named
    have needed := regular.pruned_namesVariable stamp includePaused source named
    refine ⟨fun names => Or.inr (needed.mp names), ?_⟩
    rintro (regards | needs)
    · exact regular.namesVariable_of_regards stamp includePaused source left regards referred named
    · exact needed.mpr needs

end

def chatTag : Entity :=
  ⟨[("tagId", "1"), ("name", "Chat"), ("type", "html"), ("paused", true), ("firingTriggerId", .arr ["5"])]⟩

def clickTrigger : Entity := ⟨[("triggerId", "5"), ("name", "All clicks"), ("type", "CLICK")]⟩

/-- The fields of a container version with a paused tag and the trigger that fires it. -/
def pausedVersion : List (String × Json) :=
  [("tag", .arr [chatTag.toJson]), ("trigger", .arr [clickTrigger.toJson])]

def withPausedTag (includePaused : Bool) : Container :=
  ⟨[("containerVersion", .obj pausedVersion)], pausedVersion, includePaused, none, rfl⟩

theorem withPausedTag_regular (includePaused : Bool) : (withPausedTag includePaused).Regular where
  live kind := by cases includePaused <;> cases kind <;> decide +kernel
  identified kind := by cases includePaused <;> cases kind <;> decide +kernel
  distinct kind := by cases includePaused <;> cases kind <;> (unfold DistinctIds; decide +kernel)

theorem withPausedTag_namesTrigger (includePaused : Bool) : (withPausedTag includePaused).NamesTrigger "5" :=
  ⟨clickTrigger, List.mem_cons_self, rfl⟩

/-- A paused tag that is looked at keeps its trigger. -/
theorem pausedTag_fires : (withPausedTag true).Regular ∧ ∃ document optimized,
    (withPausedTag true).optimizedDocument ((withPausedTag true).cleanUp true false) "7" = .ok document ∧
    Container.ofJson (.obj document) true none = .ok optimized ∧
    chatTag ∈ optimized.objects "tag" ∧ "5" ∈ chatTag.triggerIds ∧ optimized.NamesTrigger "5" := by
  have regular := withPausedTag_regular true
  obtain ⟨document, optimized, cleaned, read, left, _, triggers, _⟩ :=
    optimizedDocument_references "7" true none regular
  have used : Cleanup.unusedOf (withPausedTag true) .tags = [] := List.isEmpty_iff.mp (by decide +kernel)
  have present : chatTag ∈ optimized.objects "tag" :=
    (left .tags chatTag).mpr ⟨List.mem_cons_self, used ▸ List.not_mem_nil⟩
  have refers : "5" ∈ chatTag.triggerIds := by decide
  exact ⟨regular, document, optimized, cleaned, read, present, refers,
    (triggers chatTag present "5" refers (withPausedTag_namesTrigger true)).mpr (Or.inl fun _ => Or.inl rfl)⟩

/-- A paused tag that is not looked at is left, but its trigger is not. -/
theorem pausedTag_dangles : (withPausedTag false).Regular ∧ ∃ document optimized,
    (withPausedTag false).optimizedDocument ((withPausedTag false).cleanUp true false) "7" = .ok document ∧
    Container.ofJson (.obj document) false none = .ok optimized ∧
    chatTag ∈ optimized.objects "tag" ∧ "5" ∈ chatTag.triggerIds ∧
    (withPausedTag false).NamesTrigger "5" ∧ ¬ optimized.NamesTrigger "5" := by
  have regular := withPausedTag_regular false
  have skipped : Cleanup.unusedOf (withPausedTag false) .tags = [] := List.isEmpty_iff.mp (by decide +kernel)
  have left : chatTag ∈ ((withPausedTag false).pruned "7" false none).allOf .tags :=
    (mem_pruned "7" false none (regular.distinct .tags)).mpr
      ⟨List.mem_cons_self, skipped ▸ List.not_mem_nil⟩
  have gone : ((withPausedTag false).pruned "7" false none).allOf .triggers = [] :=
    List.isEmpty_iff.mp (by decide +kernel)
  refine ⟨regular, _, _, optimizedDocument_pruned _ _ false none, ofJson_pruned _ _ false none, left, by decide,
    withPausedTag_namesTrigger false, ?_⟩
  rintro ⟨t, member, _⟩
  rw [gone] at member
  exact List.not_mem_nil member

end Container

end TagAudit

import Mathlib.Algebra.GroupWithZero.Nat
import TagAudit.Cleanup.Comparison
import TagAudit.Proofs.Cleanup.Renamed

namespace TagAudit

namespace Text

/-- Without renames every text stays as it is. -/
theorem rename_nil : rename [] = id := by
  have absent (s : List Char) : replacementAt [] s = none := by
    unfold replacementAt renameAt
    split <;> rfl
  have same (s : List Char) : rewriteFrom (replacementAt []) 0 s = s := by
    induction s with
    | nil => rfl
    | cons c rest ih => rw [rewriteFrom, absent, ih]
  funext text
  rw [rename, rewrite, same, String.ofList_toList, id]

end Text

namespace Json

theorem changeField_id (inTemplate : Bool) (key : String) (value : Json) :
    changeField id inTemplate key value = value := by
  unfold changeField
  split
  · split <;> rfl
  · rfl

mutual

theorem mapTemplates_id : ∀ value : Json, value.mapTemplates id = value
  | .arr items => by rw [mapTemplates, mapTemplatesOfItems_id items]
  | .obj fields => by rw [mapTemplates, mapTemplatesOfFields_id _ fields]
  | .null | .bool _ | .int _ | .float _ | .str _ => by simp [mapTemplates]

theorem mapTemplatesOfItems_id : ∀ items : List Json, mapTemplatesOfItems id items = items
  | [] => rfl
  | value :: rest => by rw [mapTemplatesOfItems, mapTemplates_id value, mapTemplatesOfItems_id rest]

theorem mapTemplatesOfFields_id : ∀ (inTemplate : Bool) (fields : List (String × Json)),
    mapTemplatesOfFields id inTemplate fields = fields
  | _, [] => rfl
  | inTemplate, (key, value) :: rest => by
    rw [mapTemplatesOfFields, mapTemplates_id value, changeField_id, mapTemplatesOfFields_id _ rest]

end

theorem renameReferences_nil (value : Json) : value.renameReferences [] = value := by
  rw [renameReferences, Text.rename_nil, mapTemplates_id]

end Json

theorem Comparable.idField_plain (kind : Comparable) :
    kind.idField ≠ "value" ∧ kind.idField ∉ Cleanup.triggerFields := by
  cases kind <;> decide

namespace Cleanup

/-- What an entity of an optimized document keeps: its mark and its identifier, in which only the references
that a list or an object may hold are renamed. -/
structure KeepsIdentity (table : Text.Renames) (kind : Comparable) (old new : Entity) : Prop where
  live : (new.get "liveOnly").holds = (old.get "liveOnly").holds
  written : new.get kind.idField = (old.get kind.idField).renameReferences table
  plain : (old.get kind.idField).scalar?.isSome = true → new.idOf kind = old.idOf kind

theorem KeepsIdentity.of_get {table : Text.Renames} {kind : Comparable} {old new : Entity}
    (live : (new.get "liveOnly").holds = (old.get "liveOnly").holds)
    (written : new.get kind.idField = (old.get kind.idField).renameReferences table) :
    KeepsIdentity table kind old new where
  live := live
  written := written
  plain scalar := by
    rw [Entity.idOf, Entity.id, written, Json.renameReferences_of_scalar table scalar, Entity.idOf, Entity.id]

theorem Redirected.keepsIdentity {triggers : List (String × String)} {table : Text.Renames} {kind : Comparable}
    {old new : Entity} (redirected : Redirected triggers table kind.asKind old new) :
    KeepsIdentity table kind old new := by
  obtain ⟨notValue, notIds⟩ := kind.idField_plain
  refine .of_get ?_ (redirected.get notValue notIds)
  rw [redirected.get (by decide) (by decide), Json.holds_renameReferences]

/-- How an entry of an array is found again in an optimized document: an object with its identity, and what
is no object as something that is none. -/
def KeptAs (table : Text.Renames) (kind : Comparable) (old new : Json) : Prop :=
  Option.Rel (KeepsIdentity table kind) (Entity.ofJson? old) (Entity.ofJson? new)

theorem KeptAs.refl (kind : Comparable) (item : Json) : KeptAs [] kind item item := by
  unfold KeptAs
  cases Entity.ofJson? item with
  | none => exact .none
  | some e => exact .some (.of_get rfl (Json.renameReferences_nil _).symm)

theorem keptAs_of_redirectItem {triggers : List (String × String)} {table : Text.Renames} {kind : Comparable}
    {old new : Json} (run : redirectItem triggers table kind old = .ok new) : KeptAs table kind old new := by
  have renamed (same : new = old.renameReferences table) (notTag : kind ≠ .tags) : KeptAs table kind old new := by
    rw [same, KeptAs, Entity.ofJson?_renameReferences]
    cases Entity.ofJson? old with
    | none => exact .none
    | some e =>
      have redirected : Redirected triggers table kind.asKind e (e.rename table) := by
        cases kind <;> first | rfl | exact absurd rfl notTag
      exact .some redirected.keepsIdentity
  cases kind with
  | tags =>
    have related := redirected_of_redirectItem run
    unfold KeptAs
    revert related
    cases Entity.ofJson? old <;> cases Entity.ofJson? new <;> rintro (⟨redirected⟩ | _)
    · exact .none
    · exact .some (Redirected.keepsIdentity redirected)
  | triggers => exact renamed (Except.ok.inj run).symm (by decide)
  | userVariables => exact renamed (Except.ok.inj run).symm (by decide)

/-- The objects among entries that are kept are kept as objects. -/
theorem keepsIdentity_of_keptAs {table : Text.Renames} {kind : Comparable} {old new : List Json}
    (kept : List.Forall₂ (KeptAs table kind) old new) :
    List.Forall₂ (KeepsIdentity table kind) (old.filterMap Entity.ofJson?) (new.filterMap Entity.ofJson?) :=
  List.rel_filterMap (fun _ _ entry => entry) kept

/-- What a cleanup says of the entities of a kind that it has removed from a container. -/
def changesOf (cleanup : Cleanup) (kind : Comparable) : List Change :=
  cleanup.changes.filter fun change => change.kind == kind

/-- The log and the arrays of a cleanup account for each other: what an array of the container has lost are
objects, with the names that are logged. -/
structure Accounts (c : Container) (cleanup : Cleanup) : Prop where
  ordered : ∀ kind, (cleanup.items kind).Sublist (c.get kind.key).items
  logged : ∀ kind, ∃ removed : List Entity,
    (cleanup.changesOf kind).map (·.name) = removed.map Entity.rawName ∧
    (removed.map Entity.toJson ++ cleanup.items kind).Perm (c.get kind.key).items

theorem Accounts.start (c : Container) : Accounts c ⟨c.version, []⟩ where
  ordered _ := List.Sublist.refl _
  logged _ := ⟨[], rfl, .refl _⟩

theorem length_objects_of_perm {removed : List Entity} {kept items : List Json}
    (whole : (removed.map Entity.toJson ++ kept).Perm items) :
    (items.filterMap Entity.ofJson?).length = removed.length + (kept.filterMap Entity.ofJson?).length := by
  have objects : (removed.map Entity.toJson).filterMap Entity.ofJson? = removed := by
    rw [List.filterMap_map]
    exact List.filterMap_some
  rw [← (whole.filterMap Entity.ofJson?).length_eq, List.filterMap_append, objects, List.length_append]

/-- The objects among some entries that a test on objects selects, as entries. -/
theorem map_toJson_filter (p : Entity → Bool) (items : List Json) :
    ((items.filterMap Entity.ofJson?).filter p).map Entity.toJson =
      items.filter fun item => (Entity.ofJson? item).any p := by
  induction items with
  | nil => rfl
  | cons item rest ih =>
    cases item with
    | obj fields =>
      by_cases selected : p ⟨fields⟩ = true
      · simpa [Entity.ofJson?, selected, Entity.toJson] using ih
      · simpa [Entity.ofJson?, selected] using ih
    | _ => exact ih

theorem changesOf_remove_self (cleanup : Cleanup) (kind : Comparable) (ids : List String) (reason : Reason) :
    (cleanup.remove kind ids reason).changesOf kind = cleanup.changesOf kind ++
      ((cleanup.entities kind).filter fun e => ids.contains (e.idOf kind)).map fun e =>
        ⟨kind, e.rawName, reason⟩ := by
  rw [changesOf, remove, List.filter_append, changesOf]
  refine congrArg _ (List.filter_eq_self.mpr fun change member => ?_)
  obtain ⟨_, _, rfl⟩ := List.mem_map.mp member
  exact beq_self_eq_true kind

theorem changesOf_remove_of_ne (cleanup : Cleanup) {kind other : Comparable} (ne : other ≠ kind)
    (ids : List String) (reason : Reason) :
    (cleanup.remove kind ids reason).changesOf other = cleanup.changesOf other := by
  rw [changesOf, remove, List.filter_append, changesOf]
  refine (congrArg _ (List.filter_eq_nil_iff.mpr fun change member same => ?_)).trans (List.append_nil _)
  obtain ⟨_, _, rfl⟩ := List.mem_map.mp member
  exact ne (beq_iff_eq.mp same).symm

theorem Accounts.remove {c : Container} {cleanup : Cleanup} (accounts : Accounts c cleanup) (kind : Comparable)
    (ids : List String) (reason : Reason) : Accounts c (cleanup.remove kind ids reason) where
  ordered other := by
    by_cases same : other = kind
    · subst same
      rw [remove_items]
      exact List.filter_sublist.trans (accounts.ordered other)
    · rw [remove_items_of_ne _ same]
      exact accounts.ordered other
  logged other := by
    obtain ⟨removed, names, whole⟩ := accounts.logged other
    by_cases same : other = kind
    · subst same
      let gone := (cleanup.entities other).filter fun e => ids.contains (e.idOf other)
      have entries : gone.map Entity.toJson = (cleanup.items other).filter (isNamed other ids) :=
        map_toJson_filter _ _
      refine ⟨removed ++ gone, ?_, ?_⟩
      · rw [changesOf_remove_self, List.map_append, names, List.map_map, List.map_append]
        rfl
      · rw [remove_items, List.map_append, List.append_assoc, entries]
        exact ((List.filter_append_perm _ _).append_left _).trans whole
    · rw [changesOf_remove_of_ne _ same, remove_items_of_ne _ same]
      exact ⟨removed, names, whole⟩

theorem Accounts.removeUnused {c : Container} {cleanup : Cleanup} (accounts : Accounts c cleanup) :
    Accounts c (cleanup.removeUnused c) :=
  ((accounts.remove _ _ _).remove _ _ _).remove _ _ _

theorem Accounts.removeAllDuplicates {c : Container} {cleanup : Cleanup} (accounts : Accounts c cleanup) :
    Accounts c (cleanup.removeAllDuplicates c) :=
  ((accounts.remove _ _ _).remove _ _ _).remove _ _ _

/-- Every change is one of a kind. -/
theorem length_changes (cleanup : Cleanup) :
    cleanup.changes.length = (Comparable.all.map fun kind => (cleanup.changesOf kind).length).sum := by
  obtain ⟨version, changes⟩ := cleanup
  unfold changesOf
  induction changes with
  | nil => rfl
  | cons change rest ih =>
    obtain ⟨kind, name, reason⟩ := change
    cases kind <;> simp [Comparable.all] at ih ⊢ <;> omega

end Cleanup

/-- A document that is accepted as a container is counted by the version of the container. -/
theorem Counts.ofDocument_of_ofJson {document : Json} {includePaused : Bool} {source : Option String}
    {c : Container} (read : Container.ofJson document includePaused source = .ok c) :
    Counts.ofDocument document = .ok (Counts.ofVersion c.version) := by
  unfold Container.ofJson at read
  cases document with
  | obj fields =>
    dsimp only at read
    split at read
    · rename_i version found
      cases read
      simp only [Counts.ofDocument, found]
    all_goals cases read
  | _ => cases read

namespace Container

open Cleanup

/-- No tag, trigger or variable of a container is marked `liveOnly`. -/
def Alive (c : Container) : Prop := ∀ kind, ∀ e ∈ c.allOf kind, (e.get "liveOnly").holds = false

theorem Alive.live_eq {c : Container} (alive : c.Alive) (kind : Comparable) :
    Counts.live c.version kind.key = (c.allOf kind).length :=
  congrArg List.length (List.filter_eq_self.mpr fun e member => by rw [alive kind e member]; rfl)

/-- A container without the entities that are removed, before the references to them are redirected. -/
def cleaned (c : Container) (withoutUnused withoutDuplicates : Bool) : Cleanup :=
  if withoutDuplicates then (c.base withoutUnused).removeAllDuplicates c else c.base withoutUnused

/-- The renames of references that a run asks for. -/
def redirectTable (c : Container) (withoutUnused withoutDuplicates : Bool) : Except Fault Text.Renames :=
  if withoutDuplicates then
    (variableRenames ((c.base withoutUnused).pairs c .userVariables) >>= writtenRenames).map renameTable
  else .ok []

theorem cleaned_accounts (c : Container) (withoutUnused withoutDuplicates : Bool) :
    Accounts c (c.cleaned withoutUnused withoutDuplicates) := by
  have base : Accounts c (c.base withoutUnused) := by
    cases withoutUnused with
    | false => exact .start c
    | true => exact (Accounts.start c).removeUnused
  cases withoutDuplicates with
  | false => exact base
  | true => exact base.removeAllDuplicates

/-- A run logs what it removes, and of each array it keeps what it does not remove. -/
theorem cleanUp_entries {c : Container} {withoutUnused withoutDuplicates : Bool} {v : List (String × Json)}
    (run : (c.cleanUp withoutUnused withoutDuplicates).version = .ok v) : ∃ table,
      c.redirectTable withoutUnused withoutDuplicates = .ok table ∧
      (c.cleanUp withoutUnused withoutDuplicates).changes = (c.cleaned withoutUnused withoutDuplicates).changes ∧
      ∀ kind : Comparable, List.Forall₂ (KeptAs table kind)
        ((c.cleaned withoutUnused withoutDuplicates).items kind) (itemsAt v kind.key) := by
  cases withoutDuplicates with
  | false =>
    obtain rfl : (c.base withoutUnused).version = v := Except.ok.inj run
    exact ⟨[], rfl, rfl, fun kind => List.forall₂_same.mpr fun item _ => .refl kind item⟩
  | true =>
    have deduplicated : (c.deduplicate (c.base withoutUnused)).version = .ok v := run
    obtain ⟨renamed, names, log, redirected⟩ := deduplicate_of_ok deduplicated
    obtain ⟨written, texts, items⟩ := redirect_items redirected
    refine ⟨renameTable written, ?_, log, fun kind => (items kind).imp fun _ _ => keptAs_of_redirectItem⟩
    rw [redirectTable, if_pos rfl, names]
    exact congrArg (Except.map renameTable) texts

/-- How the log, the comparison with the original and an array of an optimized document agree: the entities
that are removed are as many as are logged and as the array is shorter, and everything else is kept in order. -/
structure Reconciled (c optimized : Container) (table : Text.Renames) (changes : List Change)
    (comparison : Comparison) (kind : Comparable) (removed : List Entity) : Prop where
  reduction : (comparison.toJson.field "reductions").field kind.label = .int removed.length
  deletions : (((changesSummary changes).field "byType").field kind.key).field "delete" = .int removed.length
  names : (changes.filter fun change => change.kind == kind).map (·.name) = removed.map Entity.rawName
  kept : ∃ kept : List Json, kept.Sublist (c.get kind.key).items ∧
    (removed.map Entity.toJson ++ kept).Perm (c.get kind.key).items ∧
    List.Forall₂ (KeptAs table kind) kept (optimized.get kind.key).items

theorem reductions_field (before after : List (String × Json)) (kind : Comparable) :
    ((Comparison.mk (Counts.ofVersion before) (Counts.ofVersion after)).toJson.field "reductions").field kind.label =
      .int (Counts.live before kind.key - Counts.live after kind.key) := by
  cases kind <;> rfl

theorem deletions_field (changes : List Change) (kind : Comparable) :
    (((changesSummary changes).field "byType").field kind.key).field "delete" =
      .int (changes.filter fun change => change.kind == kind).length := by
  cases kind <;> rfl

/-- For a document without entries that are marked `liveOnly` the log and the document that a run returns
account for each other. -/
theorem optimizedDocument_accounts {c : Container} (alive : c.Alive) {withoutUnused withoutDuplicates : Bool}
    {stamp : String} {document : List (String × Json)}
    (run : c.optimizedDocument (c.cleanUp withoutUnused withoutDuplicates) stamp = .ok document)
    (includePaused : Bool) (source : Option String) : ∃ comparison optimized table,
      c.compare (.obj document) = .ok comparison ∧
      Container.ofJson (.obj document) includePaused source = .ok optimized ∧
      c.redirectTable withoutUnused withoutDuplicates = .ok table ∧ ∃ removed : Comparable → List Entity,
        (changesSummary (c.cleanUp withoutUnused withoutDuplicates).changes).field "total" =
          .int ((Comparable.all.map fun kind => (removed kind).length).sum : Nat) ∧
        ∀ kind, Reconciled c optimized table (c.cleanUp withoutUnused withoutDuplicates).changes comparison kind
          (removed kind) := by
  obtain ⟨v, cleaned, optimized, read, _, stamped⟩ := optimizedDocument_readAs run includePaused source
  obtain ⟨table, renames, log, entries⟩ := cleanUp_entries cleaned
  have accounts := c.cleaned_accounts withoutUnused withoutDuplicates
  choose removed names whole using accounts.logged
  have compared : c.compare (.obj document) =
      .ok ⟨Counts.ofVersion c.version, Counts.ofVersion optimized.version⟩ := by
    rw [compare, Counts.ofDocument_of_ofJson read]
    rfl
  have items (kind : Comparable) : (optimized.get kind.key).items = itemsAt v kind.key := by
    rw [get, stamped]
    exact itemsAt_stampVersion stamp v kind
  have count (kind : Comparable) : ((c.cleaned withoutUnused withoutDuplicates).changesOf kind).length =
      (removed kind).length := by
    rw [← List.length_map (f := (·.name)), names, List.length_map]
  have objects (kind : Comparable) : List.Forall₂ (KeepsIdentity table kind)
      ((c.cleaned withoutUnused withoutDuplicates).entities kind) (optimized.allOf kind) := by
    rw [allOf, items kind]
    exact keepsIdentity_of_keptAs (entries kind)
  have stillAlive : optimized.Alive := by
    intro kind new present
    obtain ⟨old, inside, same⟩ := forall₂_of_mem_right (objects kind) present
    have before : old ∈ c.allOf kind := ((accounts.ordered kind).filterMap _).subset inside
    rw [same.live, alive kind old before]
  have shorter (kind : Comparable) :
      (c.allOf kind).length = (removed kind).length + (optimized.allOf kind).length :=
    (length_objects_of_perm (whole kind)).trans (congrArg _ (objects kind).length_eq)
  refine ⟨_, optimized, table, compared, read, renames, removed, ?_, fun kind => ⟨?_, ?_, ?_, ?_⟩⟩
  · rw [log]
    refine congrArg (fun n : Nat => Json.int n) ((length_changes _).trans (congrArg List.sum ?_))
    exact List.map_congr_left fun kind _ => count kind
  · rw [reductions_field, alive.live_eq, stillAlive.live_eq, shorter kind, Int.natCast_add, Int.add_sub_cancel]
  · rw [deletions_field, log]
    exact congrArg (fun n : Nat => Json.int n) (count kind)
  · rw [log]
    exact names kind
  · exact ⟨_, accounts.ordered kind, whole kind, items kind ▸ entries kind⟩

def leftoverVersion : List (String × Json) := [("variable", .arr [(orderVariable "1" "Order").toJson, .null])]

/-- A container with a variable that nothing refers to, and an entry that is no object. -/
def leftover : Container := ⟨[("containerVersion", .obj leftoverVersion)], leftoverVersion, true, none, rfl⟩

/-- The unused variable is the one entity that is logged and missing. -/
theorem leftover_accounts : leftover.Alive ∧ ∃ document comparison optimized table removed,
    leftover.optimizedDocument (leftover.cleanUp true false) "7" = .ok document ∧
    leftover.compare (.obj document) = .ok comparison ∧
    Container.ofJson (.obj document) true none = .ok optimized ∧ removed.length = 1 ∧
    Reconciled leftover optimized table (leftover.cleanUp true false).changes comparison .userVariables removed := by
  have alive : leftover.Alive := by
    intro kind
    cases kind <;> decide +kernel
  obtain ⟨document, run⟩ : ∃ document,
      leftover.optimizedDocument (leftover.cleanUp true false) "7" = .ok document := ⟨_, rfl⟩
  obtain ⟨comparison, optimized, table, compared, read, _, removed, _, reconciled⟩ :=
    optimizedDocument_accounts alive run true none
  have logged : ((leftover.cleanUp true false).changes.filter fun change =>
      change.kind == .userVariables).length = 1 := by decide +kernel
  refine ⟨alive, document, comparison, optimized, table, _, run, compared, read, ?_, reconciled .userVariables⟩
  rw [← List.length_map (f := Entity.rawName), ← (reconciled .userVariables).names, List.length_map, logged]

def markedVersion (id : Json) : List (String × Json) :=
  [("tag", .arr [.obj [("tagId", id), ("name", "Purchase"), ("type", "html")]]),
    ("variable", .arr [(orderVariable "1" "Order ID").toJson, (orderVariable "2" "Order").toJson])]

/-- A container with a tag of some identifier and two variables, of which the second is a copy of the first. -/
def marked (id : Json) : Container :=
  ⟨[("containerVersion", .obj (markedVersion id))], markedVersion id, true, none, rfl⟩

def templateId : Json := .obj [("type", "TEMPLATE"), ("value", "\x7b\x7bOrder\x7d\x7d")]

/-- The one tag of the document stays, under an identifier that no tag had: the reference in it is redirected. -/
theorem templateId_redirected : (marked templateId).Alive ∧ ∃ document optimized,
    (marked templateId).optimizedDocument ((marked templateId).cleanUp false true) "7" = .ok document ∧
    Container.ofJson (.obj document) true none = .ok optimized ∧
    ¬ ((optimized.allOf .tags).map (Entity.idOf .tags)).Sublist
      (((marked templateId).allOf .tags).map (Entity.idOf .tags)) := by
  have alive : (marked templateId).Alive := by
    intro kind
    cases kind <;> decide +kernel
  have ids : (((marked templateId).cleanUp false true).version.map fun v =>
      ((itemsAt v "tag").filterMap Entity.ofJson?).map (Entity.idOf .tags)) =
      .ok ["\x7b'type': 'TEMPLATE', 'value': '\x7b\x7bOrder ID\x7d\x7d'\x7d"] := by decide +kernel
  cases cleaned : ((marked templateId).cleanUp false true).version with
  | error f =>
    rw [cleaned] at ids
    cases ids
  | ok v =>
    rw [cleaned] at ids
    have run : (marked templateId).optimizedDocument ((marked templateId).cleanUp false true) "7" = .ok _ :=
      congrArg (Except.map _) cleaned
    obtain ⟨w, sameVersion, optimized, read, items⟩ := optimizedDocument_read run
    cases cleaned.symm.trans sameVersion
    have now : (optimized.allOf .tags).map (Entity.idOf .tags) =
        ["\x7b'type': 'TEMPLATE', 'value': '\x7b\x7bOrder ID\x7d\x7d'\x7d"] := by
      rw [allOf, items .tags]
      exact Except.ok.inj ids
    refine ⟨alive, _, optimized, run, read, ?_⟩
    rw [now]
    decide +kernel

end Container

end TagAudit

import TagAudit.Proofs.Cleanup.Pairs
import TagAudit.Proofs.Cleanup.Templates

namespace TagAudit

namespace Entity

/-- An entity with the references in it renamed. -/
def rename (renames : Text.Renames) (e : Entity) : Entity :=
  ⟨Json.mapTemplatesOfFields (Text.rename renames) (Json.isTemplate e.fields) e.fields⟩

theorem ofJson?_renameReferences (renames : Text.Renames) (item : Json) :
    ofJson? (item.renameReferences renames) = (ofJson? item).map (rename renames) := by
  unfold Json.renameReferences
  cases item <;> simp [Json.mapTemplates, ofJson?, rename]

theorem get_rename {key : String} (ne : key ≠ "value") (renames : Text.Renames) (e : Entity) :
    (e.rename renames).get key = (e.get key).renameReferences renames := by
  unfold get get? rename
  rw [Json.lookup_mapTemplates_of_ne ne]
  cases Json.lookup e.fields key with
  | none => simp [Json.renameReferences, Json.mapTemplates]
  | some value => rfl

/-- The names of the references in an entity as they are written, with the blanks around them. -/
def written (kind : Kind) (e : Entity) : List (List Char) :=
  (Json.arr (kind.scannedFields.map e.get)).templates.flatMap Text.written

theorem references_eq_written (kind : Kind) (e : Entity) :
    e.references kind = distinct (Text.cleaned (e.written kind)) := by
  rw [references, Json.references_eq, written]
  refine congrArg distinct ?_
  simp only [Text.cleaned, List.map_flatMap, List.filterMap_flatMap]
  rfl

theorem written_rename {renames : Text.Renames} (proper : renames.Proper) {kind : Kind} {old new : Entity}
    (plain : ∀ name ∈ old.written kind, ¬ Text.Nested name)
    (renamed : ∀ field ∈ kind.scannedFields, new.get field = (old.get field).renameReferences renames) :
    new.written kind = (old.written kind).map renames.apply := by
  have scanned : (kind.scannedFields.map new.get) =
      (kind.scannedFields.map old.get).map (Json.renameReferences renames) := by
    rw [List.map_map]
    exact List.map_congr_left renamed
  have whole : (Json.arr (kind.scannedFields.map new.get)).templates =
      (Json.arr (kind.scannedFields.map old.get)).templates.map (Text.rename renames) := by
    rw [scanned, ← Json.templates_mapTemplates, Json.mapTemplates, Json.mapTemplatesOfItems_eq]
    rfl
  rw [written, whole, List.flatMap_map, written, List.map_flatMap]
  refine List.flatMap_congr fun text member => proper.written_rename fun name inside => ?_
  exact plain name (List.mem_flatMap.mpr ⟨text, member, inside⟩)

end Entity

theorem Scalar.map_toJson_of_mapM {values : List Json} {scalars : List Scalar}
    (read : values.mapM Json.scalar = .ok scalars) : scalars.map Scalar.toJson = values := by
  have each : List.Forall₂ (· = ·) values (scalars.map Scalar.toJson) := by
    refine List.forall₂_map_right_iff.mpr ((forall₂_of_mapM read).imp fun value s scalar => ?_)
    cases value <;> cases scalar <;> rfl
  rw [List.forall₂_eq_eq_eq] at each
  exact each.symm

namespace Cleanup

theorem remapTrigger_str (renames : List (String × String)) (id : String) :
    ∃ new, remapTrigger renames (.str id) = .str new := by
  unfold remapTrigger
  split
  · exact ⟨_, rfl⟩
  · exact ⟨id, rfl⟩

section

variable {renames : List (String × String)} {ids new : List Json} (run : remapTriggers renames ids = .ok new)
include run

theorem mem_of_mem_remapTriggers {value : Json} (member : value ∈ new) :
    value.scalar?.isSome = true ∧ ∃ id ∈ ids, remapTrigger renames id = value := by
  obtain ⟨scalars, read, same⟩ := ok_of_bind run
  cases same
  obtain ⟨s, inside, rfl⟩ := List.mem_map.mp member
  refine ⟨by cases s <;> rfl, List.mem_map.mp ?_⟩
  rw [← Scalar.map_toJson_of_mapM read]
  exact List.mem_map_of_mem (mem_of_mem_distinct inside)

/-- Of references that are texts none is lost. -/
theorem remapTrigger_mem {id : String} (member : .str id ∈ ids) : remapTrigger renames (.str id) ∈ new := by
  obtain ⟨scalars, read, same⟩ := ok_of_bind run
  cases same
  obtain ⟨kept, text⟩ := remapTrigger_str renames id
  have inside : remapTrigger renames (.str id) ∈ ids.map (remapTrigger renames) := List.mem_map_of_mem member
  rw [← Scalar.map_toJson_of_mapM read, text] at inside
  obtain ⟨s, there, written⟩ := List.mem_map.mp inside
  obtain rfl : s = .str kept := by cases s <;> cases written; rfl
  exact text ▸ List.mem_map_of_mem (f := Scalar.toJson) (Scalar.str_mem_distinct.mpr there)

end

/-- The fields of a tag that refer to triggers. -/
def triggerFields : List String := ["firingTriggerId", "blockingTriggerId"]

theorem remapField_items {renames : List (String × String)} {tag new : List (String × Json)} {field : String}
    (run : remapField renames tag field = .ok new) :
    remapTriggers renames (itemsAt tag field) = .ok (itemsAt new field) ∧
      ∀ key, key ≠ field → Json.lookup new key = Json.lookup tag key := by
  unfold remapField at run
  split at run
  · rename_i ids found
    obtain ⟨remapped, done, assigned⟩ := ok_of_bind run
    cases assigned
    rw [itemsAt, itemsAt, found, Json.lookup_assign_self]
    exact ⟨done, fun key ne => Json.lookup_assign_of_ne ne _ _⟩
  · rename_i noList
    cases run
    rw [itemsAt_of_no_list noList]
    exact ⟨rfl, fun _ _ => rfl⟩

theorem exists_of_remapTag {renames : List (String × String)} {tag remapped : Json}
    (run : remapTag renames tag = .ok remapped) : ∃ old new : Entity, tag = old.toJson ∧ remapped = new.toJson := by
  cases tag with
  | obj fields =>
    obtain ⟨firing, _, run⟩ := ok_of_bind run
    obtain ⟨blocking, _, assigned⟩ := ok_of_bind run
    cases assigned
    exact ⟨⟨fields⟩, ⟨blocking⟩, rfl, rfl⟩
  | _ => cases run

theorem remapTag_get {renames : List (String × String)} {old new : Entity}
    (run : remapTag renames old.toJson = .ok new.toJson) :
    (∀ field ∈ triggerFields, remapTriggers renames (old.get field).items = .ok (new.get field).items) ∧
      ∀ key ∉ triggerFields, new.get key = old.get key := by
  obtain ⟨firing, first, run⟩ := ok_of_bind run
  obtain ⟨blocking, second, assigned⟩ := ok_of_bind run
  obtain rfl : blocking = new.fields := Json.obj.inj (Except.ok.inj assigned)
  obtain ⟨firingItems, firingOthers⟩ := remapField_items first
  obtain ⟨blockingItems, blockingOthers⟩ := remapField_items second
  refine ⟨fun field member => ?_, fun key other => ?_⟩
  · simp only [triggerFields, List.mem_cons, List.not_mem_nil, or_false] at member
    rcases member with rfl | rfl
    · unfold itemsAt at firingItems
      rw [← blockingOthers _ (by decide)] at firingItems
      exact firingItems
    · unfold itemsAt at blockingItems
      rw [firingOthers _ (by decide)] at blockingItems
      exact blockingItems
  · simp only [triggerFields, List.mem_cons, List.not_mem_nil, or_false, not_or] at other
    unfold Entity.get Entity.get?
    rw [blockingOthers _ other.2, firingOthers _ other.1]

/-- How an entity that is left reads once its references to removed triggers and variables are redirected. -/
def Redirected (triggers : List (String × String)) (table : Text.Renames) (kind : Kind) (old new : Entity) : Prop :=
  match kind with
  | .tag => ∃ remapped : Entity, remapTag triggers old.toJson = .ok remapped.toJson ∧ new = remapped.rename table
  | _ => new = old.rename table

section

variable {triggers : List (String × String)} {table : Text.Renames} {kind : Kind} {old new : Entity}
  (redirected : Redirected triggers table kind old new)
include redirected

/-- In a field that does not refer to triggers the references to variables are renamed. -/
theorem Redirected.get {key : String} (notValue : key ≠ "value") (notIds : key ∉ triggerFields) :
    new.get key = (old.get key).renameReferences table := by
  unfold Redirected at redirected
  split at redirected
  · obtain ⟨remapped, run, rfl⟩ := redirected
    rw [Entity.get_rename notValue, (remapTag_get run).2 key notIds]
  · rw [redirected, Entity.get_rename notValue]

/-- The references of a tag to triggers are remapped. -/
theorem Redirected.remapped (isTag : kind = .tag) {field : String} (member : field ∈ triggerFields) :
    remapTriggers triggers (old.get field).items = .ok (new.get field).items := by
  subst isTag
  obtain ⟨remapped, run, rfl⟩ := redirected
  have fields := (remapTag_get run).1
  have notValue : field ≠ "value" := fun same => absurd (same ▸ member) (by decide)
  -- Identifiers are plain values, in which nothing is renamed.
  have plain : (remapped.get field).items.map (Json.renameReferences table) = (remapped.get field).items :=
    (List.map_congr_left fun value inside => Json.renameReferences_of_scalar table
      (mem_of_mem_remapTriggers (fields field member) inside).1).trans (List.map_id _)
  rw [Entity.get_rename notValue, Json.items_renameReferences, plain]
  exact fields field member

theorem Redirected.name : new.name = old.name := by
  rw [Entity.name, redirected.get (by decide) (by decide), Json.textOrEmpty_renameReferences, Entity.name]

theorem Redirected.written (proper : table.Proper) (plain : ∀ name ∈ old.written kind, ¬ Text.Nested name) :
    new.written kind = (old.written kind).map table.apply := by
  refine Entity.written_rename proper plain fun field scanned => redirected.get ?_ ?_
  · exact fun same => absurd (same ▸ scanned) (by cases kind <;> decide)
  · exact fun ids => by
      simp only [triggerFields, List.mem_cons, List.not_mem_nil, or_false] at ids
      rcases ids with rfl | rfl <;> exact absurd scanned (by cases kind <;> decide)

end

theorem Redirected.unique {triggers : List (String × String)} {table : Text.Renames} {kind : Kind}
    {old new other : Entity} (first : Redirected triggers table kind old new)
    (second : Redirected triggers table kind old other) : new = other := by
  by_cases isTag : kind = .tag
  · subst isTag
    obtain ⟨remapped, run, rfl⟩ := first
    obtain ⟨again, same, rfl⟩ := second
    have equal : remapped.toJson = again.toJson := Except.ok.inj (run.symm.trans same)
    rw [show remapped = again from congrArg Entity.mk (Json.obj.inj equal)]
  · have renamed {e : Entity} (redirected : Redirected triggers table kind old e) : e = old.rename table := by
      unfold Redirected at redirected
      split at redirected
      · exact absurd rfl isTag
      · exact redirected
    rw [renamed first, renamed second]

theorem redirected_of_redirectItem {triggers : List (String × String)} {table : Text.Renames} {old new : Json}
    (run : redirectItem triggers table .tags old = .ok new) :
    Option.Rel (Redirected triggers table .tag) (Entity.ofJson? old) (Entity.ofJson? new) := by
  unfold redirectItem at run
  cases remapped : remapTag triggers old with
  | error f =>
    rw [remapped] at run
    cases run
  | ok value =>
    rw [remapped] at run
    cases run
    obtain ⟨tag, renamed, rfl, rfl⟩ := exists_of_remapTag remapped
    exact .some ⟨renamed, remapped, rfl⟩

end Cleanup

/-- A kind that is compared, as one whose entities refer to variables. -/
def Comparable.asKind : Comparable → Kind
  | .tags => .tag
  | .triggers => .trigger
  | .userVariables => .variable

theorem Comparable.label_asKind (kind : Comparable) : kind.asKind.label = kind.key := by
  cases kind <;> rfl

namespace Container

open Cleanup

/-- What duplicates are removed from: the whole version, or the version without the unused entities. -/
def base (c : Container) (withoutUnused : Bool) : Cleanup :=
  if withoutUnused then Cleanup.removeUnused ⟨c.version, []⟩ c else ⟨c.version, []⟩

/-- The entities of a kind that are left when duplicates are removed, as they were before. -/
def left (c : Container) (withoutUnused : Bool) (kind : Kind) : List Entity :=
  (itemsAt ((c.base withoutUnused).removeAllDuplicates c).version kind.label).filterMap Entity.ofJson?

theorem mem_left (c : Container) (withoutUnused : Bool) (kind : Comparable) {e : Entity} :
    e ∈ c.left withoutUnused kind.asKind ↔ e ∈ (c.base withoutUnused).entities kind ∧
      e.idOf kind ∉ ((c.base withoutUnused).pairs c kind).map fun p => p.duplicate.idOf kind := by
  have items : itemsAt ((c.base withoutUnused).removeAllDuplicates c).version kind.asKind.label =
      ((c.base withoutUnused).items kind).filter fun item =>
        !isNamed kind (((c.base withoutUnused).pairs c kind).map fun p => p.duplicate.idOf kind) item := by
    rw [kind.label_asKind]
    exact (removeAllDuplicates_items _ c kind).trans (remove_items _ _ _ _)
  rw [left, items, Entity.mem_filterMap_ofJson?, List.mem_filter, Cleanup.entities, Entity.mem_filterMap_ofJson?]
  refine and_congr_right fun _ => ?_
  rw [Bool.not_eq_true', ← Bool.not_eq_true]
  exact not_congr List.contains_iff_mem

theorem left_clients (c : Container) (withoutUnused : Bool) : c.left withoutUnused .client = c.objects "client" := by
  have noKey : ∀ kind : Comparable, "client" ≠ kind.key := by
    intro kind
    cases kind <;> decide
  have untouched : Json.lookup (c.base withoutUnused).version "client" = Json.lookup c.version "client" := by
    cases withoutUnused with
    | false => rfl
    | true => exact removeUnused_lookup_of_ne _ _ noKey
  have items : itemsAt ((c.base withoutUnused).removeAllDuplicates c).version "client" = (c.get "client").items := by
    rw [itemsAt, removeAllDuplicates_lookup_of_ne _ _ noKey, untouched, Container.get]
  exact congrArg (List.filterMap Entity.ofJson?) items

/-- A cleaned document holds what is left of each kind, with the references redirected. -/
theorem optimizedDocument_redirected {c : Container} {withoutUnused : Bool} {stamp : String}
    {document : List (String × Json)}
    (run : c.optimizedDocument (c.cleanUp withoutUnused true) stamp = .ok document) (includePaused : Bool)
    (source : Option String) : ∃ renamed written optimized,
      variableRenames ((c.base withoutUnused).pairs c .userVariables) = .ok renamed ∧
      writtenRenames renamed = .ok written ∧
      Container.ofJson (.obj document) includePaused source = .ok optimized ∧
      optimized.includePaused = includePaused ∧ ∀ kind : Kind,
        List.Forall₂ (Redirected (triggerRenames ((c.base withoutUnused).pairs c .triggers))
          (renameTable written) kind) (c.left withoutUnused kind) (optimized.objects kind.label) := by
  obtain ⟨v, cleaned, optimized, read, sameFlag, stamped⟩ := optimizedDocument_readAs run includePaused source
  have deduplicated : (c.deduplicate (c.base withoutUnused)).version = .ok v := cleaned
  obtain ⟨renamed, names, _, redirected⟩ := deduplicate_of_ok deduplicated
  obtain ⟨written, texts, items⟩ := redirect_items redirected
  obtain ⟨others, same, otherItems⟩ := redirect_others redirected
  cases texts.symm.trans same
  refine ⟨renamed, written, optimized, names, texts, read, sameFlag, fun kind => ?_⟩
  have objects : optimized.objects kind.label = (itemsAt v kind.label).filterMap Entity.ofJson? := by
    rw [Container.objects, Container.get, stamped, lookup_stampVersion (by cases kind <;> decide)
      (by cases kind <;> decide), itemsAt]
  rw [objects, left]
  by_cases isTag : kind = .tag
  · subst isTag
    exact List.rel_filterMap (fun _ _ redirects => redirected_of_redirectItem redirects) (items .tags)
  · rw [otherItems kind.label (by cases kind <;> decide) (by cases kind <;> first | decide | exact absurd rfl isTag),
      List.filterMap_map]
    have renames : Entity.ofJson? ∘ Json.renameReferences (renameTable written) =
        fun item => (Entity.ofJson? item).map (Entity.rename (renameTable written)) :=
      funext (Entity.ofJson?_renameReferences _)
    rw [renames, ← List.map_filterMap, List.forall₂_map_right_iff]
    refine List.forall₂_same.mpr fun e _ => ?_
    cases kind <;> first | rfl | exact absurd rfl isTag

end Container

end TagAudit

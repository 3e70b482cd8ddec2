import TagAudit.Proofs.Cleanup.Redirected

namespace TagAudit

theorem exists_mapM_iff {α β ε : Type} {f : α → Except ε β} {xs : List α} :
    (∃ ys, xs.mapM f = .ok ys) ↔ ∀ x ∈ xs, ∃ y, f x = .ok y := by
  refine ⟨fun ⟨ys, run⟩ x member => ?_, exists_mapM⟩
  obtain ⟨y, _, here⟩ := forall₂_of_mem_left (forall₂_of_mapM run) member
  exact ⟨y, here⟩

namespace Text

/-- Where every rename has a replacement, every text can be rewritten. -/
theorem renamable_of_writable {renames : Renames} (writable : ∀ row ∈ renames, row.2.isSome = true) (text : String) :
    renamable renames text = true := by
  have never (skip : Nat) (s : List Char) : meetsUnwritable renames skip s = false := by
    induction s generalizing skip with
    | nil => cases skip <;> rfl
    | cons c rest ih =>
      cases skip with
      | succ skip => exact ih skip
      | zero =>
        rw [meetsUnwritable]
        cases found : renameAt renames (c :: rest) with
        | none => exact ih 0
        | some row =>
          obtain ⟨new, written⟩ := Option.isSome_iff_exists.mp (writable row (renameAt_eq_some found).1)
          obtain ⟨old, _⟩ := row
          obtain rfl := written
          exact ih _
  rw [renamable, never, Bool.not_false]

end Text

namespace Json

theorem renamable_of_writable {renames : Text.Renames} (writable : ∀ row ∈ renames, row.2.isSome = true)
    (value : Json) : value.renamable renames = true :=
  List.all_eq_true.mpr fun text _ => Text.renamable_of_writable writable text

theorem isText_of_scalar {value : Json} {s : String} (read : value.scalar = .ok (.str s)) : value.isText = true := by
  cases value <;> cases read
  rfl

end Json

theorem Entity.toJson_injective {e f : Entity} (same : e.toJson = f.toJson) : e = f :=
  congrArg Entity.mk (Json.obj.inj same)

namespace Cleanup

theorem exists_changeItems {version : List (String × Json)} {key : String}
    {change : List Json → Except Fault (List Json)} (succeeds : ∃ new, change (itemsAt version key) = .ok new) :
    ∃ v, changeItems version key change = .ok v := by
  unfold changeItems
  split
  · rename_i items found
    obtain ⟨new, changed⟩ := succeeds
    rw [itemsAt, found] at changed
    refine ⟨Json.assign version key (.arr new), ?_⟩
    exact congrArg (fun x => x >>= fun new => Except.ok (Json.assign version key (.arr new))) changed
  · exact ⟨version, rfl⟩

/-- An array that is no list is left alone, so a change that returns for no entries decides. -/
theorem exists_changeItems_iff {version : List (String × Json)} {key : String}
    {change : List Json → Except Fault (List Json)} (empty : ∃ new, change [] = .ok new) :
    (∃ v, changeItems version key change = .ok v) ↔ ∃ new, change (itemsAt version key) = .ok new := by
  refine ⟨fun ⟨v, run⟩ => ?_, exists_changeItems⟩
  exact changeItems_self (R := fun items _ => ∃ new, change items = .ok new) run empty
    fun _ changed done => ⟨changed, done⟩

theorem exists_renameItems_iff {table : Text.Renames} {items : List Json} :
    (∃ new, renameItems table items = .ok new) ↔ ∀ item ∈ items, item.renamable table = true := by
  unfold renameItems
  rw [← List.all_eq_true]
  split
  · rename_i all
    exact iff_of_true ⟨_, rfl⟩ all
  · rename_i unwritable
    exact iff_of_false (fun ⟨_, run⟩ => nomatch run) unwritable

/-- Renaming goes through the arrays one by one, and an array is still as it was when its turn comes. -/
theorem exists_renameAll_iff {table : Text.Renames} {keys : List String} (nodup : keys.Nodup)
    {version : List (String × Json)} :
    (∃ v, keys.foldlM (fun v key => changeItems v key (renameItems table)) version = .ok v) ↔
      ∀ key ∈ keys, ∀ item ∈ itemsAt version key, item.renamable table = true := by
  induction keys generalizing version with
  | nil => exact iff_of_true ⟨version, rfl⟩ fun _ none => nomatch none
  | cons first rest ih =>
    rw [List.nodup_cons] at nodup
    rw [List.foldlM_cons, exists_bind_iff, List.forall_mem_cons]
    have empty : ∃ new, renameItems table [] = .ok new := ⟨[], rfl⟩
    have here : (∃ v, changeItems version first (renameItems table) = .ok v) ↔
        ∀ item ∈ itemsAt version first, item.renamable table = true :=
      (exists_changeItems_iff empty).trans exists_renameItems_iff
    have later {middle : List (String × Json)} (run : changeItems version first (renameItems table) = .ok middle) :
        (∃ v, rest.foldlM (fun v key => changeItems v key (renameItems table)) middle = .ok v) ↔
          ∀ key ∈ rest, ∀ item ∈ itemsAt version key, item.renamable table = true := by
      refine (ih nodup.2).trans (forall₂_congr fun key member => ?_)
      rw [changeItems_of_ne run fun same => nodup.1 (same ▸ member)]
    constructor
    · rintro ⟨middle, run, all⟩
      exact ⟨here.mp ⟨middle, run⟩, (later run).mp all⟩
    · rintro ⟨writable, all⟩
      obtain ⟨middle, run⟩ := here.mpr writable
      exact ⟨middle, run, (later run).mpr all⟩

/-- A reference to a trigger that can be a key, or that the identifier of a kept trigger replaces. -/
def Keyable (renames : List (String × String)) (id : Json) : Prop :=
  id.scalar?.isSome = true ∨ ∃ kept, (id.text, kept) ∈ renames

theorem exists_scalar_iff {value : Json} : (∃ s, value.scalar = .ok s) ↔ value.scalar?.isSome = true := by
  unfold Json.scalar
  cases value.scalar? with
  | some s => exact iff_of_true ⟨s, rfl⟩ rfl
  | none => exact iff_of_false (fun ⟨_, run⟩ => nomatch run) Bool.false_ne_true

section

variable {renames : List (String × String)}

theorem remapTrigger_scalar_iff {id : Json} :
    (remapTrigger renames id).scalar?.isSome = true ↔ Keyable renames id := by
  unfold remapTrigger Keyable
  rcases latest?_cases renames id.text with ⟨absent, none⟩ | ⟨kept, member, found⟩
  · rw [none]
    exact ⟨Or.inl, fun keyable => keyable.resolve_right fun ⟨kept, member⟩ => absent kept member⟩
  · rw [found]
    exact iff_of_true rfl (Or.inr ⟨kept, member⟩)

theorem exists_remapTriggers_iff {ids : List Json} :
    (∃ new, remapTriggers renames ids = .ok new) ↔ ∀ id ∈ ids, Keyable renames id := by
  have scalars : (∃ new, remapTriggers renames ids = .ok new) ↔
      ∃ s, (ids.map (remapTrigger renames)).mapM Json.scalar = .ok s := by
    unfold remapTriggers
    rw [exists_bind_iff]
    exact exists_congr fun s => and_iff_left ⟨_, rfl⟩
  rw [scalars, exists_mapM_iff, List.forall_mem_map]
  exact forall₂_congr fun id _ => exists_scalar_iff.trans remapTrigger_scalar_iff

theorem exists_remapField_iff {tag : List (String × Json)} {field : String} :
    (∃ new, remapField renames tag field = .ok new) ↔ ∀ id ∈ itemsAt tag field, Keyable renames id := by
  have empty : ∃ new, remapTriggers renames [] = .ok new := ⟨[], rfl⟩
  exact (exists_changeItems_iff empty).trans exists_remapTriggers_iff

/-- A tag can be remapped if it is an object and all its references to triggers can be keys. -/
theorem exists_remapTag_iff {item : Json} : (∃ new, remapTag renames item = .ok new) ↔
    ∃ tag : Entity, item = tag.toJson ∧
      ∀ field ∈ triggerFields, ∀ id ∈ (tag.get field).items, Keyable renames id := by
  constructor
  · rintro ⟨new, run⟩
    obtain ⟨old, new, rfl, rfl⟩ := exists_of_remapTag run
    refine ⟨old, rfl, fun field member => ?_⟩
    exact exists_remapTriggers_iff.mp ⟨_, (remapTag_get run).1 field member⟩
  · rintro ⟨tag, rfl, keyable⟩
    obtain ⟨firing, first⟩ : ∃ firing, remapField renames tag.fields "firingTriggerId" = .ok firing :=
      exists_remapField_iff.mpr (keyable _ List.mem_cons_self)
    have same : itemsAt firing "blockingTriggerId" = itemsAt tag.fields "blockingTriggerId" := by
      rw [itemsAt, (remapField_items first).2 _ (by decide), itemsAt]
    obtain ⟨blocking, second⟩ : ∃ blocking, remapField renames firing "blockingTriggerId" = .ok blocking :=
      exists_remapField_iff.mpr (same ▸ keyable _ (List.mem_cons_of_mem _ List.mem_cons_self))
    refine ⟨.obj blocking, ?_⟩
    rw [Entity.toJson, remapTag, first]
    exact congrArg (fun x => x >>= fun fields => Except.ok (Json.obj fields)) second

end

/-- After the tags are remapped, the renames ask it of the new tags, and of all other entries as they were. -/
theorem exists_renameAll_remapped_iff {table : Text.Renames} {triggers : List (String × String)}
    {version remapped : List (String × Json)}
    (run : changeItems version "tag" (fun items => items.mapM (remapTag triggers)) = .ok remapped) :
    (∃ v, referringKeys.foldlM (fun v key => changeItems v key (renameItems table)) remapped = .ok v) ↔
      (∀ item ∈ itemsAt version "tag", ∀ new, remapTag triggers item = .ok new → new.renamable table = true) ∧
      ∀ key ∈ referringKeys, key ≠ "tag" → ∀ item ∈ itemsAt version key, item.renamable table = true := by
  have tags : List.Forall₂ (fun old new => remapTag triggers old = .ok new) (itemsAt version "tag")
      (itemsAt remapped "tag") :=
    changeItems_self (R := List.Forall₂ fun old new => remapTag triggers old = .ok new) run .nil
      fun _ _ done => forall₂_of_mapM done
  have remappedTags : (∀ item ∈ itemsAt remapped "tag", item.renamable table = true) ↔
      ∀ item ∈ itemsAt version "tag", ∀ new, remapTag triggers item = .ok new → new.renamable table = true := by
    refine forall₂_forall_iff tags fun old _ new here => ⟨fun writable other run => ?_, fun all => all new here⟩
    exact Except.ok.inj (here.symm.trans run) ▸ writable
  rw [exists_renameAll_iff (by decide), ← remappedTags]
  constructor
  · intro all
    refine ⟨all "tag" (by decide), fun key member notTag => ?_⟩
    exact changeItems_of_ne run notTag ▸ all key member
  · rintro ⟨first, others⟩ key member
    by_cases isTag : key = "tag"
    · exact isTag ▸ first
    · exact changeItems_of_ne run isTag ▸ others key member isTag

/-- Redirecting returns where the renames are written with texts, every tag can be remapped, and every rename
that is asked for afterwards has a text to write. -/
theorem exists_redirect_iff {version : List (String × Json)} {triggers : List (String × String)}
    {renamed : List (Scalar × Json)} : (∃ v, redirect version triggers renamed = .ok v) ↔
      (∀ item ∈ itemsAt version "tag", ∃ new, remapTag triggers item = .ok new) ∧
      ∃ written, writtenRenames renamed = .ok written ∧
        (∀ item ∈ itemsAt version "tag", ∀ new, remapTag triggers item = .ok new →
          new.renamable (renameTable written) = true) ∧
        ∀ key ∈ referringKeys, key ≠ "tag" → ∀ item ∈ itemsAt version key,
          item.renamable (renameTable written) = true := by
  have empty : ∃ new, (fun items => items.mapM (remapTag triggers)) [] = .ok new := ⟨[], rfl⟩
  have remaps : (∃ remapped, changeItems version "tag" (fun items => items.mapM (remapTag triggers)) = .ok remapped) ↔
      ∀ item ∈ itemsAt version "tag", ∃ new, remapTag triggers item = .ok new :=
    (exists_changeItems_iff empty).trans exists_mapM_iff
  unfold redirect
  rw [exists_bind_iff]
  constructor
  · rintro ⟨remapped, run, last⟩
    obtain ⟨written, texts, last⟩ := exists_bind_iff.mp last
    exact ⟨remaps.mp ⟨remapped, run⟩, written, texts, (exists_renameAll_remapped_iff run).mp last⟩
  · rintro ⟨all, written, texts, writable⟩
    obtain ⟨remapped, run⟩ := remaps.mpr all
    have last := (exists_renameAll_remapped_iff run).mpr writable
    exact ⟨remapped, run, exists_bind_iff.mpr ⟨written, texts, last⟩⟩

/-- For the names of removed variables those of the kept ones, which may be no texts. -/
def replacements (pairs : List Pair) : List (String × Json) :=
  (renamedPairs pairs).map fun p => (p.duplicate.name, p.keep.get "name")

theorem exists_renames {pairs : List Pair}
    (texts : ∀ p ∈ renamedPairs pairs, (p.duplicate.get "name").isText = true) :
    ∃ renamed, variableRenames pairs = .ok renamed ∧ writtenRenames renamed = .ok (replacements pairs) :=
  ⟨_, variableRenames_eq texts, writtenRenames_eq _ _⟩

/-- The renames can be written exactly if the names to look for are texts. -/
theorem renames_written_iff {pairs : List Pair} {written : List (String × Json)} :
    (∃ renamed, variableRenames pairs = .ok renamed ∧ writtenRenames renamed = .ok written) ↔
      (∀ p ∈ renamedPairs pairs, (p.duplicate.get "name").isText = true) ∧ written = replacements pairs := by
  constructor
  · rintro ⟨renamed, names, texts⟩
    have each : ∀ p ∈ renamedPairs pairs, (p.duplicate.get "name").isText = true := by
      intro p member
      obtain ⟨row, inside, read⟩ := forall₂_of_mem_left (forall₂_of_mapM names) member
      obtain ⟨_, _, text⟩ := forall₂_of_mem_left (forall₂_of_mapM texts) inside
      obtain ⟨name, scalar, same⟩ := ok_of_bind read
      cases same
      cases name with
      | str s => exact Json.isText_of_scalar scalar
      | _ => cases text
    obtain ⟨again, sameNames, sameTexts⟩ := exists_renames each
    obtain rfl := Except.ok.inj (names.symm.trans sameNames)
    exact ⟨each, Except.ok.inj (texts.symm.trans sameTexts)⟩
  · rintro ⟨texts, rfl⟩
    exact exists_renames texts

end Cleanup

namespace Container

open Cleanup

/-- The entries of an array that are left when duplicates are removed, as they were before. -/
def entriesLeft (c : Container) (withoutUnused : Bool) (key : String) : List Json :=
  itemsAt ((c.base withoutUnused).removeAllDuplicates c).version key

/-- The identifiers of removed triggers with those of the kept ones. -/
def triggerTable (c : Container) (withoutUnused : Bool) : List (String × String) :=
  triggerRenames ((c.base withoutUnused).pairs c .triggers)

/-- The names that are looked for in references to variables, with what replaces them. -/
def variableTable (c : Container) (withoutUnused : Bool) : Text.Renames :=
  renameTable (replacements ((c.base withoutUnused).pairs c .userVariables))

/-- What the removal of duplicates asks of a document beyond what is asked for it to be accepted. -/
structure Redirectable (c : Container) (withoutUnused : Bool) : Prop where
  /-- All entries of the array of tags are objects. -/
  objects : ∀ item ∈ (c.get "tag").items, ∃ tag : Entity, item = tag.toJson
  /-- The tags that are left refer to triggers by values that can be keys, except where they mean a
  removed trigger. -/
  keys : ∀ tag ∈ c.left withoutUnused .tag, ∀ field ∈ triggerFields, ∀ id ∈ (tag.get field).items,
    Keyable (c.triggerTable withoutUnused) id
  /-- A variable that is removed in favour of another one has a text as its name, if both have names. -/
  names : ∀ p ∈ renamedPairs ((c.base withoutUnused).pairs c .userVariables),
    (p.duplicate.get "name").isText = true
  /-- Where the tags that are left refer to a removed variable, the name of the kept one is a text. -/
  tags : ∀ tag ∈ c.left withoutUnused .tag, ∀ new,
    remapTag (c.triggerTable withoutUnused) tag.toJson = .ok new →
      new.renamable (c.variableTable withoutUnused) = true
  /-- The same for all other entries that may refer to variables. -/
  others : ∀ key ∈ referringKeys, key ≠ "tag" → ∀ item ∈ c.entriesLeft withoutUnused key,
    item.renamable (c.variableTable withoutUnused) = true

section

variable (c : Container) (withoutUnused : Bool)

theorem mem_left_iff (kind : Kind) {e : Entity} :
    e ∈ c.left withoutUnused kind ↔ e.toJson ∈ c.entriesLeft withoutUnused kind.label := by
  rw [left, Entity.mem_filterMap_ofJson?, entriesLeft]

/-- What is left of an array is told by a test of its objects; all other entries are left. -/
theorem exists_entriesLeft_eq (kind : Comparable) : ∃ test : Entity → Bool,
    c.entriesLeft withoutUnused kind.key =
      (c.get kind.key).items.filter fun item => (Entity.ofJson? item).all test := by
  have unnamed (ids : List String) (item : Json) : (!isNamed kind ids item) =
      (Entity.ofJson? item).all fun e => !ids.contains (e.idOf kind) := by
    unfold isNamed
    cases Entity.ofJson? item <;> rfl
  have left : c.entriesLeft withoutUnused kind.key = ((c.base withoutUnused).removeDuplicates c kind).items kind :=
    removeAllDuplicates_items _ c kind
  rw [left, removeDuplicates, remove_items]
  simp only [unnamed]
  cases withoutUnused with
  | false => exact ⟨_, rfl⟩
  | true =>
    have pruned : (c.base true).items kind = (c.get kind.key).items.filter fun item =>
        !isNamed kind ((unusedOf c kind).map (Entity.idOf kind)) item := removeUnused_items _ c kind
    simp only [unnamed] at pruned
    rw [pruned, List.filter_filter]
    refine ⟨fun e => !(((c.base true).pairs c kind).map fun p => p.duplicate.idOf kind).contains (e.idOf kind) &&
      !((unusedOf c kind).map (Entity.idOf kind)).contains (e.idOf kind), List.filter_congr fun item _ => ?_⟩
    cases Entity.ofJson? item <;> rfl

theorem mem_items_of_entriesLeft (kind : Comparable) {item : Json}
    (member : item ∈ c.entriesLeft withoutUnused kind.key) : item ∈ (c.get kind.key).items := by
  obtain ⟨test, left⟩ := c.exists_entriesLeft_eq withoutUnused kind
  exact (List.mem_filter.mp (left ▸ member)).1

/-- The tags that are left are objects exactly if all are: no other entry is ever removed. -/
theorem entriesLeft_objects_iff : (∀ item ∈ c.entriesLeft withoutUnused "tag", ∃ tag : Entity, item = tag.toJson) ↔
    ∀ item ∈ (c.get "tag").items, ∃ tag : Entity, item = tag.toJson := by
  obtain ⟨test, left⟩ : ∃ test : Entity → Bool, c.entriesLeft withoutUnused "tag" = _ :=
    c.exists_entriesLeft_eq withoutUnused .tags
  rw [left]
  refine ⟨fun objects item member => ?_, fun objects item member => objects item (List.mem_filter.mp member).1⟩
  cases item with
  | obj fields => exact ⟨⟨fields⟩, rfl⟩
  | _ => exact objects _ (List.mem_filter.mpr ⟨member, rfl⟩)

/-- The two steps of a run that may find something that they cannot use. -/
theorem deduplicate_returns_steps : (∃ v, (c.deduplicate (c.base withoutUnused)).version = .ok v) ↔
    ∃ renamed, variableRenames ((c.base withoutUnused).pairs c .userVariables) = .ok renamed ∧
      ∃ v, redirect ((c.base withoutUnused).removeAllDuplicates c).version (c.triggerTable withoutUnused) renamed =
        .ok v := by
  rw [deduplicate_eq]
  cases variableRenames ((c.base withoutUnused).pairs c .userVariables) with
  | error f => exact iff_of_false (fun ⟨_, run⟩ => nomatch run) fun ⟨_, run, _⟩ => nomatch run
  | ok renamed =>
    refine ⟨fun ⟨v, run⟩ => ⟨renamed, rfl, v, run⟩, ?_⟩
    rintro ⟨_, same, v, run⟩
    cases same
    exact ⟨v, run⟩

theorem deduplicate_returns_iff :
    (∃ v, (c.deduplicate (c.base withoutUnused)).version = .ok v) ↔ c.Redirectable withoutUnused := by
  rw [deduplicate_returns_steps]
  constructor
  · rintro ⟨renamed, names, redirected⟩
    obtain ⟨remaps, written, texts, tags, others⟩ := exists_redirect_iff.mp redirected
    obtain ⟨named, rfl⟩ := renames_written_iff.mp ⟨renamed, names, texts⟩
    refine ⟨(c.entriesLeft_objects_iff withoutUnused).mp fun item member => ?_, fun tag member => ?_, named,
      fun tag member => tags _ ((c.mem_left_iff withoutUnused .tag).mp member), others⟩
    · obtain ⟨tag, same, _⟩ := exists_remapTag_iff.mp (remaps item member)
      exact ⟨tag, same⟩
    · have there := (c.mem_left_iff withoutUnused .tag).mp member
      obtain ⟨same, equal, keyable⟩ := exists_remapTag_iff.mp (remaps _ there)
      exact Entity.toJson_injective equal ▸ keyable
  · intro redirectable
    obtain ⟨renamed, names, texts⟩ := exists_renames redirectable.names
    have tags : ∀ item ∈ c.entriesLeft withoutUnused "tag", ∃ tag ∈ c.left withoutUnused .tag, item = tag.toJson := by
      intro item member
      obtain ⟨tag, rfl⟩ := (c.entriesLeft_objects_iff withoutUnused).mpr redirectable.objects item member
      exact ⟨tag, (c.mem_left_iff withoutUnused .tag).mpr member, rfl⟩
    refine ⟨renamed, names, exists_redirect_iff.mpr ⟨fun item member => ?_, _, texts, fun item member => ?_,
      redirectable.others⟩⟩
    · obtain ⟨tag, left, rfl⟩ := tags item member
      exact exists_remapTag_iff.mpr ⟨tag, rfl, redirectable.keys tag left⟩
    · obtain ⟨tag, left, rfl⟩ := tags item member
      exact redirectable.tags tag left

end

/-- Cleaning up returns a document for every container if duplicates are kept. If they are removed, it
returns one exactly where everything can be redirected. -/
theorem optimizedDocument_returns_iff (c : Container) (withoutUnused withoutDuplicates : Bool) (stamp : String) :
    (∃ document, c.optimizedDocument (c.cleanUp withoutUnused withoutDuplicates) stamp = .ok document) ↔
      (withoutDuplicates = true → c.Redirectable withoutUnused) := by
  have document : (∃ document, c.optimizedDocument (c.cleanUp withoutUnused withoutDuplicates) stamp =
      .ok document) ↔ ∃ v, (c.cleanUp withoutUnused withoutDuplicates).version = .ok v := by
    unfold optimizedDocument
    refine ⟨fun ⟨document, run⟩ => ?_, fun ⟨v, run⟩ => ⟨_, congrArg (Except.map _) run⟩⟩
    obtain ⟨v, run, _⟩ := ok_of_map run
    exact ⟨v, run⟩
  rw [document]
  cases withoutDuplicates with
  | false => exact iff_of_true ⟨_, rfl⟩ nofun
  | true => exact (c.deduplicate_returns_iff withoutUnused).trans (by simp)

/-- The fields of a container version with an entry that is no object in the array of tags. -/
def garbageVersion : List (String × Json) := [("tag", .arr ["garbage"])]

def garbage : Container := ⟨[("containerVersion", .obj garbageVersion)], garbageVersion, true, none, rfl⟩

/-- The container is accepted, without any tags, and no duplicates can be removed from it. -/
theorem garbage_refused : Container.ofJson (.obj garbage.document) true none = .ok garbage ∧
    garbage.tags = [] ∧ ∀ withoutUnused,
      garbage.optimizedDocument (garbage.cleanUp withoutUnused true) "7" = .error .notObject := by
  refine ⟨rfl, rfl, fun withoutUnused => ?_⟩
  cases withoutUnused with
  | false => rfl
  | true => rfl

/-- Removing duplicates returns a document if the entries of the array of tags are objects that refer to
triggers by values that are no lists or objects, and the names of variables are texts. -/
theorem exists_optimizedDocument (c : Container) (withoutUnused : Bool) (stamp : String)
    (tags : ∀ item ∈ (c.get "tag").items, ∃ tag : Entity, item = tag.toJson ∧
      ∀ field ∈ triggerFields, ∀ id ∈ (tag.get field).items, id.scalar?.isSome = true)
    (names : ∀ v ∈ c.allOf .userVariables, v.get "name" = .str v.name) :
    ∃ document, c.optimizedDocument (c.cleanUp withoutUnused true) stamp = .ok document := by
  have writable : ∀ row ∈ c.variableTable withoutUnused, row.2.isSome = true := by
    intro row member
    obtain ⟨entry, inside, rfl⟩ := mem_renameTable member
    obtain ⟨p, renamed, rfl⟩ := List.mem_map.mp inside
    obtain ⟨keep, _⟩ := pair_of_mem (List.mem_filter.mp renamed).1
    rw [names _ ((c.entitiesOf_sublist _).subset keep)]
    rfl
  have redirectable : c.Redirectable withoutUnused := by
    refine ⟨fun item member => ?_, fun tag left field member id inside => ?_, fun p member => ?_,
      fun _ _ new _ => Json.renamable_of_writable writable new,
      fun _ _ _ item _ => Json.renamable_of_writable writable item⟩
    · obtain ⟨tag, same, _⟩ := tags item member
      exact ⟨tag, same⟩
    · have there := (c.mem_left_iff withoutUnused .tag).mp left
      obtain ⟨same, equal, plain⟩ := tags _ (c.mem_items_of_entriesLeft withoutUnused .tags there)
      exact Or.inl (plain field member id (Entity.toJson_injective equal ▸ inside))
    · obtain ⟨_, duplicate, _⟩ := pair_of_mem (List.mem_filter.mp member).1
      rw [names _ ((c.entitiesOf_sublist _).subset duplicate)]
      rfl
  obtain ⟨v, run⟩ := (c.deduplicate_returns_iff withoutUnused).mpr redirectable
  have cleaned : (c.cleanUp withoutUnused true).version = .ok v := run
  rw [optimizedDocument, cleaned]
  exact ⟨_, rfl⟩

end Container

end TagAudit

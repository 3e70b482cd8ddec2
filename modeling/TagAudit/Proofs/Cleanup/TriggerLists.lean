import TagAudit.Proofs.Cleanup.Accounting
import TagAudit.Proofs.Cleanup.Members

namespace TagAudit

/-- A function that keeps different things apart can be applied before or after repetitions are dropped. -/
theorem distinct_map_of_beq {α β : Type} [BEq α] [BEq β] (f : α → β) (same : ∀ a b, (f b == f a) = (b == a))
    (xs : List α) : distinct (xs.map f) = (distinct xs).map f := by
  induction xs with
  | nil => rfl
  | cons a rest ih =>
    have others : (fun b => !(b == f a)) ∘ f = fun b => !(b == a) := funext fun b => congrArg not (same a b)
    rw [List.map_cons, distinct, ih, List.filter_map, others, distinct, List.map_cons]

namespace Cleanup

section

variable {pairs : List Pair} (coherent : Coherent (Entity.idOf .triggers) pairs)
include coherent

theorem remapTrigger_kept (id : String) :
    remapTrigger (triggerRenames pairs) (.str id) = .str (kept (Entity.idOf .triggers) pairs id) := by
  obtain ⟨new, text⟩ := remapTrigger_str (triggerRenames pairs) id
  have same := remapTrigger_text coherent (.str id)
  rw [text] at same
  rw [text, show new = _ from same]
  rfl

/-- Texts are mapped to what is kept for them, each once. -/
theorem remapTriggers_texts (ids : List String) : remapTriggers (triggerRenames pairs) (ids.map Json.str) =
    .ok ((distinct (ids.map (kept (Entity.idOf .triggers) pairs))).map Json.str) := by
  have read : (ids.map Json.str).map (remapTrigger (triggerRenames pairs)) =
      (ids.map (kept (Entity.idOf .triggers) pairs)).map Json.str := by
    rw [List.map_map, List.map_map]
    exact List.map_congr_left fun id _ => remapTrigger_kept coherent id
  have scalars (texts : List String) : (texts.map Json.str).mapM Json.scalar = .ok (texts.map Scalar.str) := by
    rw [List.mapM_map]
    exact mapM_ok fun _ _ => rfl
  have single (texts : List String) : distinct (texts.map Scalar.str) = (distinct texts).map Scalar.str :=
    distinct_map_of_beq Scalar.str (fun _ _ => rfl) texts
  rw [remapTriggers, read, scalars, ok_bind, single, List.map_map]
  rfl

end

/-- A list that refers to triggers stays one. -/
theorem remapField_arr {renames : List (String × String)} {tag new : List (String × Json)} {field : String}
    {ids : List Json} (run : remapField renames tag field = .ok new)
    (listed : Json.lookup tag field = some (.arr ids)) :
    ∃ remapped, remapTriggers renames ids = .ok remapped ∧ Json.lookup new field = some (.arr remapped) := by
  rw [remapField, listed] at run
  obtain ⟨remapped, done, assigned⟩ := ok_of_bind run
  cases assigned
  exact ⟨remapped, done, Json.lookup_assign_self _ _ _⟩

theorem remapTag_arr {renames : List (String × String)} {old new : Entity} {field : String} {ids : List Json}
    (run : remapTag renames old.toJson = .ok new.toJson) (member : field ∈ triggerFields)
    (listed : old.get field = .arr ids) :
    ∃ remapped, remapTriggers renames ids = .ok remapped ∧ new.get field = .arr remapped := by
  have given : Json.lookup old.fields field = some (.arr ids) := by
    unfold Entity.get Entity.get? at listed
    cases found : Json.lookup old.fields field with
    | none =>
      rw [found] at listed
      cases listed
    | some value =>
      rw [found] at listed
      exact congrArg some listed
  obtain ⟨firing, first, run⟩ := ok_of_bind run
  obtain ⟨blocking, second, assigned⟩ := ok_of_bind run
  obtain rfl : blocking = new.fields := Json.obj.inj (Except.ok.inj assigned)
  simp only [triggerFields, List.mem_cons, List.not_mem_nil, or_false] at member
  rcases member with rfl | rfl
  · obtain ⟨remapped, done, assigned⟩ := remapField_arr first given
    refine ⟨remapped, done, ?_⟩
    rw [Entity.get, Entity.get?, (remapField_items second).2 _ (by decide), assigned]
    rfl
  · rw [← (remapField_items first).2 _ (by decide)] at given
    obtain ⟨remapped, done, assigned⟩ := remapField_arr second given
    refine ⟨remapped, done, ?_⟩
    rw [Entity.get, Entity.get?, assigned]
    rfl

/-- A tag's list of texts that refer to triggers becomes the list of what is kept for them. -/
theorem Redirected.get_texts {pairs : List Pair} (coherent : Coherent (Entity.idOf .triggers) pairs)
    {table : Text.Renames} {old new : Entity} (redirected : Redirected (triggerRenames pairs) table .tag old new)
    {field : String} (member : field ∈ triggerFields) {ids : List String} (listed : old.get field = Json.texts ids) :
    new.get field = Json.texts (distinct (ids.map (kept (Entity.idOf .triggers) pairs))) := by
  obtain ⟨remapped, run, rfl⟩ := redirected
  obtain ⟨mapped, done, assigned⟩ := remapTag_arr run member listed
  rw [remapTriggers_texts coherent] at done
  cases done
  have notValue : field ≠ "value" := fun same => absurd (same ▸ member) (by decide)
  have plain (texts : List String) : (texts.map Json.str).map (Json.renameReferences table) = texts.map Json.str := by
    rw [List.map_map]
    exact List.map_congr_left fun text _ => Json.renameReferences_of_scalar table rfl
  rw [Entity.get_rename notValue, assigned, Json.renameReferences, Json.mapTemplates, Json.mapTemplatesOfItems_eq]
  exact congrArg Json.arr (plain _)

end Cleanup

namespace Container

open Cleanup

/-- What is kept in place of an identifier: for the other members of a group of duplicates that of the first one,
and else the identifier itself. -/
structure KeepsFirst (c : Container) (keep : String → String) : Prop where
  grouped : ∀ row ∈ c.duplicates .triggers, ∀ first rest, row.2 = first :: rest → ∀ e ∈ rest,
    keep (e.idOf .triggers) = first.idOf .triggers
  other : ∀ id, (∀ row ∈ c.duplicates .triggers, ∀ e ∈ row.2.tail, e.idOf .triggers ≠ id) → keep id = id

theorem mem_pairs_iff {c : Container} {kind : Comparable} {p : Pair} : p ∈ c.pairs kind ↔
    ∃ row ∈ c.duplicates kind, ∃ rest, row.2 = p.keep :: rest ∧ p.duplicate ∈ rest := by
  rw [pairs, List.mem_flatMap]
  refine exists_congr fun row => and_congr_right fun _ => ?_
  obtain ⟨_, members⟩ := row
  cases members with
  | nil => simp [pairsOf]
  | cons first rest =>
    simp only [pairsOf, List.mem_map, List.cons.injEq]
    constructor
    · rintro ⟨e, inside, rfl⟩
      exact ⟨rest, ⟨rfl, rfl⟩, inside⟩
    · rintro ⟨_, ⟨rfl, rfl⟩, inside⟩
      exact ⟨p.duplicate, inside, rfl⟩

theorem keepsFirst_kept {c : Container} (coherent : Coherent (Entity.idOf .triggers) (c.pairs .triggers)) :
    c.KeepsFirst (kept (Entity.idOf .triggers) (c.pairs .triggers)) := by
  refine ⟨fun row isRow first rest shape e inside => ?_, fun id other => kept_of_not_mem fun p member => ?_⟩
  · have pair : Pair.mk first e ∈ c.pairs .triggers := mem_pairs_iff.mpr ⟨row, isRow, rest, shape, inside⟩
    exact coherent.kept_of_mem pair
  · obtain ⟨row, isRow, rest, shape, inside⟩ := mem_pairs_iff.mp member
    refine other row isRow p.duplicate ?_
    rwa [shape]

/-- What is left of a kind is a part of what was there, in the same order. -/
theorem left_sublist (c : Container) (kind : Comparable) : (c.left false kind.asKind).Sublist (c.allOf kind) := by
  rw [left, kind.label_asKind]
  exact ((cleaned_accounts c false true).ordered kind).filterMap Entity.ofJson?

/-- A trigger with an identifier is left, and stands in the optimized document as the same one. -/
def HoldsTrigger (c optimized : Container) (table : Text.Renames) (id : String) : Prop :=
  ∃ old ∈ c.left false .trigger, old.idOf .triggers = id ∧
    ∃ new ∈ optimized.allOf .triggers, KeepsIdentity table .triggers old new

/-- How the lists of triggers in a tag are redirected: to what is kept, each once, so that nothing in them is removed
and whatever was there is there. -/
structure RedirectsLists (c optimized : Container) (table : Text.Renames) (keep : String → String)
    (field : String) (ids : List String) (new : Entity) : Prop where
  mapped : new.get field = Json.texts (distinct (ids.map keep))
  removed : ∀ t ∈ c.allOf .triggers, t ∉ c.left false .trigger → t.idOf .triggers ∉ distinct (ids.map keep)
  resolved : ∀ t ∈ c.allOf .triggers, keep (t.idOf .triggers) ∈ distinct (ids.map keep) →
    c.HoldsTrigger optimized table (keep (t.idOf .triggers))

/-- When duplicates are removed and nothing else, each list of texts by which a tag refers to triggers becomes the
list of what is kept for them. None of them is removed, and those that name triggers still do. -/
theorem optimizedDocument_triggerLists {c : Container} {stamp : String} {document : List (String × Json)}
    (distinctIds : c.DistinctIds .triggers)
    (run : c.optimizedDocument (c.cleanUp false true) stamp = .ok document) (includePaused : Bool)
    (source : Option String) : ∃ optimized table keep,
      Container.ofJson (.obj document) includePaused source = .ok optimized ∧
      c.redirectTable false true = .ok table ∧ c.KeepsFirst keep ∧
      (c.left false .trigger).Sublist (c.allOf .triggers) ∧
      List.Forall₂ (KeepsIdentity table .triggers) (c.left false .trigger) (optimized.allOf .triggers) ∧
      (c.left false .tag).Sublist (c.allOf .tags) ∧
      List.Forall₂ (fun old new => ∀ field ∈ triggerFields, ∀ ids, old.get field = Json.texts ids →
        c.RedirectsLists optimized table keep field ids new) (c.left false .tag) (optimized.allOf .tags) := by
  obtain ⟨renamed, written, optimized, names, texts, read, _, left⟩ :=
    optimizedDocument_redirected run includePaused source
  have coherent := coherent_pairs distinctIds (c.base false)
  rw [c.base_pairs .triggers] at left coherent
  have redirects : c.redirectTable false true = .ok (renameTable written) := by
    rw [redirectTable, if_pos rfl, names, ok_bind, texts]
    rfl
  have triggers : List.Forall₂ (KeepsIdentity (renameTable written) .triggers) (c.left false .trigger)
      (optimized.allOf .triggers) := (left .trigger).imp fun _ _ redirected => Redirected.keepsIdentity redirected
  refine ⟨optimized, renameTable written, _, read, redirects, keepsFirst_kept coherent, c.left_sublist .triggers,
    triggers, c.left_sublist .tags, (left .tag).imp fun old new redirected field member ids listed => ?_⟩
  refine ⟨redirected.get_texts coherent member listed, fun t known gone inside => ?_, fun t known _ => ?_⟩
  · have repeated : t.idOf .triggers ∈ c.repeatedIds .triggers := by
      by_contra unrepeated
      exact gone ((mem_left_iff_survives c .triggers).mpr (survives_iff.mpr ⟨known, unrepeated⟩))
    rw [← pairs_ids] at repeated
    obtain ⟨p, pair, same⟩ := List.mem_map.mp repeated
    obtain ⟨id, _, kept⟩ := List.mem_map.mp (mem_distinct.mp inside)
    exact coherent.kept_ne pair id (kept.trans same.symm)
  · obtain ⟨⟨old, there, same⟩, unrepeated⟩ := namesTrigger_kept coherent ⟨t, known, rfl⟩
    change old.idOf .triggers = _ at same
    rw [← same] at unrepeated
    have stays := (mem_left_iff_survives c .triggers).mpr (survives_iff.mpr ⟨there, unrepeated⟩)
    obtain ⟨new, present, identity⟩ := forall₂_of_mem_left triggers stays
    exact ⟨old, stays, same, new, present, identity⟩

def firingTag (ids : List String) : Entity :=
  ⟨[("tagId", "1"), ("name", "Purchase"), ("type", "html"), ("firingTriggerId", Json.texts ids)]⟩

def firedVersion (ids : List String) (triggers : List Entity) : List (String × Json) :=
  [("tag", .arr [(firingTag ids).toJson]), ("trigger", .arr (triggers.map Entity.toJson)),
    ("variable", .arr [(orderVariable "1" "Order ID").toJson, (orderVariable "2" "Order").toJson])]

/-- A container with a tag that fires on some triggers, and two variables, of which the second is a copy of the
first. -/
def fired (ids : List String) (triggers : List Entity) : Container :=
  ⟨[("containerVersion", .obj (firedVersion ids triggers))], firedVersion ids triggers, true, none, rfl⟩

theorem exists_fired_document (ids : List String) (triggers : List Entity) : ∃ document,
    (fired ids triggers).optimizedDocument ((fired ids triggers).cleanUp false true) "7" = .ok document := by
  refine exists_optimizedDocument _ _ _ ?_ fun v member => orderVariable_name member
  intro item member
  obtain rfl := List.mem_singleton.mp (show item ∈ [(firingTag ids).toJson] from member)
  refine ⟨firingTag ids, rfl, fun field member id listed => ?_⟩
  simp only [triggerFields, List.mem_cons, List.not_mem_nil, or_false] at member
  rcases member with rfl | rfl
  · obtain ⟨text, _, rfl⟩ := List.mem_map.mp (show id ∈ ids.map Json.str from listed)
    rfl
  · cases (show id ∈ [] from listed)

theorem firingTag_left (ids : List String) (triggers : List Entity) :
    firingTag ids ∈ (fired ids triggers).left false .tag := mem_left_of_single .tags rfl

/-- The first of a single group of two is kept for the second one, and what is in no group for itself. -/
theorem KeepsFirst.of_single {c : Container} {keep : String → String} (keeps : c.KeepsFirst keep)
    {first second : String}
    (single : (c.duplicates .triggers).map (fun row => row.2.map (Entity.idOf .triggers)) = [[first, second]]) :
    keep second = first ∧ ∀ id, id ≠ second → keep id = id := by
  obtain ⟨row, rows, ids⟩ := List.map_eq_singleton_iff.mp single
  obtain ⟨a, rest, shape, rfl, later⟩ := List.map_eq_cons_iff.mp ids
  obtain ⟨b, rfl, rfl⟩ := List.map_eq_singleton_iff.mp later
  have isRow : row ∈ c.duplicates .triggers := rows ▸ List.mem_cons_self
  refine ⟨keeps.grouped row isRow a [b] shape b List.mem_cons_self, fun id differs => keeps.other id ?_⟩
  rw [rows]
  intro other isOther e inside
  obtain rfl := List.mem_singleton.mp isOther
  rw [shape, List.tail_cons, List.mem_singleton] at inside
  exact inside ▸ differs.symm

/-- A tag that fires on a trigger, a copy of it and another one. -/
def copied : Container := fired ["11", "10", "12"] (clickTriggers.take 3)

/-- The copy in the list becomes the trigger that is kept, which is in the list already. -/
theorem copied_redirected : copied.DistinctIds .triggers ∧ ∃ document optimized,
    copied.optimizedDocument (copied.cleanUp false true) "7" = .ok document ∧
    Container.ofJson (.obj document) true none = .ok optimized ∧
    ∃ tag ∈ optimized.allOf .tags, tag.get "firingTriggerId" = Json.texts ["10", "12"] := by
  have distinctIds : copied.DistinctIds .triggers := (by decide : ["10", "11", "12"].Nodup)
  have single : (copied.duplicates .triggers).map (fun row => row.2.map (Entity.idOf .triggers)) =
      [["10", "11"]] := by
    decide +kernel
  obtain ⟨document, run⟩ : ∃ document, copied.optimizedDocument (copied.cleanUp false true) "7" = .ok document :=
    exists_fired_document _ _
  obtain ⟨optimized, table, keep, read, _, keeps, _, _, _, tags⟩ :=
    optimizedDocument_triggerLists distinctIds run true none
  obtain ⟨tag, present, redirects⟩ := forall₂_of_mem_left tags (firingTag_left _ _)
  obtain ⟨copy, others⟩ := keeps.of_single single
  refine ⟨distinctIds, document, optimized, run, read, tag, present, ?_⟩
  rw [(redirects "firingTriggerId" List.mem_cons_self ["11", "10", "12"] rfl).mapped, List.map_cons, List.map_cons,
    List.map_cons, copy, others "10" (by decide), others "12" (by decide)]
  rfl

def templateTrigger : Entity := ⟨[("triggerId", templateId), ("name", "All clicks"), ("type", "CLICK")]⟩

/-- A tag that fires on a trigger whose identifier is an object with a reference. -/
def templated : Container := fired [templateId.text] [templateTrigger]

/-- The tag fires on the identifier that its trigger had before the reference in it was redirected. -/
theorem templateTrigger_renamed : templated.DistinctIds .triggers ∧
    templated.NamesTrigger templateId.text ∧ templated.KeepsFirst id ∧ ∃ document optimized,
      templated.optimizedDocument (templated.cleanUp false true) "7" = .ok document ∧
      Container.ofJson (.obj document) true none = .ok optimized ∧
      (∃ tag ∈ optimized.allOf .tags, templateId.text ∈ tag.triggerIds) ∧
      ¬optimized.NamesTrigger templateId.text := by
  have read : (templated.cleanUp false true).version.map (fun v =>
      (((itemsAt v "tag").filterMap Entity.ofJson?).map Entity.triggerIds,
        ((itemsAt v "trigger").filterMap Entity.ofJson?).map (Entity.idOf .triggers))) =
      .ok ([[templateId.text]], ["\x7b'type': 'TEMPLATE', 'value': '\x7b\x7bOrder ID\x7d\x7d'\x7d"]) := by
    decide +kernel
  have looked : templated.entitiesOf .triggers = [templateTrigger] := rfl
  have keeps : templated.KeepsFirst id := by
    refine ⟨fun row isRow => ?_, fun _ _ => rfl⟩
    rw [duplicates_of_single looked] at isRow
    cases isRow
  obtain ⟨document, run⟩ :
      ∃ document, templated.optimizedDocument (templated.cleanUp false true) "7" = .ok document :=
    exists_fired_document _ _
  obtain ⟨v, version, optimized, reread, items⟩ := optimizedDocument_read run
  rw [version] at read
  obtain ⟨tags, triggers⟩ := Prod.mk.inj (Except.ok.inj read)
  refine ⟨List.nodup_singleton _, ⟨templateTrigger, List.mem_cons_self, rfl⟩, keeps, document, optimized, run, reread,
    ?_, ?_⟩
  · have lists : (optimized.allOf .tags).map Entity.triggerIds = [[templateId.text]] := by
      rw [allOf, items .tags]
      exact tags
    obtain ⟨tag, single, ids⟩ := List.map_eq_singleton_iff.mp lists
    exact ⟨tag, single ▸ List.mem_cons_self, ids ▸ List.mem_cons_self⟩
  · have ids : (optimized.allOf .triggers).map (Entity.idOf .triggers) =
        ["\x7b'type': 'TEMPLATE', 'value': '\x7b\x7bOrder ID\x7d\x7d'\x7d"] := by
      rw [allOf, items .triggers]
      exact triggers
    rintro ⟨t, present, same⟩
    have found : templateId.text ∈ (optimized.allOf .triggers).map (Entity.idOf .triggers) :=
      List.mem_map.mpr ⟨t, present, same⟩
    rw [ids] at found
    exact absurd found (by decide +kernel)

end Container

end TagAudit

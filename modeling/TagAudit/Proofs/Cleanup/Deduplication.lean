import Mathlib.Data.List.Induction
import TagAudit.Proofs.Cleanup.Redirection
import TagAudit.Proofs.Cleanup.Repetition

namespace TagAudit

namespace Cleanup

theorem remove_items (c : Cleanup) (kind : Comparable) (ids : List String) (reason : Reason) :
    (c.remove kind ids reason).items kind = (c.items kind).filter fun item => !isNamed kind ids item := by
  unfold remove items
  dsimp only
  split
  · rw [Json.lookup_assign_self]
    rfl
  · rename_i absent
    rw [Option.not_isSome_iff_eq_none.mp absent]
    rfl

theorem remove_lookup_of_ne (c : Cleanup) {kind : Comparable} {key : String} (ne : key ≠ kind.key)
    (ids : List String) (reason : Reason) :
    Json.lookup (c.remove kind ids reason).version key = Json.lookup c.version key := by
  unfold remove
  dsimp only
  split
  · exact Json.lookup_assign_of_ne ne _ _
  · rfl

theorem remove_items_of_ne (c : Cleanup) {kind other : Comparable} (ne : other ≠ kind) (ids : List String)
    (reason : Reason) : (c.remove kind ids reason).items other = c.items other := by
  rw [items, remove_lookup_of_ne c fun same => ne (Comparable.key_injective same), items]

theorem pairs_congr {cleanup other : Cleanup} {kind : Comparable} (container : Container)
    (same : cleanup.items kind = other.items kind) : cleanup.pairs container kind = other.pairs container kind := by
  rw [Cleanup.pairs, Cleanup.entities, same, Cleanup.pairs, Cleanup.entities]

theorem removeDuplicates_items_of_ne (container : Container) (cleanup : Cleanup) {kind other : Comparable}
    (ne : other ≠ kind) : (cleanup.removeDuplicates container kind).items other = cleanup.items other :=
  remove_items_of_ne _ ne _ _

theorem removeDuplicates_items_congr {cleanup other : Cleanup} {kind : Comparable} (container : Container)
    (same : cleanup.items kind = other.items kind) :
    (cleanup.removeDuplicates container kind).items kind = (other.removeDuplicates container kind).items kind := by
  rw [removeDuplicates, remove_items, pairs_congr container same, same, removeDuplicates, remove_items]

/-- Removes the duplicates of every kind. -/
def removeAllDuplicates (cleanup : Cleanup) (container : Container) : Cleanup :=
  Comparable.all.foldl (fun cleanup kind => cleanup.removeDuplicates container kind) cleanup

theorem removeAllDuplicates_items (cleanup : Cleanup) (container : Container) (kind : Comparable) :
    (cleanup.removeAllDuplicates container).items kind = (cleanup.removeDuplicates container kind).items kind := by
  simp only [removeAllDuplicates, Comparable.all, List.foldl_cons, List.foldl_nil]
  cases kind with
  | tags => rw [removeDuplicates_items_of_ne _ _ (by decide), removeDuplicates_items_of_ne _ _ (by decide)]
  | triggers =>
    rw [removeDuplicates_items_of_ne _ _ (by decide)]
    exact removeDuplicates_items_congr _ (removeDuplicates_items_of_ne _ _ (by decide))
  | userVariables =>
    exact removeDuplicates_items_congr _ ((removeDuplicates_items_of_ne _ _ (by decide)).trans
      (removeDuplicates_items_of_ne _ _ (by decide)))

theorem removeAllDuplicates_lookup_of_ne (cleanup : Cleanup) (container : Container) {key : String}
    (other : ∀ kind : Comparable, key ≠ kind.key) :
    Json.lookup (cleanup.removeAllDuplicates container).version key = Json.lookup cleanup.version key := by
  simp only [removeAllDuplicates, Comparable.all, List.foldl_cons, List.foldl_nil, removeDuplicates]
  rw [remove_lookup_of_ne _ (other _), remove_lookup_of_ne _ (other _), remove_lookup_of_ne _ (other _)]

end Cleanup

namespace Container

open Cleanup

/-- The pairs of an entity that is kept and a duplicate of it. -/
def pairs (c : Container) (kind : Comparable) : List Pair :=
  (c.duplicates kind).flatMap fun (_, group) => pairsOf group

/-- The duplicates that are removed. -/
def repeated (c : Container) (kind : Comparable) : List Entity :=
  (c.allOf kind).filter fun e => (c.repeatedIds kind).contains (e.idOf kind)

/-- The entries of an array that are not removed as duplicates. -/
def unrepeated (c : Container) (kind : Comparable) : List Json :=
  (c.get kind.key).items.filter fun item => !isNamed kind (c.repeatedIds kind) item

theorem map_duplicate_pairsOf (group : List Entity) : (pairsOf group).map (·.duplicate) = group.tail := by
  cases group with
  | nil => rfl
  | cons keep rest => simp [pairsOf, Function.comp_def]

theorem pairs_ids (c : Container) (kind : Comparable) :
    (c.pairs kind).map (fun p => p.duplicate.idOf kind) = c.repeatedIds kind := by
  unfold pairs repeatedIds
  rw [List.map_flatMap]
  refine List.flatMap_congr fun row _ => ?_
  obtain ⟨_, group⟩ := row
  dsimp only
  rw [← map_duplicate_pairsOf, List.map_map]
  rfl

theorem pairs_of_untouched {c : Container} {cleanup : Cleanup} {kind : Comparable}
    (untouched : cleanup.items kind = (c.get kind.key).items) : cleanup.pairs c kind = c.pairs kind := by
  have whole : cleanup.entities kind = c.allOf kind := by
    rw [Cleanup.entities, untouched, allOf]
  unfold Cleanup.pairs pairs
  rw [whole]
  refine List.flatMap_congr fun row member => ?_
  obtain ⟨signature, members⟩ := row
  obtain ⟨_, rfl⟩ := mem_groupBy.mp (List.mem_filter.mp member).1
  -- All entities of the group are still there, so none is left out of the comparison.
  refine congrArg pairsOf (List.filter_eq_self.mpr fun e inGroup => ?_)
  have present := (c.entitiesOf_sublist kind).subset (List.mem_filter.mp inGroup).1
  exact List.contains_iff_mem.mpr (List.mem_map_of_mem present)

theorem removeDuplicates_items {c : Container} {cleanup : Cleanup} {kind : Comparable}
    (untouched : cleanup.items kind = (c.get kind.key).items) :
    (cleanup.removeDuplicates c kind).items kind = c.unrepeated kind := by
  rw [removeDuplicates, remove_items, pairs_of_untouched untouched, pairs_ids, untouched, unrepeated]

/-- What is logged about the duplicates of a kind. -/
def repeatedChanges (c : Container) (kind : Comparable) : List Change :=
  (c.repeated kind).map fun e => ⟨kind, e.rawName, .duplicate⟩

theorem removeDuplicates_changes {c : Container} {cleanup : Cleanup} {kind : Comparable}
    (untouched : cleanup.items kind = (c.get kind.key).items) :
    (cleanup.removeDuplicates c kind).changes = cleanup.changes ++ c.repeatedChanges kind := by
  rw [removeDuplicates, pairs_of_untouched untouched, pairs_ids]
  unfold remove
  dsimp only
  rw [Cleanup.entities, untouched, repeatedChanges, repeated, allOf]

/-- The cleanup of a container from which the duplicates of some kinds are removed, kind by kind. -/
def withoutDuplicates (c : Container) (kinds : List Comparable) : Cleanup :=
  kinds.foldl (fun cleanup kind => cleanup.removeDuplicates c kind) ⟨c.version, []⟩

theorem withoutDuplicates_concat (c : Container) (kinds : List Comparable) (kind : Comparable) :
    c.withoutDuplicates (kinds ++ [kind]) = (c.withoutDuplicates kinds).removeDuplicates c kind := by
  rw [withoutDuplicates, List.foldl_append]
  rfl

theorem withoutDuplicates_items (c : Container) {kinds : List Comparable} (nodup : kinds.Nodup)
    (kind : Comparable) : (c.withoutDuplicates kinds).items kind =
      if kind ∈ kinds then c.unrepeated kind else (c.get kind.key).items := by
  induction kinds using List.reverseRecOn with
  | nil => rfl
  | append_singleton before last ih =>
    rw [← List.concat_eq_append, List.nodup_concat] at nodup
    rw [withoutDuplicates_concat]
    by_cases same : kind = last
    · subst same
      have untouched := ih nodup.2
      rw [if_neg nodup.1] at untouched
      rw [removeDuplicates_items untouched, if_pos (List.mem_append_right _ List.mem_cons_self)]
    · rw [removeDuplicates_items_of_ne c _ same, ih nodup.2]
      simp only [List.mem_append, List.mem_singleton, same, or_false]

theorem withoutDuplicates_changes (c : Container) {kinds : List Comparable} (nodup : kinds.Nodup) :
    (c.withoutDuplicates kinds).changes = kinds.flatMap c.repeatedChanges := by
  induction kinds using List.reverseRecOn with
  | nil => rfl
  | append_singleton before last ih =>
    rw [← List.concat_eq_append, List.nodup_concat] at nodup
    have untouched := c.withoutDuplicates_items nodup.2 last
    rw [if_neg nodup.1] at untouched
    rw [withoutDuplicates_concat, removeDuplicates_changes untouched, ih nodup.2, List.flatMap_append,
      List.flatMap_singleton]

/-- The pairs of a kind are looked for after the duplicates of the kinds before it are gone, which makes no
difference to them. -/
theorem deduplicate_eq (c : Container) (start : Cleanup) : c.deduplicate start =
    match variableRenames (start.pairs c .userVariables) with
    | .error f => ⟨((start.removeDuplicates c .tags).removeDuplicates c .triggers).changes, .error f⟩
    | .ok renamed => ⟨(start.removeAllDuplicates c).changes,
        redirect (start.removeAllDuplicates c).version (triggerRenames (start.pairs c .triggers)) renamed⟩ := by
  have triggerPairs : (start.removeDuplicates c .tags).pairs c .triggers = start.pairs c .triggers :=
    pairs_congr c (removeDuplicates_items_of_ne c start (by decide))
  have variablePairs : ((start.removeDuplicates c .tags).removeDuplicates c .triggers).pairs c .userVariables =
      start.pairs c .userVariables :=
    pairs_congr c ((removeDuplicates_items_of_ne c _ (by decide)).trans
      (removeDuplicates_items_of_ne c start (by decide)))
  unfold deduplicate
  dsimp only
  rw [variablePairs, triggerPairs]
  rfl

theorem deduplicate_of_ok {c : Container} {start : Cleanup} {v : List (String × Json)}
    (run : (c.deduplicate start).version = .ok v) : ∃ renamed,
      variableRenames (start.pairs c .userVariables) = .ok renamed ∧
      (c.deduplicate start).changes = (start.removeAllDuplicates c).changes ∧
      redirect (start.removeAllDuplicates c).version (triggerRenames (start.pairs c .triggers)) renamed = .ok v := by
  rw [deduplicate_eq] at run ⊢
  cases renamed : variableRenames (start.pairs c .userVariables) with
  | error f =>
    rw [renamed] at run
    cases run
  | ok names =>
    rw [renamed] at run
    exact ⟨names, rfl, rfl, run⟩

/-- A run that removes duplicates only: it logs the duplicates of every kind, and keeps everything else,
with references redirected to what is kept. -/
theorem cleanUp_duplicates {c : Container} {v : List (String × Json)}
    (run : (c.cleanUp false true).version = .ok v) :
    (c.cleanUp false true).changes = Comparable.all.flatMap c.repeatedChanges ∧
    ∃ renamed written, variableRenames (c.pairs .userVariables) = .ok renamed ∧
      writtenRenames renamed = .ok written ∧ ∀ kind : Comparable,
        List.Forall₂ (fun old new =>
          redirectItem (triggerRenames (c.pairs .triggers)) (renameTable written) kind old = .ok new)
          (c.unrepeated kind) (itemsAt v kind.key) := by
  have whole : c.cleanUp false true = c.deduplicate (c.withoutDuplicates []) := by
    simp only [cleanUp, Bool.false_eq_true, if_false, if_true, withoutDuplicates, List.foldl_nil]
  rw [whole] at run ⊢
  obtain ⟨renames, renamed, log, redirected⟩ := deduplicate_of_ok run
  rw [pairs_of_untouched rfl] at renamed redirected
  obtain ⟨written, texts, items⟩ := redirect_items redirected
  refine ⟨log.trans (c.withoutDuplicates_changes (by decide)), renames, written, renamed, texts, fun kind => ?_⟩
  have left : itemsAt ((c.withoutDuplicates []).removeAllDuplicates c).version kind.key = c.unrepeated kind :=
    (removeAllDuplicates_items _ c kind).trans (removeDuplicates_items rfl)
  exact left ▸ items kind

end Container

end TagAudit

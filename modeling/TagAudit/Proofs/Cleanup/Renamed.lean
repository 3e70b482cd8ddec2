import TagAudit.Proofs.Cleanup.Success

namespace TagAudit

namespace Cleanup

/-- An entity refers to the removed variable of a pair with blanks around its name. -/
def Pair.Padded (p : Pair) (kind : Kind) (e : Entity) : Prop :=
  ∃ name ∈ e.written kind, Text.trim name = p.duplicate.name.toList ∧ Text.trim name ≠ name

section

variable {pairs : List Pair} (coherent : Coherent Entity.name pairs) (named : Named pairs)
  {triggers : List (String × String)} {kind : Kind} {old new : Entity}
  (redirected : Redirected triggers (tableOf pairs) kind old new)
  (plain : ∀ name ∈ old.written kind, ¬ Text.Nested name)
include coherent named redirected plain

theorem Redirected.references : new.references kind =
    distinct (Text.cleaned ((old.written kind).map (tableOf pairs).apply)) := by
  rw [Entity.references_eq_written, redirected.written (tableOf_proper coherent named) plain]

/-- Of the references to a removed variable those with blanks around the name are left. -/
theorem Redirected.mem_references_iff {p : Pair} (member : p ∈ pairs) :
    p.duplicate.name ∈ new.references kind ↔ p.Padded kind old := by
  have renamed : p.duplicate.name.toList ∈ (tableOf pairs).map (·.1) := mem_keys_tableOf.mpr ⟨p, member, rfl⟩
  have found : String.ofList p.duplicate.name.toList ∈ Text.cleaned ((old.written kind).map (tableOf pairs).apply) ↔
      ∃ name ∈ old.written kind, Text.trim name = p.duplicate.name.toList ∧ (tableOf pairs).Misses name :=
    (tableOf_proper coherent named).mem_cleaned_apply_iff renamed
  rw [String.ofList_toList] at found
  rw [redirected.references coherent named plain, mem_distinct, found]
  constructor
  · rintro ⟨name, inside, same, _, padded⟩
    exact ⟨name, inside, same, padded⟩
  · rintro ⟨name, inside, same, padded⟩
    exact ⟨name, inside, same, same ▸ renamed, padded⟩

/-- The references of an entity become those to what is kept, if none is written with blanks around it. -/
theorem Redirected.references_eq_iff : new.references kind =
    distinct ((old.references kind).map (kept Entity.name pairs)) ↔ ∀ p ∈ pairs, ¬ p.Padded kind old := by
  constructor
  · intro same p member padded
    have still := (redirected.mem_references_iff coherent named plain member).mpr padded
    rw [same, mem_distinct] at still
    obtain ⟨name, _, kept⟩ := List.mem_map.mp still
    exact coherent.kept_ne member name kept
  · intro exact
    have hit : ∀ name ∈ old.written kind, ¬ (tableOf pairs).Misses name := by
      rintro name inside ⟨removed, padded⟩
      obtain ⟨p, member, same⟩ := mem_keys_tableOf.mp removed
      exact exact p member ⟨name, inside, same.symm, padded⟩
    rw [redirected.references coherent named plain, (tableOf_proper coherent named).cleaned_apply hit,
      Entity.references_eq_written, distinct_map_distinct]
    exact congrArg (fun f => distinct ((Text.cleaned (old.written kind)).map f))
      (funext (tableOf_apply coherent named))

end

end Cleanup

namespace Container

open Cleanup

/-- Where names can be names of references, the table of renames is that of the pairs. -/
theorem optimizedDocument_named {c : Container} {withoutUnused : Bool} {stamp : String}
    {document : List (String × Json)} (named : Named ((c.base withoutUnused).pairs c .userVariables))
    (run : c.optimizedDocument (c.cleanUp withoutUnused true) stamp = .ok document) (includePaused : Bool)
    (source : Option String) : ∃ optimized,
      Container.ofJson (.obj document) includePaused source = .ok optimized ∧
      optimized.includePaused = includePaused ∧ ∀ kind : Kind,
        List.Forall₂ (Redirected (triggerRenames ((c.base withoutUnused).pairs c .triggers))
          (tableOf ((c.base withoutUnused).pairs c .userVariables)) kind)
          (c.left withoutUnused kind) (optimized.objects kind.label) := by
  obtain ⟨renamed, written, optimized, names, texts, read, sameFlag, left⟩ :=
    optimizedDocument_redirected run includePaused source
  rw [variableRenames_named named] at names
  obtain rfl := Except.ok.inj names
  rw [writtenRenames_eq] at texts
  obtain rfl := Except.ok.inj texts
  exact ⟨optimized, read, sameFlag, left⟩

theorem base_pairs (c : Container) (kind : Comparable) : (c.base false).pairs c kind = c.pairs kind :=
  pairs_of_untouched rfl

/-- When duplicates are removed and nothing else, the tags, triggers and variables that are left are those
without the identifier of a removed one. -/
theorem mem_left_iff_survives (c : Container) (kind : Comparable) {e : Entity} :
    e ∈ c.left false kind.asKind ↔ c.Survives kind e := by
  rw [mem_left, base_pairs, pairs_ids, survives_iff]
  rfl

theorem duplicates_of_single {c : Container} {kind : Comparable} {e : Entity} (looked : c.entitiesOf kind = [e]) :
    c.duplicates kind = [] := by
  simp [duplicates, looked, groupBy, distinct]

/-- A single entity of a kind is left. -/
theorem mem_left_of_single {c : Container} (kind : Comparable) {e : Entity} (looked : c.entitiesOf kind = [e]) :
    e ∈ c.left false kind.asKind := by
  have known : e ∈ c.allOf kind := (c.entitiesOf_sublist kind).subset (looked ▸ List.mem_cons_self)
  have unrepeated : c.repeatedIds kind = [] := by
    rw [repeatedIds, duplicates_of_single looked]
    rfl
  refine (mem_left_iff_survives c kind).mpr (survives_iff.mpr ⟨known, ?_⟩)
  rw [unrepeated]
  exact List.not_mem_nil

/-- What removing duplicates does to references to variables. An entity refers to the variables that are
kept in place of the removed ones exactly if it writes no reference to a removed one with blanks around the
name; each of those is left as it is. -/
theorem optimizedDocument_renames {c : Container} {stamp : String} {document : List (String × Json)}
    (distinctNames : ((c.allOf .userVariables).map Entity.name).Nodup) (named : Named (c.pairs .userVariables))
    (run : c.optimizedDocument (c.cleanUp false true) stamp = .ok document) (includePaused : Bool)
    (source : Option String) : ∃ optimized,
      Container.ofJson (.obj document) includePaused source = .ok optimized ∧
      (∀ kind e, e ∈ c.left false (Comparable.asKind kind) ↔ c.Survives kind e) ∧
      c.left false .client = c.objects "client" ∧ ∀ kind : Kind,
        List.Forall₂ (fun old new => (∀ name ∈ old.written kind, ¬ Text.Nested name) →
          (new.references kind =
              distinct ((old.references kind).map (kept Entity.name (c.pairs .userVariables))) ↔
            ∀ p ∈ c.pairs .userVariables, ¬ p.Padded kind old) ∧
          ∀ p ∈ c.pairs .userVariables, p.duplicate.name ∈ new.references kind ↔ p.Padded kind old)
          (c.left false kind) (optimized.objects kind.label) := by
  rw [← c.base_pairs .userVariables] at named ⊢
  obtain ⟨optimized, read, _, left⟩ := optimizedDocument_named named run includePaused source
  have coherent := coherent_pairs distinctNames (c.base false)
  refine ⟨optimized, read, fun kind _ => c.mem_left_iff_survives kind, c.left_clients false, fun kind =>
    (left kind).imp fun old new redirected plain => ⟨?_, fun p member => ?_⟩⟩
  · exact Redirected.references_eq_iff coherent named redirected plain
  · exact Redirected.mem_references_iff coherent named redirected plain member

def orderTag (html : String) : Entity :=
  ⟨[("tagId", "1"), ("name", "Purchase"), ("type", "html"),
    ("parameter", .arr [.obj [("type", "TEMPLATE"), ("key", "html"), ("value", .str html)]])]⟩

def orderVariable (id name : String) : Entity :=
  ⟨[("variableId", .str id), ("name", .str name), ("type", "v"),
    ("parameter", .arr [.obj [("type", "TEMPLATE"), ("key", "name"), ("value", "orderId")]])]⟩

def orderVersion (html : String) : List (String × Json) :=
  [("tag", .arr [(orderTag html).toJson]),
    ("variable", .arr [(orderVariable "1" "Order ID").toJson, (orderVariable "2" "Order").toJson])]

/-- A container with a tag and two variables, of which the second is a copy of the first. -/
def ofOrder (html : String) : Container :=
  ⟨[("containerVersion", .obj (orderVersion html))], orderVersion html, true, none, rfl⟩

theorem ofOrder_pairs (html : String) : (ofOrder html).pairs .userVariables =
    [⟨orderVariable "1" "Order ID", orderVariable "2" "Order"⟩] := by
  have alike : Comparable.userVariables.signature (orderVariable "2" "Order") =
      Comparable.userVariables.signature (orderVariable "1" "Order ID") := rfl
  have looked : (ofOrder html).entitiesOf .userVariables =
      [orderVariable "1" "Order ID", orderVariable "2" "Order"] := rfl
  simp [pairs, duplicates, looked, groupBy, distinct, alike, pairsOf]

theorem ofOrder_named (html : String) : Named ((ofOrder html).pairs .userVariables) := by
  rw [ofOrder_pairs]
  intro p member
  obtain rfl := List.mem_singleton.mp member
  exact ⟨by decide +kernel, by decide +kernel⟩

theorem ofOrder_names (html : String) : (((ofOrder html).allOf .userVariables).map Entity.name).Nodup := by
  have names : ((ofOrder html).allOf .userVariables).map Entity.name = ["Order ID", "Order"] := rfl
  rw [names]
  decide

theorem ofOrder_distinct (html : String) (kind : Comparable) : (ofOrder html).DistinctIds kind := by
  cases kind with
  | tags => exact (by decide : ["1"].Nodup)
  | triggers => exact List.nodup_nil
  | userVariables => exact (by decide : ["1", "2"].Nodup)

theorem orderVariable_name {v : Entity} (member : v ∈ [orderVariable "1" "Order ID", orderVariable "2" "Order"]) :
    v.get "name" = .str v.name := by
  rcases List.mem_cons.mp member with rfl | second
  · rfl
  · obtain rfl := List.mem_singleton.mp second
    rfl

theorem exists_ofOrder_document (html : String) :
    ∃ document, (ofOrder html).optimizedDocument ((ofOrder html).cleanUp false true) "7" = .ok document := by
  refine exists_optimizedDocument _ _ _ ?_ fun v member => orderVariable_name member
  intro item member
  obtain rfl := List.mem_singleton.mp (show item ∈ [(orderTag html).toJson] from member)
  exact ⟨orderTag html, rfl, by simp [triggerFields, orderTag, Entity.get, Entity.get?, Json.lookup, Json.items]⟩

theorem orderTag_left (html : String) : orderTag html ∈ (ofOrder html).left false .tag :=
  mem_left_of_single .tags rfl

def exactOrder : Container := ofOrder "\x7b\x7bOrder\x7d\x7d"

/-- A reference to the removed variable becomes one to the variable that is kept. -/
theorem exactOrder_renamed : ((exactOrder.allOf .userVariables).map Entity.name).Nodup ∧
    Named (exactOrder.pairs .userVariables) ∧ ∃ document optimized,
      exactOrder.optimizedDocument (exactOrder.cleanUp false true) "7" = .ok document ∧
      Container.ofJson (.obj document) true none = .ok optimized ∧
      ∃ tag ∈ optimized.objects "tag", tag.references .tag = ["Order ID"] := by
  obtain ⟨document, run⟩ := exists_ofOrder_document "\x7b\x7bOrder\x7d\x7d"
  have names : ((exactOrder.allOf .userVariables).map Entity.name).Nodup := ofOrder_names _
  have named : Named (exactOrder.pairs .userVariables) := ofOrder_named _
  obtain ⟨optimized, read, _, _, redirected⟩ := optimizedDocument_renames names named run true none
  obtain ⟨tag, present, renames⟩ := forall₂_of_mem_left (redirected .tag) (orderTag_left _)
  have written : (orderTag "\x7b\x7bOrder\x7d\x7d").written .tag = [['O', 'r', 'd', 'e', 'r']] := by decide +kernel
  obtain ⟨renamed, _⟩ := renames (by rw [written]; decide)
  have exact : ∀ p ∈ exactOrder.pairs .userVariables, ¬ p.Padded .tag (orderTag "\x7b\x7bOrder\x7d\x7d") := by
    rintro p _ ⟨name, inside, _, padded⟩
    rw [written, List.mem_singleton] at inside
    subst inside
    exact absurd (by decide +kernel) padded
  refine ⟨names, named, document, optimized, run, read, tag, present, ?_⟩
  rw [renamed.mpr exact, exactOrder, ofOrder_pairs]
  decide +kernel

def paddedOrder : Container := ofOrder "\x7b\x7b Order \x7d\x7d"

/-- A reference with blanks around the name is left as it is, and the variable is gone. -/
theorem paddedOrder_dangles : (∀ kind, paddedOrder.DistinctIds kind) ∧
    ((paddedOrder.allOf .userVariables).map Entity.name).Nodup ∧ ∃ document optimized,
      paddedOrder.optimizedDocument (paddedOrder.cleanUp false true) "7" = .ok document ∧
      Container.ofJson (.obj document) true none = .ok optimized ∧
      (∃ tag ∈ optimized.objects "tag", "Order" ∈ tag.references .tag) ∧ ¬ optimized.NamesVariable "Order" := by
  obtain ⟨document, run⟩ := exists_ofOrder_document "\x7b\x7b Order \x7d\x7d"
  have names : ((paddedOrder.allOf .userVariables).map Entity.name).Nodup := ofOrder_names _
  have pairs : (paddedOrder.base false).pairs paddedOrder .userVariables = paddedOrder.pairs .userVariables :=
    base_pairs _ _
  have named : Named ((paddedOrder.base false).pairs paddedOrder .userVariables) := pairs ▸ ofOrder_named _
  have coherent := coherent_pairs names (paddedOrder.base false)
  obtain ⟨optimized, read, _, redirected⟩ := optimizedDocument_named named run true none
  have removed : ⟨orderVariable "1" "Order ID", orderVariable "2" "Order"⟩ ∈
      (paddedOrder.base false).pairs paddedOrder .userVariables :=
    (pairs.trans (ofOrder_pairs _)) ▸ List.mem_cons_self
  refine ⟨ofOrder_distinct _, names, document, optimized, run, read, ?_, ?_⟩
  · obtain ⟨tag, present, renames⟩ := forall₂_of_mem_left (redirected .tag) (orderTag_left _)
    have written : (orderTag "\x7b\x7b Order \x7d\x7d").written .tag = [[' ', 'O', 'r', 'd', 'e', 'r', ' ']] := by
      decide +kernel
    refine ⟨tag, present, (renames.mem_references_iff coherent named (by rw [written]; decide) removed).mpr ?_⟩
    exact ⟨_, written ▸ List.mem_cons_self, by decide +kernel, by decide +kernel⟩
  · rintro ⟨v, present, name⟩
    obtain ⟨old, left, renames⟩ := forall₂_of_mem_right (redirected .variable) present
    obtain ⟨inside, unrepeated⟩ := survives_iff.mp ((mem_left_iff_survives _ .userVariables).mp left)
    have same : old.name = "Order" := renames.name.symm.trans (Entity.name_of_get name)
    have either : old ∈ [orderVariable "1" "Order ID", orderVariable "2" "Order"] := inside
    rw [← pairs_ids, paddedOrder, ofOrder_pairs] at unrepeated
    rcases List.mem_cons.mp either with rfl | second
    · exact absurd same (by decide)
    · obtain rfl := List.mem_singleton.mp second
      exact unrepeated List.mem_cons_self

end Container

end TagAudit

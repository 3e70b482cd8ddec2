import TagAudit.Server.Event

namespace TagAudit

/-- A trigger is looked up by an identifier that is not null. -/
def Entity.HasTriggerId (t : Entity) (id : String) : Prop :=
  (t.get "triggerId").isNull = false ∧ t.id "triggerId" = id

/-- An object with a field that is not null is not empty. -/
theorem Entity.toJson_holds {e : Entity} {key : String} (present : (e.get key).isNull = false) :
    e.toJson.holds = true := by
  obtain ⟨fields⟩ := e
  cases fields with
  | nil => cases present
  | cons => rfl

namespace Container

variable {c : Container} {id : String} {trigger : Entity}

/-- What an identifier in the firing list of a tag stands for. Of several triggers with one identifier the last one is
meant. -/
inductive Fires (c : Container) : String → Entity → Prop
  | onAllPages : Fires c allPagesId allPagesTrigger
  | own {id : String} {trigger : Entity} {earlier later : List Entity} (other : id ≠ allPagesId)
      (listed : c.triggers = earlier ++ trigger :: later) (identified : trigger.HasTriggerId id)
      (last : ∀ t ∈ later, ¬t.HasTriggerId id) : Fires c id trigger

/-- Goes through a firing list, whose identifiers may have any type, until one of them stands for all pages or a
trigger that is no empty object is found for it. -/
def walk (c : Container) : List Json → Option Entity
  | [] => none
  | id :: rest =>
    if id.text = allPagesId then some allPagesTrigger
    else
      match c.triggerById id.text with
      | some trigger => if trigger.toJson.holds then some trigger else c.walk rest
      | none => c.walk rest

theorem triggerById_eq_some_iff : c.triggerById id = some trigger ↔ trigger.HasTriggerId id ∧
    ∃ earlier later, c.triggers = earlier ++ trigger :: later ∧ ∀ t ∈ later, ¬t.HasTriggerId id := by
  have identified (t : Entity) :
      (!(t.get "triggerId").isNull && t.id "triggerId" == id) = true ↔ t.HasTriggerId id := by
    rw [Bool.and_eq_true, Bool.not_eq_true', beq_iff_eq, Entity.HasTriggerId]
  rw [triggerById, findById, List.find?_eq_some_iff_append, identified]
  refine and_congr_right fun _ => ?_
  simp only [Bool.not_eq_true', ← Bool.not_eq_true, identified]
  -- The search goes from the end, so what is behind the trigger in it stands before the trigger in the list.
  constructor
  · rintro ⟨later, earlier, reversed, others⟩
    refine ⟨earlier.reverse, later.reverse, ?_, fun t member => others t (List.mem_reverse.mp member)⟩
    rw [← List.reverse_reverse c.triggers, reversed]
    simp
  · rintro ⟨earlier, later, listed, others⟩
    refine ⟨later.reverse, earlier.reverse, ?_, fun t member => others t (List.mem_reverse.mp member)⟩
    rw [listed]
    simp

theorem firingTrigger?_eq_some_iff : c.firingTrigger? id = some trigger ↔ c.Fires id trigger := by
  by_cases all : id = allPagesId
  · subst all
    rw [firingTrigger?, if_pos (beq_self_eq_true _), Option.some_inj]
    constructor
    · rintro rfl
      exact .onAllPages
    · intro fires
      cases fires with
      | onAllPages => rfl
      | own other => exact absurd rfl other
  · rw [firingTrigger?, if_neg (by simpa using all), triggerById_eq_some_iff]
    constructor
    · rintro ⟨identified, earlier, later, listed, last⟩
      exact .own all listed identified last
    · intro fires
      cases fires with
      | onAllPages => exact absurd rfl all
      | own _ listed identified last => exact ⟨identified, _, _, listed, last⟩

/-- An identifier fires a tag exactly if it counts as the one of a trigger when tags without any are looked for. -/
theorem isSome_firingTrigger? (c : Container) (id : String) : (c.firingTrigger? id).isSome = c.isTriggerId id := by
  unfold firingTrigger? isTriggerId
  cases id == allPagesId with
  | true => rfl
  | false => rfl

theorem firingTrigger?_eq_none_iff : c.firingTrigger? id = none ↔
    id ≠ allPagesId ∧ ∀ t ∈ c.triggers, ¬t.HasTriggerId id := by
  rw [← Option.not_isSome_iff_eq_none, isSome_firingTrigger?, isTriggerId_iff, not_or, not_exists]
  simp only [not_and, Entity.HasTriggerId, ne_eq]

/-- A trigger that is found has an identifier, so it never counts as missing. -/
theorem walk_eq_findSome? (c : Container) (ids : List Json) :
    c.walk ids = (ids.map Json.text).findSome? c.firingTrigger? := by
  induction ids with
  | nil => rfl
  | cons id rest ih =>
    rw [walk, List.map_cons, List.findSome?_cons, firingTrigger?]
    by_cases all : id.text = allPagesId
    · rw [if_pos all, if_pos (beq_iff_eq.mpr all)]
    · rw [if_neg all, if_neg (by simpa using all)]
      cases found : c.triggerById id.text with
      | none => exact ih
      | some trigger =>
        have holds := Entity.toJson_holds (triggerById_eq_some_iff.mp found).1.1
        dsimp only
        rw [if_pos holds]

/-- A tag without trigger is one whose identifiers all fire nothing. -/
theorem firstTrigger?_isSome (c : Container) (tag : Entity) :
    (c.firstTrigger? tag).isSome = tag.firingIds.any c.isTriggerId := by
  rw [firstTrigger?, List.isSome_findSome?]
  exact congrArg (List.any tag.firingIds) (funext c.isSome_firingTrigger?)

/-- The unused tags are those for which no trigger is found. The trigger that is found for a tag belongs to the first
identifier of its firing list that is the one of all pages or that of a trigger of the container. -/
theorem unusedTags_eq_unfired (c : Container) :
    c.unusedTags = c.tags.filter (fun tag => (c.firstTrigger? tag).isNone) ∧
    ∀ tag, c.firstTrigger? tag = c.walk (tag.get "firingTriggerId").items ∧
      ∀ trigger, c.firstTrigger? tag = some trigger ↔ ∃ before id behind, tag.firingIds = before ++ id :: behind ∧
        c.Fires id trigger ∧ ∀ other ∈ before, other ≠ allPagesId ∧ ∀ t ∈ c.triggers, ¬t.HasTriggerId other := by
  refine ⟨List.filter_congr fun tag _ => ?_, fun tag => ⟨(c.walk_eq_findSome? _).symm, fun trigger => ?_⟩⟩
  · rw [← c.firstTrigger?_isSome, Option.not_isSome]
  · rw [firstTrigger?, List.findSome?_eq_some_iff]
    simp only [firingTrigger?_eq_some_iff, firingTrigger?_eq_none_iff]

/-- A trigger without identifier, and two triggers with the same one, written as a number and as a text. -/
def reissued : Container :=
  let version := [("trigger", Json.arr [.obj [("triggerId", .null), ("name", "None")],
    .obj [("triggerId", .int 7), ("name", "first")], .obj [("triggerId", "7"), ("name", "second")]])]
  ⟨[("containerVersion", .obj version)], version, true, none, rfl⟩

example : (reissued.firstTrigger? ⟨[("firingTriggerId", .arr [.null, .int 8, .int 7])]⟩).map Entity.name =
    some "second" := by decide

end Container

end TagAudit

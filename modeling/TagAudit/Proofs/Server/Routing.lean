import TagAudit.Proofs.Server.Frame

namespace TagAudit.Server.Draft

/-- The trigger that is registered for a key is a trigger on this event of this client. -/
def Routes (d : Draft) (key : String) (event : Option String) (client : String) : Prop :=
  ∃ t ∈ d.triggers, d.triggerFor? key = some t.id ∧ t.event = event ∧ t.client = client

theorem Routes.isSome {d : Draft} {key client : String} {event : Option String}
    (routed : d.Routes key event client) : (d.triggerFor? key).isSome = true := by
  obtain ⟨t, _, found, _⟩ := routed
  simp [found]

theorem TagsOnly.routes_iff {d e : Draft} (same : TagsOnly d e) {key client : String}
    {event : Option String} : e.Routes key event client ↔ d.Routes key event client := by
  obtain ⟨_, _, _, _, _, rfl⟩ := same
  exact Iff.rfl

theorem addTrigger_routes (d : Draft) (key name : String) (event : Option String) (client : String) :
    (d.addTrigger key name event client).Routes key event client :=
  ⟨⟨d.counters.trigger + 1, name, event, client⟩, List.mem_append_right _ List.mem_cons_self,
    lookup_put_self _ _ _, rfl, rfl⟩

theorem Routes.addTrigger {d : Draft} {key client : String} {event : Option String}
    (routed : d.Routes key event client) {other : String} (ne : key ≠ other) (name : String)
    (otherEvent : Option String) (otherClient : String) :
    (d.addTrigger other name otherEvent otherClient).Routes key event client := by
  obtain ⟨t, member, found, same⟩ := routed
  exact ⟨t, List.mem_append_left _ member, (lookup_put_of_ne ne _ _).trans found, same⟩

theorem Routes.addTriggerOf {d : Draft} {key client : String} {event : Option String}
    (routed : d.Routes key event client) (c : Container) (tag : Entity) :
    (d.addTriggerOf c tag).Routes key event client := by
  unfold Draft.addTriggerOf
  dsimp only
  split
  · exact routed
  · rename_i unrouted
    -- A tag adds a trigger only for an event without one, which is another key.
    refine routed.addTrigger ?_ _ _ _
    intro same
    exact unrouted (same ▸ routed.isSome)

theorem Routes.addTriggersOf {d : Draft} {key client : String} {event : Option String}
    (routed : d.Routes key event client) (c : Container) (tags : List Entity) :
    (tags.foldl (Draft.addTriggerOf c) d).Routes key event client := by
  induction tags generalizing d with
  | nil => exact routed
  | cons tag rest ih => exact ih (routed.addTriggerOf c tag)

theorem addTriggerOf_routes {d : Draft} {c : Container} {tag : Entity}
    (absent : d.triggerFor? (c.serverEvent tag) = none) :
    (d.addTriggerOf c tag).Routes (c.serverEvent tag) (some (c.serverEvent tag)) tag.serverClient := by
  unfold addTriggerOf
  simp only [absent, Option.isSome_none, Bool.false_eq_true, if_false]
  exact d.addTrigger_routes _ _ _ _

theorem addTriggerOf_triggerFor? {d : Draft} {c : Container} {tag : Entity} {key : String}
    (ne : key ≠ c.serverEvent tag) : (d.addTriggerOf c tag).triggerFor? key = d.triggerFor? key := by
  unfold addTriggerOf
  dsimp only
  split
  · rfl
  · exact lookup_put_of_ne ne _ _

/-- The first of the tags with an event decides on which client the trigger for it listens to. -/
theorem addTriggersOf_routes_first {d : Draft} {c : Container} {tags : List Entity} {key : String}
    {first : Entity} (absent : d.triggerFor? key = none)
    (atFirst : tags.find? (c.serverEvent · == key) = some first) :
    (tags.foldl (addTriggerOf c) d).Routes key (some key) first.serverClient := by
  induction tags generalizing d with
  | nil => simp at atFirst
  | cons tag rest ih =>
    rw [List.find?_cons] at atFirst
    rw [List.foldl_cons]
    split at atFirst
    · rename_i same
      cases atFirst
      rw [beq_iff_eq] at same
      subst same
      exact (addTriggerOf_routes absent).addTriggersOf c rest
    · rename_i other
      have ne : key ≠ c.serverEvent tag := fun same => by simp [same] at other
      exact ih ((addTriggerOf_triggerFor? ne).trans absent) atFirst

/-- Which event and which client the trigger for the event of a tag listens to: all events of the
GA4 client where the event is taken for all events, else the event, of the client of the first tag
that has it. -/
theorem addTriggers_routes {d : Draft} (fresh : d.triggerOf = []) (s : Selection) (c : Container)
    {key : String} {first : Entity} (atFirst : s.tags.find? (c.serverEvent · == key) = some first) :
    if s.wantsAllEvents = true ∧ key = allEvents then (d.addTriggers s c).Routes key none "GA4"
    else (d.addTriggers s c).Routes key (some key) first.serverClient := by
  have none (key : String) : d.triggerFor? key = none := by
    rw [triggerFor?, fresh, List.lookup_nil]
  unfold addTriggers addAllEventsTrigger
  by_cases wanted : s.wantsAllEvents = true
  · rw [if_pos wanted]
    by_cases all : key = allEvents
    · rw [if_pos ⟨wanted, all⟩, all]
      exact (d.addTrigger_routes _ _ _ _).addTriggersOf c s.tags
    · rw [if_neg fun both => all both.2]
      exact addTriggersOf_routes_first ((lookup_put_of_ne all _ _).trans (none key)) atFirst
  · rw [if_neg fun both => wanted both.1, if_neg wanted]
    exact addTriggersOf_routes_first (none key) atFirst

end TagAudit.Server.Draft

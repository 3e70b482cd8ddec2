import TagAudit.Proofs.Server.Migration

namespace TagAudit.Server

/-- A trigger selects one event, where one client has taken it. -/
structure Selects (trigger : Entity) (event client : String) : Prop where
  type : trigger.type = .str "CUSTOM_EVENT"
  event : trigger.get "customEventFilter" = .arr [condition "EQUALS" "_event" event]
  client : trigger.get "filter" = .arr [condition "CONTAINS" "Client Name" client]

/-- The trigger that a tag fires on, by an identifier that no other trigger has. -/
structure FiresOn (e : Container) (server trigger : Entity) : Prop where
  present : trigger ∈ e.triggers
  named : server.firingIds = [trigger.id "triggerId"]
  once : (e.triggers.map (·.id "triggerId")).count (trigger.id "triggerId") = 1

/-- The trigger for the event of a tag is made for this tag or for one of the same client. -/
def Selection.Suits (s : Selection) (c : Container) (tag : Entity) : Prop :=
  ¬(s.wantsAllEvents = true ∧ c.serverEvent tag = Draft.allEvents) ∧
    ∃ first, s.tags.find? (c.serverEvent · == c.serverEvent tag) = some first ∧
      first.serverClient = tag.serverClient

theorem condition_inj {type type' subject subject' value value' : String}
    (same : condition type subject value = condition type' subject' value') :
    type = type' ∧ value = value' := by
  simp only [condition, templateParameter, Json.obj.injEq, List.cons.injEq, Prod.mk.injEq, true_and,
    and_true, Json.arr.injEq, Json.str.injEq] at same
  exact ⟨same.1, same.2.2⟩

theorem EventTrigger.selects_iff (fingerprint : String) (t : EventTrigger) (event client : String) :
    Selects (t.entity fingerprint) event client ↔ t.event = some event ∧ t.client = client := by
  constructor
  · intro selects
    have sameClient := (t.entity_filter fingerprint).symm.trans selects.client
    have sameEvent := (t.entity_customEventFilter fingerprint).symm.trans selects.event
    simp only [Json.arr.injEq, List.cons.injEq, and_true] at sameClient sameEvent
    refine ⟨?_, (condition_inj sameClient).2⟩
    unfold eventCondition at sameEvent
    split at sameEvent
    · rename_i own found
      rw [found, (condition_inj sameEvent).2]
    · have types := (condition_inj sameEvent).1
      simp at types
  · rintro ⟨sameEvent, sameClient⟩
    refine ⟨t.entity_type fingerprint, ?_, ?_⟩
    · rw [entity_customEventFilter, eventCondition, sameEvent]
    · rw [entity_filter, sameClient]

end TagAudit.Server

namespace TagAudit.ServerGenerator

open Server

variable (g : ServerGenerator) (s : Selection) (includePaused : Bool) (source : Option String)

/-- What the trigger for the event of a tag listens to in the end. -/
theorem draftOf_routes {key : String} {first : Entity}
    (atFirst : s.tags.find? (g.container.serverEvent · == key) = some first) :
    if s.wantsAllEvents = true ∧ key = Draft.allEvents then (g.draftOf s).Routes key none "GA4"
    else (g.draftOf s).Routes key (some key) first.serverClient := by
  have frame := (g.routed s).addTags_frame s g.container g.catalog
  rw [draftOf_eq, frame.routes_iff, frame.routes_iff]
  exact g.routed_routes s atFirst

/-- The trigger that is registered for the event of a tag is the one that its server tag fires on. -/
theorem reread_firesOn {tag : Entity} {server : ServerTag} {event : Option String} {client : String}
    (serves : (g.draftOf s).Serves g.container g.catalog tag server)
    (routes : (g.draftOf s).Routes (g.container.serverEvent tag) event client) :
    ∃ t : EventTrigger, t.event = event ∧ t.client = client ∧
      FiresOn (g.reread s includePaused source) (server.entity g.fingerprint) (t.entity g.fingerprint) := by
  obtain ⟨t, present, registered, ofEvent, ofClient⟩ := routes
  have same : server.trigger = t.id := Option.some.inj (serves.trigger.symm.trans registered)
  have text : (t.entity g.fingerprint).id "triggerId" = Numeral.ofInt t.id := by
    simp [Entity.id, idJson, Json.text]
  refine ⟨t, ofEvent, ofClient, ?_, ?_, ?_⟩
  · rw [reread, Draft.toContainer_triggers]
    exact List.mem_map_of_mem present
  · simp [Entity.firingIds, Entity.id, Json.items, same]
  · rw [text]
    exact Draft.toContainer_triggerId_once _ _ _ _ _ (g.draftOf_sound s) registered

/-- A server tag fires on one trigger of the export, which is right for the migrated tag if and only
if it is made for its client. -/
theorem reread_selects_iff {tag : Entity} {server : ServerTag} (member : tag ∈ s.tags)
    (serves : (g.draftOf s).Serves g.container g.catalog tag server) :
    ∃ trigger, FiresOn (g.reread s includePaused source) (server.entity g.fingerprint) trigger ∧
      (Selects trigger (g.container.serverEvent tag) tag.serverClient ↔ s.Suits g.container tag) := by
  obtain ⟨first, atFirst⟩ := s.exists_first g.container member
  have routes := g.draftOf_routes s atFirst
  split at routes
  · rename_i all
    obtain ⟨t, ofEvent, _, fires⟩ := g.reread_firesOn s includePaused source serves routes
    refine ⟨_, fires, ?_⟩
    rw [EventTrigger.selects_iff, ofEvent]
    simp [Selection.Suits, all]
  · rename_i single
    obtain ⟨t, ofEvent, ofClient, fires⟩ := g.reread_firesOn s includePaused source serves routes
    refine ⟨_, fires, ?_⟩
    rw [EventTrigger.selects_iff, ofEvent, ofClient]
    simp [Selection.Suits, single, atFirst]

/-- Which of the server tags of an export fire on triggers that select the event and the client of the
migrated tag: those that are not served by the trigger of another client, or by that for all events. -/
theorem generate_selects_iff (keys : List String) : ∃ s d e, (g.select keys).selection = .ok s ∧
    (g.select keys).draft = .ok d ∧ (g.select keys).generate = .ok ((g.select keys).exportOf d) ∧
    Container.ofJson ((g.select keys).exportOf d) includePaused source = .ok e ∧
    ∃ base servers, e.tags = base ++ servers ∧ base.length ≤ 2 ∧
      List.Forall₂ (fun tag server => ∃ trigger, FiresOn e server trigger ∧
        (Selects trigger (g.container.serverEvent tag) tag.serverClient ↔ s.Suits g.container tag))
        s.tags servers := by
  obtain ⟨s, selected⟩ := g.select_selection keys
  have drafted := draft_of_selection selected
  obtain ⟨base, servers, tags, names, served, _⟩ := (g.select keys).draftOf_serves s
  refine ⟨s, _, _, selected, drafted, generate_of_draft drafted,
    ofJson_exportOf _ s includePaused source, base.map (ServerTag.entity (g.select keys).fingerprint),
    servers.map (ServerTag.entity (g.select keys).fingerprint), ?_, ?_, ?_⟩
  · rw [reread, Draft.toContainer_tags, tags, List.map_append]
  · simpa using names.length_le
  · rw [List.forall₂_map_right_iff, List.forall₂_iff_get]
    refine ⟨served.length_eq, fun i bound bound' => ?_⟩
    exact (g.select keys).reread_selects_iff s includePaused source (List.get_mem _ _)
      ((List.forall₂_iff_get.mp served).2 i bound bound')

/-- The last tag to migrate is one of Google Ads, and the last server tag fires on the trigger that was
made for the tag of GA4. -/
theorem purchases_not_selective : ∃ s d e tag server trigger, purchases.selection = .ok s ∧
    purchases.draft = .ok d ∧ purchases.generate = .ok (purchases.exportOf d) ∧
    Container.ofJson (purchases.exportOf d) true none = .ok e ∧
    s.tags.getLast? = some tag ∧ e.tags.getLast? = some server ∧ FiresOn e server trigger ∧
    ¬ Selects trigger (purchases.container.serverEvent tag) tag.serverClient := by
  obtain ⟨s, selected, toMigrate⟩ : ∃ s, purchases.selection = .ok s ∧ s.tags =
      [Entity.ofJson (purchaseTag "1" "GA4 - Purchase" "gaawe"),
        Entity.ofJson (purchaseTag "2" "Ads - Purchase" "awct")] := ⟨_, rfl, rfl⟩
  have drafted := draft_of_selection selected
  obtain ⟨base, servers, tags, _, served, _⟩ := purchases.draftOf_serves s
  rw [toMigrate] at served
  obtain ⟨ga4, rest, _, others, rfl⟩ := List.forall₂_cons_left_iff.mp served
  obtain ⟨ads, rest, serves, none, rfl⟩ := List.forall₂_cons_left_iff.mp others
  cases none
  obtain ⟨trigger, fires, selects⟩ := purchases.reread_selects_iff s true none
    (toMigrate ▸ List.mem_cons_of_mem _ List.mem_cons_self) serves
  refine ⟨s, _, _, Entity.ofJson (purchaseTag "2" "Ads - Purchase" "awct"), _, trigger, selected, drafted,
    generate_of_draft drafted, ofJson_exportOf purchases s true none, ?_, ?_, fires, ?_⟩
  · rw [toMigrate]
    rfl
  · rw [reread, Draft.toContainer_tags, tags]
    simp
  · rw [selects]
    rintro ⟨_, first, atFirst, sameClient⟩
    have ga4First : s.tags.find? (purchases.container.serverEvent · == "purchase") =
        some (Entity.ofJson (purchaseTag "1" "GA4 - Purchase" "gaawe")) := by
      rw [toMigrate]
      rfl
    cases Option.some.inj (ga4First.symm.trans atFirst)
    exact absurd sameClient (by decide)

end TagAudit.ServerGenerator

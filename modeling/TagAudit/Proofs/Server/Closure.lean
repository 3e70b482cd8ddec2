import TagAudit.Proofs.Server.Selectivity
import TagAudit.Proofs.Server.Texts
import TagAudit.Proofs.Server.Waiting
import TagAudit.Proofs.Server.Wiring

namespace TagAudit

theorem Entity.references_nameSlug (trigger : Entity) : Text.references trigger.nameSlug = [] :=
  Text.references_slug _ _ (by decide)

/-- Only the name that a custom event is compared with is copied. -/
theorem Entity.references_eventName {trigger : Entity} (refers : Text.references trigger.eventName ≠ []) :
    trigger.type = .str "CUSTOM_EVENT" ∧ trigger.eventValues.head? = some trigger.eventName := by
  have fixed : ∀ row ∈ fixedEvents, Text.references row.2 = [] := by decide
  have slug := trigger.references_nameSlug
  unfold eventName at refers ⊢
  split at refers
  · rename_i type
    cases first : trigger.eventValues.head? with
    | none =>
      rw [first, Option.getD_none] at refers
      exact absurd slug refers
    | some value => exact ⟨type, rfl⟩
  · rename_i type _ _
    cases found : fixedEvents.lookup type with
    | none =>
      rw [found, Option.getD_none] at refers
      exact absurd slug refers
    | some event =>
      rw [found, Option.getD_some] at refers
      exact absurd (fixed _ (mem_of_lookup found)) refers
  · exact absurd slug refers

theorem Container.references_serverEvent {c : Container} {tag : Entity}
    (refers : Text.references (c.serverEvent tag) ≠ []) : ∃ trigger, c.firstTrigger? tag = some trigger ∧
      trigger.type = .str "CUSTOM_EVENT" ∧ trigger.eventValues.head? = some (c.serverEvent tag) := by
  unfold serverEvent at refers ⊢
  cases first : c.firstTrigger? tag with
  | none =>
    rw [first] at refers
    exact absurd (by decide : Text.references (eventNameOf none) = []) refers
  | some trigger =>
    rw [first] at refers
    exact ⟨trigger, rfl, Entity.references_eventName refers⟩

namespace Server

theorem references_serverClient (tag : Entity) : Text.references tag.serverClient = [] := by
  unfold Entity.serverClient
  split <;> decide

/-- A name that a custom event is compared with, by the first trigger of a tag to migrate. -/
def Selection.Hears (s : Selection) (c : Container) (text : String) : Prop :=
  ∃ tag ∈ s.tags, ∃ trigger, c.firstTrigger? tag = some trigger ∧ trigger.type = .str "CUSTOM_EVENT" ∧
    trigger.eventValues.head? = some text

/-- What is to be filled in for the conversion label of a tag to migrate, which is named in it. -/
def Selection.Labels (s : Selection) (text : String) : Prop :=
  ∃ tag ∈ s.tags, tag.type.isOneOf ["awct", "adsct"] = true ∧ text = "Conversion Label fuer " ++ tag.name ∧
    ∃ label, tag.parameterValue "conversionLabel" = .str label ∧ Deferred label

/-- Of what the requests of a tag say, only the name of the tag is copied. -/
theorem references_request {tag : Entity} {r : Request} (member : r ∈ requests tag)
    (refers : Text.references r.what ≠ []) : tag.type.isOneOf ["awct", "adsct"] = true ∧
      r.what = "Conversion Label fuer " ++ tag.name ∧ r.value = tag.parameterValue "conversionLabel" := by
  have fixed : Text.references "GA4 Measurement ID, z.B. G-XXXXXXXXXX" = [] ∧
      Text.references "Google Ads Conversion ID, z.B. AW-123456789" = [] ∧
      Text.references ("Conversion Label fuer " ++ "Tag") = [] := by decide
  obtain ⟨measurementId, conversionId, unnamed⟩ := fixed
  rcases requests_cases member with rfl | rfl | ⟨type, rfl⟩
  · exact absurd measurementId refers
  · exact absurd conversionId refers
  · refine ⟨type, ?_, rfl⟩
    dsimp only at refers ⊢
    split at refers
    · exact absurd unnamed refers
    · rename_i named
      rw [if_neg named]

namespace Draft

variable {d : Draft}

theorem Filled.references_wired {rs : List Request} (filled : d.Filled rs) {filling : Filling}
    (wired : filling.Wired d.constants) : ∀ target ∈ Text.references filling.value,
      ∃ c ∈ d.constants, c.name = target := by
  intro target mentioned
  cases filling with
  | text value =>
    have plain : ∀ value ∈ ["all", "conversion"], Text.references value = [] := by decide
    rw [Filling.value, plain value wired] at mentioned
    cases mentioned
  | switch on =>
    have plain : Text.references (Filling.switch on).value = [] := by
      cases on <;> decide
    rw [plain] at mentioned
    cases mentioned
  | constant name =>
    obtain ⟨c, member, rfl⟩ := wired
    rw [Filling.value, Text.references_reference (filled.referable c member), List.mem_singleton] at mentioned
    exact ⟨c, member, mentioned.symm⟩
  | missing what =>
    have plain : ∀ what ∈ wantedTitles, Text.references what = [] := by decide
    rw [Filling.value, references_placeholder, plain what wired] at mentioned
    cases mentioned

/-- The triggers of a draft listen to events of some tags, and its event variables read the keys of event data. -/
structure Heard (c : Container) (tags : List Entity) (d : Draft) : Prop where
  event : ∀ t ∈ d.triggers, ∀ event, t.event = some event → ∃ tag ∈ tags, c.serverEvent tag = event
  client : ∀ t ∈ d.triggers, Text.references t.client = []
  key : ∀ v ∈ d.eventVariables, v.key ∈ eventDataKeys

theorem Heard.addTrigger {c : Container} {tags : List Entity} (heard : d.Heard c tags) (key name : String)
    {event : Option String} (ofTag : ∀ text, event = some text → ∃ tag ∈ tags, c.serverEvent tag = text)
    {client : String} (plain : Text.references client = []) : (d.addTrigger key name event client).Heard c tags where
  event := by
    refine List.forall_mem_append.mpr ⟨heard.event, ?_⟩
    simpa using ofTag
  client := by
    refine List.forall_mem_append.mpr ⟨heard.client, ?_⟩
    simpa using plain
  key := heard.key

theorem Heard.addTriggers {c : Container} {s : Selection} (heard : d.Heard c s.tags) :
    (d.addTriggers s c).Heard c s.tags := by
  refine List.foldlRecOn (motive := Heard c s.tags) _ _ ?_ fun e before tag member => ?_
  · unfold addAllEventsTrigger
    split
    · exact heard.addTrigger _ _ (by simp) (by decide)
    · exact heard
  · unfold addTriggerOf
    dsimp only
    split
    · exact before
    · exact before.addTrigger _ _ (fun _ same => ⟨tag, member, Option.some.inj same⟩) (references_serverClient tag)

theorem Heard.addEventVariables {c : Container} {tags : List Entity} (heard : d.Heard c tags) :
    d.addEventVariables.Heard c tags := by
  refine List.foldlRecOn (motive := Heard c tags) _ _ heard fun e before key member => ?_
  refine { before with key := ?_ }
  refine List.forall_mem_append.mpr ⟨before.key, ?_⟩
  simpa using member

end Draft

end Server

namespace ServerGenerator

open Server

variable (g : ServerGenerator) (s : Selection)

theorem perform_heard {d : Draft} (heard : d.Heard g.container s.tags) (step : Step) :
    (g.perform s d step).Heard g.container s.tags := by
  cases step with
  | folders =>
    obtain ⟨_, _, same⟩ := d.addFolders_frame s
    rw [perform, same]
    exact { heard with }
  | constants =>
    obtain ⟨_, _, _, _, same⟩ := d.addConstants_frame s g.address
    rw [perform, same]
    exact { heard with }
  | eventVariables => exact heard.addEventVariables
  | templates =>
    obtain ⟨_, _, _, same⟩ := d.addTemplates_frame s g.catalog g.vendors
    rw [perform, same]
    exact { heard with }
  | clients =>
    obtain ⟨_, _, same⟩ := d.addClients_frame s
    rw [perform, same]
    exact { heard with }
  | triggers => exact heard.addTriggers
  | tags =>
    obtain ⟨_, _, _, _, _, same⟩ := d.addTags_frame s g.container g.catalog
    rw [perform, same]
    exact { heard with }

theorem draftOf_heard : (g.draftOf s).Heard g.container s.tags := by
  have start : Draft.empty.Heard g.container s.tags :=
    ⟨by simp [Draft.empty], by simp [Draft.empty], by simp [Draft.empty]⟩
  exact List.foldlRecOn (motive := Draft.Heard g.container s.tags) _ _ start fun _ heard step _ =>
    g.perform_heard s heard step

/-- The texts of the container that stand in its export: the names of the events of the tags to migrate, and what
is left to be filled in for their values. -/
def copied : List String := s.tags.map g.container.serverEvent ++ asked (s.tags.flatMap requests)

theorem mentioned_of_copied (filled : (g.draftOf s).Filled (s.tags.flatMap requests)) {text : String}
    (member : text ∈ g.copied s) {target : String} (mentioned : target ∈ Text.references text) :
    ∃ other ∈ (g.draftOf s).texts, target ∈ Text.references other := by
  rcases List.mem_append.mp member with isEvent | isAsked
  · obtain ⟨tag, isTag, rfl⟩ := List.mem_map.mp isEvent
    obtain ⟨first, atFirst⟩ := s.exists_first g.container isTag
    have routes := g.draftOf_routes s atFirst
    split at routes
    · rename_i all
      have none : Text.references Draft.allEvents = [] := by decide
      rw [all.2, none] at mentioned
      cases mentioned
    · obtain ⟨t, isTrigger, _, event, _⟩ := routes
      exact ⟨t.event.getD ".*", Draft.mem_texts.mpr (Or.inr (Or.inl ⟨t, isTrigger, Or.inr rfl⟩)), by rwa [event]⟩
  · obtain ⟨c, isConstant, waits⟩ := filled.waiting text isAsked
    exact ⟨c.value, Draft.mem_texts.mpr (Or.inr (Or.inr (Or.inl ⟨c, isConstant, rfl⟩))),
      by rwa [waits, references_placeholder]⟩

theorem copied_of_mentioned (filled : (g.draftOf s).Filled (s.tags.flatMap requests)) {text : String}
    (member : text ∈ (g.draftOf s).texts) {target : String} (mentioned : target ∈ Text.references text) :
    (∃ c ∈ (g.draftOf s).constants, c.name = target) ∨ ∃ other ∈ g.copied s, target ∈ Text.references other := by
  have heard := g.draftOf_heard s
  rcases Draft.mem_texts.mp member with ⟨t, isTag, p, isParameter, rfl⟩ | ⟨t, isTrigger, rfl | rfl⟩ |
    ⟨c, isConstant, rfl⟩ | ⟨v, isVariable, rfl⟩
  · exact Or.inl (filled.references_wired (g.draftOf_wired s t isTag p isParameter) target mentioned)
  · rw [heard.client t isTrigger] at mentioned
    cases mentioned
  · cases event : t.event with
    | none =>
      rw [event, Option.getD_none, (by decide : Text.references ".*" = [])] at mentioned
      cases mentioned
    | some name =>
      obtain ⟨tag, isTag, rfl⟩ := heard.event t isTrigger name event
      rw [event, Option.getD_some] at mentioned
      exact Or.inr ⟨_, List.mem_append_left _ (List.mem_map_of_mem isTag), mentioned⟩
  · rcases filled.plain c isConstant with none | ⟨what, isAsked, waits⟩
    · rw [none] at mentioned
      cases mentioned
    · rw [waits, references_placeholder] at mentioned
      exact Or.inr ⟨what, List.mem_append_right _ isAsked, mentioned⟩
  · have none : ∀ key ∈ Draft.eventDataKeys, Text.references key = [] := by decide
    rw [none v.key (heard.key v isVariable)] at mentioned
    cases mentioned

variable (includePaused : Bool) (source : Option String)

theorem reread_closed_iff (plain : ∀ url, g.address = some url → Text.contains url "\x7b\x7b" = false) :
    (g.reread s includePaused source).Closed ↔ ∀ text ∈ g.copied s, ∀ target ∈ Text.references text,
      (g.reread s includePaused source).knows target = true := by
  have filled := g.draftOf_filled s plain
  rw [reread, Draft.toContainer_closed_iff]
  constructor
  · intro closed text member target mentioned
    obtain ⟨other, isText, there⟩ := g.mentioned_of_copied s filled member mentioned
    exact closed other isText target there
  · intro known text member target mentioned
    rcases g.copied_of_mentioned s filled member mentioned with ⟨c, isConstant, rfl⟩ | ⟨other, isCopied, there⟩
    · exact Draft.toContainer_knows_constant _ _ _ _ _ _ isConstant
    · exact known other isCopied target there

theorem source_of_copied {text : String} (member : text ∈ g.copied s) (refers : Text.references text ≠ []) :
    s.Hears g.container text ∨ s.Labels text := by
  rcases List.mem_append.mp member with isEvent | isAsked
  · obtain ⟨tag, isTag, rfl⟩ := List.mem_map.mp isEvent
    exact Or.inl ⟨tag, isTag, Container.references_serverEvent refers⟩
  · obtain ⟨tag, isTag, r, isRequest, rfl, label, value, deferred⟩ := request_of_mem_asked isAsked
    obtain ⟨type, what, ofLabel⟩ := references_request isRequest refers
    exact Or.inr ⟨tag, isTag, type, what, label, ofLabel.symm.trans value, deferred⟩

/-- An export is closed under references exactly if the texts of the container that it holds reference nothing
else than what the export knows. References are copied only with the name of a custom event, and with the name of
a tag whose conversion label is left to be filled in. -/
theorem generate_closed_iff {g : ServerGenerator} {s : Selection} (selected : g.selection = .ok s)
    (plain : ∀ url, g.address = some url → Text.contains url "\x7b\x7b" = false) (includePaused : Bool)
    (source : Option String) : ∃ document e, g.generate = .ok document ∧
      Container.ofJson document includePaused source = .ok e ∧
      (e.Closed ↔ ∀ text ∈ g.copied s, ∀ target ∈ Text.references text, e.knows target = true) ∧
      (∀ text ∈ g.copied s, Text.references text ≠ [] → s.Hears g.container text ∨ s.Labels text) ∧
      ∀ t ∈ e.triggers, t.get "customEventFilter" = .arr [condition "MATCH_REGEX" "_event" ".*"] ∨
        ∃ tag ∈ s.tags, t.get "customEventFilter" =
          .arr [condition "EQUALS" "_event" (g.container.serverEvent tag)] := by
  refine ⟨_, _, generate_of_draft (draft_of_selection selected), ofJson_exportOf _ s includePaused source,
    g.reread_closed_iff s includePaused source plain, fun _ => g.source_of_copied s, ?_⟩
  rw [reread, Draft.toContainer_triggers]
  refine List.forall_mem_map.mpr fun t isTrigger => ?_
  rw [EventTrigger.entity_customEventFilter, EventTrigger.eventCondition]
  cases event : t.event with
  | none => exact Or.inl rfl
  | some name =>
    obtain ⟨tag, isTag, rfl⟩ := (g.draftOf_heard s).event t isTrigger name event
    exact Or.inr ⟨tag, isTag, rfl⟩

/-- The fields of a container version with a tag of GA4 on a custom event, whose name is compared with an event
and then with "purchase". -/
def relayVersion (event : String) : List (String × Json) :=
  [("tag", .arr [purchaseTag "1" "GA4 - Purchase" "gaawe"]),
    ("trigger", .arr [.obj [("triggerId", "5"), ("name", "CE - Purchase"), ("type", "CUSTOM_EVENT"),
      ("customEventFilter", .arr [condition "EQUALS" "_event" event, condition "EQUALS" "_event" "purchase"])]])]

def relay (event : String) : ServerGenerator where
  container := ⟨[("containerVersion", .obj (relayVersion event))], relayVersion event, true, none, rfl⟩
  analysis := [("tagsToMigrate", (Json.lookup (relayVersion event) "tag").getD .null)]
  vendors := []
  catalog := []
  moment := ⟨2024, 1, 15, 12, 30, 45, 0⟩
  address := some "https://sgtm.example.com"

theorem relay_address (event : String) : ∀ url, (relay event).address = some url →
    Text.contains url "\x7b\x7b" = false := by
  intro url same
  obtain rfl := Option.some.inj same
  decide

/-- An event that is called by its name leaves the export closed. -/
theorem relay_closed : ∃ s document e, (relay "purchase").selection = .ok s ∧
    (relay "purchase").generate = .ok document ∧ Container.ofJson document true none = .ok e ∧
    (relay "purchase").copied s = ["purchase"] ∧ e.Closed := by
  have selected : (relay "purchase").selection = .ok (Selection.ofAll (relay "purchase").analysis) := rfl
  have copies : (relay "purchase").copied (Selection.ofAll (relay "purchase").analysis) = ["purchase"] := by
    decide +kernel
  obtain ⟨document, e, generated, read, closed, _⟩ := generate_closed_iff selected (relay_address _) true none
  refine ⟨_, document, e, selected, generated, read, copies, closed.mpr ?_⟩
  have none : Text.references "purchase" = [] := by decide
  simp [copies, none]

/-- A reference to a variable of the client in the first place makes a dangling reference of the export, though
the event is called by its name in the second. -/
theorem relay_dangles : ∃ s document e, (relay (Text.reference "dlv")).selection = .ok s ∧
    (relay (Text.reference "dlv")).generate = .ok document ∧ Container.ofJson document true none = .ok e ∧
    ¬ e.Closed := by
  have selected : (relay (Text.reference "dlv")).selection =
      .ok (Selection.ofAll (relay (Text.reference "dlv")).analysis) := rfl
  have copies : Text.reference "dlv" ∈ (relay (Text.reference "dlv")).copied
      (Selection.ofAll (relay (Text.reference "dlv")).analysis) := by decide +kernel
  refine ⟨_, _, _, selected, generate_of_draft (draft_of_selection selected), ofJson_exportOf _ _ true none, ?_⟩
  rw [reread_closed_iff _ _ _ _ (relay_address _)]
  intro known
  have mentions : "dlv" ∈ Text.references (Text.reference "dlv") := by decide
  have unknown : ((relay (Text.reference "dlv")).reread (Selection.ofAll (relay (Text.reference "dlv")).analysis) true
      none).knows "dlv" = false := by decide +kernel
  exact absurd (unknown.symm.trans (known _ copies _ mentions)) Bool.false_ne_true

end ServerGenerator

end TagAudit

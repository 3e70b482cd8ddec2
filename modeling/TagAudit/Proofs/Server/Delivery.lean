import TagAudit.Proofs.Server.Migration
import TagAudit.Proofs.Server.Values

namespace TagAudit

theorem filter_eq_singleton {α : Type} {xs : List α} {key : α → String} (nodup : (xs.map key).Nodup)
    {x : α} (member : x ∈ xs) : xs.filter (key · == key x) = [x] := by
  induction xs with
  | nil => cases member
  | cons y rest ih =>
    obtain ⟨absent, others⟩ := List.nodup_cons.mp nodup
    rcases List.mem_cons.mp member with rfl | later
    · have noOther : rest.filter (key · == key x) = [] := by
        refine List.filter_eq_nil_iff.mpr fun z within same => absent ?_
        exact List.mem_map.mpr ⟨z, within, beq_iff_eq.mp same⟩
      rw [List.filter_cons, if_pos (beq_self_eq_true (key x)), noOther]
    · have differ : key y ≠ key x := fun same => absent (same ▸ List.mem_map_of_mem later)
      rw [List.filter_cons_of_neg (by simpa using differ)]
      exact ih others later

namespace Server

def Constant.entity (fingerprint : String) (c : Constant) : Entity :=
  Entity.ofJson (c.toJson fingerprint)

def EventVariable.entity (fingerprint : String) (v : EventVariable) : Entity :=
  Entity.ofJson (v.toJson fingerprint)

def Parameter.entity (p : Parameter) : Entity := Entity.ofJson p.toJson

@[simp] theorem Constant.entity_name (fingerprint : String) (c : Constant) :
    (c.entity fingerprint).get "name" = .str c.name := by
  simp [entity, toJson, owned, Entity.ofJson, Entity.ofJson?, Entity.get, Entity.get?, Json.lookup]

@[simp] theorem EventVariable.entity_name (fingerprint : String) (v : EventVariable) :
    (v.entity fingerprint).get "name" = .str ("ed - " ++ v.key) := by
  simp [entity, toJson, owned, Entity.ofJson, Entity.ofJson?, Entity.get, Entity.get?, Json.lookup]

@[simp] theorem Constant.entity_liveOnly (fingerprint : String) (c : Constant) :
    (c.entity fingerprint).get "liveOnly" = .null := by
  cases folder : c.folder <;>
    simp [entity, toJson, owned, parentFolder, folder, Entity.ofJson, Entity.ofJson?, Entity.get,
      Entity.get?, Json.lookup]

@[simp] theorem EventVariable.entity_liveOnly (fingerprint : String) (v : EventVariable) :
    (v.entity fingerprint).get "liveOnly" = .null := by
  cases folder : v.folder <;>
    simp [entity, toJson, owned, parentFolder, folder, Entity.ofJson, Entity.ofJson?, Entity.get,
      Entity.get?, Json.lookup]

@[simp] theorem Constant.entity_value (fingerprint : String) (c : Constant) :
    (c.entity fingerprint).parameterValue "value" = .str c.value := rfl

@[simp] theorem Parameter.entity_key (p : Parameter) : p.entity.get "key" = .str p.key := by
  cases filling : p.filling <;>
    simp [entity, toJson, filling, templateParameter, booleanParameter, Entity.ofJson, Entity.ofJson?,
      Entity.get, Entity.get?, Json.lookup]

@[simp] theorem Parameter.entity_value (p : Parameter) :
    p.entity.getOr "value" .null = .str p.filling.value := by
  cases filling : p.filling <;>
    simp [entity, toJson, filling, templateParameter, booleanParameter, Entity.ofJson, Entity.ofJson?,
      Entity.getOr, Entity.get?, Json.lookup]

theorem Parameter.ofJson?_toJson (p : Parameter) : Entity.ofJson? p.toJson = some p.entity := by
  cases filling : p.filling <;>
    simp [entity, toJson, filling, templateParameter, booleanParameter, Entity.ofJson, Entity.ofJson?]

theorem ServerTag.parameterValue_eq {fingerprint key : String} {t : ServerTag} {p : Parameter}
    (found : t.parameters.find? (·.key == key) = some p) :
    (t.entity fingerprint).parameterValue key = .str p.filling.value := by
  have parameters : (t.entity fingerprint).get "parameter" = .arr (t.parameters.map Parameter.toJson) := by
    simp [entity, toJson, owned, Entity.ofJson, Entity.ofJson?, Entity.get, Entity.get?, Json.lookup]
  have objects : (t.parameters.map Parameter.toJson).filterMap Entity.ofJson? =
      t.parameters.map Parameter.entity := by
    rw [List.filterMap_map, ← List.filterMap_eq_map]
    exact List.filterMap_congr fun q _ => q.ofJson?_toJson
  have first : (t.entity fingerprint).parameter? key = some p.entity := by
    have sameKey : (fun q : Entity => (q.get "key").same key) ∘ Parameter.entity = (·.key == key) := by
      funext q
      rw [Function.comp_apply, Parameter.entity_key]
      rfl
    rw [Entity.parameter?, parameters, Json.items, objects, List.find?_map, sameKey, found]
    rfl
  rw [Entity.parameterValue, Entity.parameterValueOr, first]
  exact p.entity_value

/-- The text that a tag carries arrives: the parameter of the server tag refers to a variable that is
the only one of its name, and that has the text as its value, or waits for it to be filled in. -/
def Delivers (e : Container) (server : Entity) (key text : String) : Prop :=
  ∃ name v value, server.parameterValue key = .str (Text.reference name) ∧
    (e.userVariables.filter fun v => (v.get "name").isStr name) = [v] ∧
    v.parameterValue "value" = .str value ∧
    if isConcrete text then value = text else isPlaceholder value = true

theorem isPlaceholder_placeholder (what : String) : isPlaceholder (placeholder what) = true := by
  have start : "[HIER_EINFUEGEN:".toList <+: "[HIER_EINFUEGEN: ".toList := by decide
  unfold isPlaceholder Text.startsWith placeholder
  rw [List.isPrefixOf_iff_prefix, String.toList_append, String.toList_append, List.append_assoc]
  exact start.trans (List.prefix_append _ _)

theorem constantName_ne_eventVariable (what key : String) : constantName what ≠ "ed - " ++ key := by
  intro same
  have chars := congrArg (fun s : String => s.toList.head?) same
  simp [constantName] at chars

namespace Draft

theorem valuesFor_ga4 (d : Draft) (catalog : Catalog) {tag : Entity}
    (type : tag.type = .str "gaawe" ∨ tag.type = .str "gawc") :
    d.valuesFor tag (serverTagType catalog tag) = ga4Values (d.constantFor? (measurementId tag)) := by
  rcases type with type | type
  · simp only [valuesFor, serverTagType, type]
    rfl
  · simp only [valuesFor, serverTagType, type]
    rfl

theorem valuesFor_conversion (d : Draft) (catalog : Catalog) {tag : Entity} (type : tag.type = .str "awct") :
    d.valuesFor tag (serverTagType catalog tag) =
      conversionValues (d.constantFor? (tag.parameterValue "conversionId"))
        (d.constantFor? (tag.parameterValue "conversionLabel")) := by
  simp only [valuesFor, serverTagType, type]
  rfl

theorem valuesFor_remarketing (d : Draft) (catalog : Catalog) {tag : Entity} (type : tag.type = .str "adsct") :
    d.valuesFor tag (serverTagType catalog tag) =
      remarketingValues (d.constantFor? (tag.parameterValue "conversionId")) := by
  simp only [valuesFor, serverTagType, type]
  rfl

/-- The server tag of a tag looks its texts up again, and finds what they have been given. -/
theorem valuesFor_carried {d : Draft} {tag : Entity} {row : String × Json} {name : String}
    (catalog : Catalog) (member : row ∈ carried tag) (found : d.constantFor? row.2 = some name) :
    (d.valuesFor tag (serverTagType catalog tag)).find? (·.key == row.1) = some ⟨row.1, .constant name⟩ := by
  unfold carried at member
  split at member
  · rename_i type
    cases List.mem_singleton.mp member
    rw [d.valuesFor_ga4 catalog (Or.inl type), found]
    rfl
  · rename_i type
    cases List.mem_singleton.mp member
    rw [d.valuesFor_ga4 catalog (Or.inr type), found]
    rfl
  · rename_i type
    simp only [List.mem_cons, List.not_mem_nil, or_false] at member
    rcases member with rfl | rfl
    · rw [d.valuesFor_conversion catalog type, found]
      rfl
    · rw [d.valuesFor_conversion catalog type, found]
      rfl
  · rename_i type
    cases List.mem_singleton.mp member
    rw [d.valuesFor_remarketing catalog type, found]
    rfl
  · cases member

variable (includePaused : Bool) (source : Option String) (fingerprint name exportTime : String)
  (d : Draft)

theorem toContainer_get_variable :
    (d.toContainer includePaused source fingerprint name exportTime).get "variable" =
      .arr ((d.constants.map Sum.inl ++ d.eventVariables.map Sum.inr).map fun v =>
        (Sum.elim (Constant.entity fingerprint) (EventVariable.entity fingerprint) v).toJson) := by
  have entities : d.variablesJson fingerprint = (d.constants.map Sum.inl ++
      d.eventVariables.map Sum.inr).map fun v =>
        (Sum.elim (Constant.entity fingerprint) (EventVariable.entity fingerprint) v).toJson := by
    rw [variablesJson, List.map_append, List.map_map, List.map_map]
    rfl
  simp [Container.get, toContainer, versionFields, Json.lookup, entities]

theorem toContainer_userVariables :
    (d.toContainer includePaused source fingerprint name exportTime).userVariables =
      d.constants.map (Constant.entity fingerprint) ++
        d.eventVariables.map (EventVariable.entity fingerprint) := by
  have live (v : Constant ⊕ EventVariable) : (Sum.elim (Constant.entity fingerprint)
      (EventVariable.entity fingerprint) v).get "liveOnly" = .null := by
    cases v with
    | inl c => exact c.entity_liveOnly fingerprint
    | inr v => exact v.entity_liveOnly fingerprint
  rw [Container.userVariables, Container.entities_eq_map (toContainer_get_variable ..) live]
  simp

/-- A constant is the only variable of its name: event variables have names of another kind. -/
theorem toContainer_named_once {d : Draft} (sound : d.Sound) (stocked : d.Stocked) {c : Constant}
    (member : c ∈ d.constants) :
    ((d.toContainer includePaused source fingerprint name exportTime).userVariables.filter fun v =>
      (v.get "name").isStr c.name) = [c.entity fingerprint] := by
  obtain ⟨what, isName⟩ := stocked.named c member
  have constants : ((d.constants.map (Constant.entity fingerprint)).filter fun v =>
      (v.get "name").isStr c.name) = [c.entity fingerprint] := by
    have sameName : (fun v : Entity => (v.get "name").isStr c.name) ∘ Constant.entity fingerprint =
        (·.name == c.name) := by
      funext other
      rw [Function.comp_apply, Constant.entity_name]
      rfl
    rw [List.filter_map, sameName, filter_eq_singleton sound.constant_names_nodup member, List.map_singleton]
  have others : ((d.eventVariables.map (EventVariable.entity fingerprint)).filter fun v =>
      (v.get "name").isStr c.name) = [] := by
    refine List.filter_eq_nil_iff.mpr fun v isOther same => ?_
    obtain ⟨w, _, rfl⟩ := List.mem_map.mp isOther
    rw [EventVariable.entity_name, isName] at same
    exact constantName_ne_eventVariable what w.key (beq_iff_eq.mp same).symm
  rw [toContainer_userVariables, List.filter_append, constants, others, List.append_nil]

end Draft

end Server

namespace ServerGenerator

open Server

variable (g : ServerGenerator) (includePaused : Bool) (source : Option String)

theorem reread_delivers (s : Selection) {tag : Entity} (isTag : tag ∈ s.tags) {server : ServerTag}
    (serves : (g.draftOf s).Serves g.container g.catalog tag server) {row : String × Json}
    (member : row ∈ carried tag) {text : String} (isText : row.2 = .str text) (nonempty : text ≠ "") :
    Delivers (g.reread s includePaused source) (server.entity g.fingerprint) row.1 text := by
  obtain ⟨name, found⟩ := Option.isSome_iff_exists.mp (g.draftOf_provides s isTag member text isText nonempty)
  obtain ⟨c, isConstant, rfl, stands⟩ := (g.draftOf_stocked s).valued (text, name) (mem_of_lookup found)
  have constant : (g.draftOf s).constantFor? row.2 = some c.name := by
    rw [isText]
    exact found
  have parameter : server.parameters.find? (·.key == row.1) = some ⟨row.1, .constant c.name⟩ := by
    rw [serves.parameters, serves.type]
    exact Draft.valuesFor_carried g.catalog member constant
  refine ⟨c.name, c.entity g.fingerprint, c.value, ?_, ?_, c.entity_value g.fingerprint, ?_⟩
  · exact ServerTag.parameterValue_eq parameter
  · exact Draft.toContainer_named_once _ _ _ _ _ (g.draftOf_sound s) (g.draftOf_stocked s) isConstant
  · unfold StandsFor at stands
    split at stands
    · rename_i concrete
      rw [if_pos concrete]
      exact stands
    · rename_i other
      obtain ⟨what, isPlaceholder⟩ := stands
      rw [if_neg other, isPlaceholder]
      exact isPlaceholder_placeholder what

/-- Whatever a migrated tag is configured with arrives at its server tag, by way of a variable of the
export that has the value, or is left to be filled in where the value refers to client variables. -/
theorem generate_delivers {s : Selection} (selected : g.selection = .ok s) : ∃ document e,
    g.generate = .ok document ∧ Container.ofJson document includePaused source = .ok e ∧
    e.get "variable" = .arr (e.userVariables.map Entity.toJson) ∧
    ∃ base servers, e.tags = base ++ servers ∧ base.length ≤ 2 ∧
      List.Forall₂ (fun tag server => ∀ row ∈ carried tag, ∀ text, row.2 = .str text → text ≠ "" →
        Delivers e server row.1 text) s.tags servers := by
  have drafted := draft_of_selection selected
  obtain ⟨base, servers, tags, names, served, _⟩ := g.draftOf_serves s
  refine ⟨_, _, generate_of_draft drafted, ofJson_exportOf _ s includePaused source, ?_,
    base.map (ServerTag.entity g.fingerprint), servers.map (ServerTag.entity g.fingerprint), ?_, ?_, ?_⟩
  · rw [reread, Draft.toContainer_get_variable, Draft.toContainer_userVariables]
    simp only [List.map_append, List.map_map]
    rfl
  · rw [reread, Draft.toContainer_tags, tags, List.map_append]
  · simpa using names.length_le
  · rw [List.forall₂_map_right_iff, List.forall₂_iff_get]
    refine ⟨served.length_eq, fun i bound bound' row member text isText nonempty => ?_⟩
    exact g.reread_delivers includePaused source s (List.get_mem _ _)
      ((List.forall₂_iff_get.mp served).2 i bound bound') member isText nonempty

/-- A tag of GA4 with its identifier in the settings, and one of Google Ads with the same text as its
identifier and a reference as its label. -/
def campaign : ServerGenerator :=
  let tags := Json.arr
    [.obj [("name", "View"), ("type", "gaawe"),
        ("parameter", .arr [templateParameter "gaSettings" "G-1"])],
      .obj [("name", "Sale"), ("type", "awct"), ("parameter", .arr
        [templateParameter "conversionId" "G-1",
          templateParameter "conversionLabel" (Text.reference "Label")])]]
  { container := ⟨[("containerVersion", .obj [("tag", tags)])], [("tag", tags)], true, none, rfl⟩
    analysis := [("tagsToMigrate", tags)]
    vendors := []
    catalog := []
    moment := ⟨2024, 1, 15, 12, 30, 45, 0⟩
    address := none }

theorem campaign_delivers : ∃ document e view sale, campaign.generate = .ok document ∧
    Container.ofJson document true none = .ok e ∧ view ∈ e.tags ∧ sale ∈ e.tags ∧
    Delivers e view "measurementId" "G-1" ∧ Delivers e sale "conversionId" "G-1" ∧
    Delivers e sale "conversionLabel" (Text.reference "Label") := by
  obtain ⟨s, selected, toMigrate⟩ : ∃ s, campaign.selection = .ok s ∧ s.tags =
      [⟨[("name", "View"), ("type", "gaawe"),
          ("parameter", .arr [templateParameter "gaSettings" "G-1"])]⟩,
        ⟨[("name", "Sale"), ("type", "awct"), ("parameter", .arr
          [templateParameter "conversionId" "G-1",
            templateParameter "conversionLabel" (Text.reference "Label")])]⟩] := ⟨_, rfl, rfl⟩
  obtain ⟨document, e, generated, read, _, base, servers, tags, _, delivered⟩ :=
    campaign.generate_delivers true none selected
  rw [toMigrate] at delivered
  obtain ⟨view, rest, ofView, others, rfl⟩ := List.forall₂_cons_left_iff.mp delivered
  obtain ⟨sale, rest, ofSale, none, rfl⟩ := List.forall₂_cons_left_iff.mp others
  cases none
  refine ⟨document, e, view, sale, generated, read, by simp [tags], by simp [tags], ?_, ?_, ?_⟩
  · exact ofView ("measurementId", "G-1") List.mem_cons_self _ rfl (by decide)
  · exact ofSale ("conversionId", "G-1") List.mem_cons_self _ rfl (by decide)
  · exact ofSale ("conversionLabel", .str (Text.reference "Label"))
      (List.mem_cons_of_mem _ List.mem_cons_self) _ rfl (by decide)

end ServerGenerator

end TagAudit

import TagAudit.Proofs.Server.Wiring

namespace TagAudit.Server

theorem isPlaceholder_reference (name : String) : isPlaceholder (Text.reference name) = false := by
  simp [isPlaceholder, Text.startsWith, Text.reference, List.isPrefixOf]

/-- A parameter reads like a value to be filled in only if nobody has given its value. -/
def Parameter.Legible (p : Parameter) : Prop :=
  isPlaceholder p.filling.value = true → ∃ what, p.filling = .missing what

theorem Parameter.legible_of_wired {constants : List Constant} {p : Parameter} (wired : p.filling.Wired constants) :
    p.Legible := by
  intro marked
  cases filling : p.filling with
  | text value =>
    have given : ∀ value ∈ ["all", "conversion"], isPlaceholder value = false := by decide
    rw [filling] at wired marked
    exact absurd ((given value wired).symm.trans marked) Bool.false_ne_true
  | switch on =>
    have given : isPlaceholder (Filling.switch on).value = false := by
      cases on <;> decide
    rw [filling] at marked
    exact absurd (given.symm.trans marked) Bool.false_ne_true
  | constant name =>
    rw [filling] at marked
    exact absurd ((isPlaceholder_reference name).symm.trans marked) Bool.false_ne_true
  | missing what => exact ⟨what, rfl⟩

/-- The parameters of all tags read like values to be filled in only where values are missing. -/
def Draft.Legible (d : Draft) : Prop := ∀ t ∈ d.tags, ∀ p ∈ t.parameters, p.Legible

@[simp] theorem Constant.entity_type (fingerprint : String) (c : Constant) :
    (c.entity fingerprint).type = .str "c" := by
  simp [entity, toJson, owned, Entity.type, Entity.ofJson, Entity.ofJson?, Entity.get, Entity.get?, Json.lookup]

@[simp] theorem EventVariable.entity_type (fingerprint : String) (v : EventVariable) :
    (v.entity fingerprint).type = .str "ed" := by
  simp [entity, toJson, owned, Entity.type, Entity.ofJson, Entity.ofJson?, Entity.get, Entity.get?, Json.lookup]

/-- The parameters of an exported tag are read as they are written. -/
theorem ServerTag.entity_parameters (fingerprint : String) (t : ServerTag) :
    ((t.entity fingerprint).get "parameter").items.filterMap Entity.ofJson? = t.parameters.map Parameter.entity := by
  have parameters : (t.entity fingerprint).get "parameter" = .arr (t.parameters.map Parameter.toJson) := by
    simp [entity, toJson, owned, Entity.ofJson, Entity.ofJson?, Entity.get, Entity.get?, Json.lookup]
  rw [parameters, Json.items, List.filterMap_map, ← List.filterMap_eq_map]
  exact List.filterMap_congr fun p _ => p.ofJson?_toJson

/-- A value that waits to be filled in. -/
def openValue? (value : Json) : Option String := value.text?.filter isPlaceholder

/-- The constants of a document that wait for a value. -/
def openConstants (e : Container) : List Gap :=
  (e.userVariables.filter fun v => v.type.isStr "c").filterMap fun v =>
    (openValue? (v.parameterValue "value")).map fun value => ⟨v.name, value⟩

/-- The parameters of the tags of a document that wait for a value. -/
def openParameters (e : Container) : List Gap :=
  e.tags.flatMap fun t => ((t.get "parameter").items.filterMap Entity.ofJson?).filterMap fun p =>
    (openValue? (p.get "value")).map fun value => ⟨t.name ++ " > " ++ (p.get "key").textOrEmpty, value⟩

namespace Draft

variable (includePaused : Bool) (source : Option String) (fingerprint name exportTime : String)

theorem toContainer_openConstants (d : Draft) :
    openConstants (d.toContainer includePaused source fingerprint name exportTime) = d.constantGaps := by
  have constants : (d.constants.map (Constant.entity fingerprint)).filter (fun v => v.type.isStr "c") =
      d.constants.map (Constant.entity fingerprint) := by
    refine List.filter_eq_self.mpr fun v member => ?_
    obtain ⟨c, _, rfl⟩ := List.mem_map.mp member
    rw [Constant.entity_type]
    rfl
  have others :
      (d.eventVariables.map (EventVariable.entity fingerprint)).filter (fun v => v.type.isStr "c") = [] := by
    refine List.filter_eq_nil_iff.mpr fun v member => ?_
    obtain ⟨c, _, rfl⟩ := List.mem_map.mp member
    rw [EventVariable.entity_type]
    decide
  rw [openConstants, toContainer_userVariables, List.filter_append, constants, others, List.append_nil,
    List.filterMap_map, constantGaps, ← List.filterMap_eq_map, List.filterMap_filter]
  refine List.filterMap_congr fun c _ => ?_
  rw [Function.comp_apply, Constant.entity_value, openValue?, Json.text?, Option.filter_some, Entity.name,
    Constant.entity_name]
  split <;> rfl

/-- In a draft whose parameters are legible the values to be filled in are told by their marks, and they are those
that have been noted. -/
theorem Legible.toContainer_openParameters {d : Draft} (legible : d.Legible) (noted : d.Noted) :
    openParameters (d.toContainer includePaused source fingerprint name exportTime) = d.tagGaps := by
  rw [openParameters, toContainer_tags, List.flatMap_map, noted]
  refine List.flatMap_congr fun t isTag => ?_
  rw [ServerTag.entity_parameters, List.filterMap_map, gapsOf]
  refine List.filterMap_congr fun p member => ?_
  have value : p.entity.get "value" = .str p.filling.value := p.entity_value
  rw [Function.comp_apply, value, openValue?, Json.text?, Option.filter_some, Entity.name, ServerTag.entity_name,
    Parameter.entity_key]
  cases marked : isPlaceholder p.filling.value with
  | true =>
    obtain ⟨what, missing⟩ := legible t isTag p member marked
    rw [missing]
    rfl
  | false =>
    cases filling : p.filling with
    | missing what =>
      rw [filling, Filling.value, isPlaceholder_placeholder] at marked
      cases marked
    | _ => rfl

end Draft

end TagAudit.Server

namespace TagAudit.ServerGenerator

open Server

theorem draftOf_legible (g : ServerGenerator) (s : Selection) : (g.draftOf s).Legible :=
  fun t isTag p member => Parameter.legible_of_wired (g.draftOf_wired s t isTag p member)

theorem draftOf_noted (g : ServerGenerator) (s : Selection) : (g.draftOf s).Noted := g.foldl_noted s Step.all

/-- A summary lists the constants that wait for a value, and then what was noted while the tags were made. That is
what the exported document still has to be filled in with: its constants and its parameters of tags that wait for a
value. -/
theorem generate_placeholders {g : ServerGenerator} {s : Selection} (selected : g.selection = .ok s)
    (includePaused : Bool) (source : Option String) : ∃ d document e summary, g.draft = .ok d ∧
      g.generate = .ok document ∧ Container.ofJson document includePaused source = .ok e ∧
      e.get "variable" = .arr (e.userVariables.map Entity.toJson) ∧ e.get "tag" = .arr (e.tags.map Entity.toJson) ∧
      ServerGenerator.summary (some d) = .ok summary ∧
      summary.field "placeholders" = .arr ((openConstants e ++ openParameters e).map Gap.toJson) := by
  have drafted := draft_of_selection selected
  refine ⟨_, _, _, _, drafted, generate_of_draft drafted, ofJson_exportOf _ s includePaused source, ?_,
    (g.reread_complete s includePaused source).tags_read, rfl, ?_⟩
  · rw [reread, Draft.toContainer_get_variable, Draft.toContainer_userVariables]
    simp only [List.map_append, List.map_map]
    rfl
  · rw [reread, Draft.toContainer_openConstants,
      (g.draftOf_legible s).toContainer_openParameters _ _ _ _ _ (g.draftOf_noted s)]
    rfl

/-- A tag of GA4 without an identifier, to be sent to a server without an address. -/
def unmeasured : ServerGenerator :=
  let tags := Json.arr [.obj [("name", "View"), ("type", "gaawe")]]
  { container := ⟨[("containerVersion", .obj [("tag", tags)])], [("tag", tags)], true, none, rfl⟩
    analysis := [("tagsToMigrate", tags)]
    vendors := []
    catalog := []
    moment := ⟨2024, 1, 15, 12, 30, 45, 0⟩
    address := none }

/-- The address is left to be filled in, and the identifier in two tags. -/
theorem unmeasured_placeholders : ∃ s d document e summary, unmeasured.selection = .ok s ∧
    unmeasured.draft = .ok d ∧ unmeasured.generate = .ok document ∧
    Container.ofJson document true none = .ok e ∧ ServerGenerator.summary (some d) = .ok summary ∧
    summary.field "placeholders" = .arr ((openConstants e ++ openParameters e).map Gap.toJson) ∧
    (openConstants e).map (·.name) = ["const - transport url"] ∧
    (openParameters e).map (·.name) =
      ["SSG - GA4 - All Events > measurementId", "SSG - GA4 - unknown_event > measurementId"] := by
  have selected : unmeasured.selection = .ok (Selection.ofAll unmeasured.analysis) := rfl
  obtain ⟨d, document, e, summary, drafted, generated, read, _, _, summarized, placeholders⟩ :=
    generate_placeholders selected true none
  obtain rfl : e = unmeasured.reread (Selection.ofAll unmeasured.analysis) true none := by
    cases (generate_of_draft (draft_of_selection selected)).symm.trans generated
    exact Except.ok.inj (read.symm.trans (ofJson_exportOf _ _ _ _))
  exact ⟨_, d, document, _, summary, selected, drafted, generated, read, summarized, placeholders,
    by decide +kernel, by decide +kernel⟩

end TagAudit.ServerGenerator

import TagAudit.Dashboard.Cards
import TagAudit.Dashboard.Figures
import TagAudit.Proofs.Cleanup.Redirection
import TagAudit.Proofs.Dashboard.Order
import TagAudit.Proofs.Dependency.Colors
import TagAudit.Proofs.Rules.Isolation
import TagAudit.Report

namespace TagAudit

theorem Issue.lookup_toJson {i : Issue} (keeps : i.keepsFields = true) {key : String}
    (common : key ∉ Issue.furtherFields) (fields : List (String × Json)) :
    Json.lookup (Json.assignAll fields i.extra) key = Json.lookup fields key :=
  Json.lookup_assignAll (Issue.lookup_extra keeps common) fields

namespace IssueRow

theorem keyed_ofIssue {i : Issue} (keeps : i.keepsFields = true) : (ofEntity (.ofJson i.toJson)).Keyed := by
  have own (c : IssueColumn) (common : c.field ∉ Issue.furtherFields) (fields : List (String × Json)) :
      (Entity.mk (Json.assignAll fields i.extra)).getOr c.field c.default =
        (Entity.mk fields).getOr c.field c.default := by
    rw [Entity.getOr, Entity.get?, Issue.lookup_toJson keeps common, Entity.getOr, Entity.get?]
  constructor
  · exact (congrArg Json.isText (own .severity (by decide) _)).trans rfl
  · exact (congrArg Json.isText (own .category (by decide) _)).trans rfl

/-- The issues of a report can be shown in a table. -/
theorem exists_ofReport {r : Report} (keeps : ∀ i ∈ r.rules.found.issues, i.keepsFields = true) :
    ∃ rows, ofReport r.toJson = .ok rows := by
  have lists : r.toJson.ListsIssues (r.rules.found.issues.map fun i => .ofJson i.toJson) := by
    refine ⟨_, rfl, ?_⟩
    rw [List.map_map]
    rfl
  exact ⟨_, inFrame_eq Column.convert_lawful lists
    (List.forall_mem_map.mpr fun i member => keyed_ofIssue (keeps i member))⟩

end IssueRow

theorem Figures.exists_scoresOf (r : Report) : ∃ scores, scoresOf r.toJson = .ok scores := ⟨_, rfl⟩

namespace Card

theorem exists_ofRecommendations (r : Report) : ∃ cards, ofRecommendations r.toJson = .ok cards := by
  have read : r.toJson.getFieldOr "recommendations" (.arr []) =
      .ok (.arr (r.recommendations.map Recommendation.toJson)) := rfl
  rw [ofRecommendations, read]
  refine exists_mapM fun advice member => ?_
  obtain ⟨recommendation, _, rfl⟩ := List.mem_map.mp member
  exact ⟨_, rfl⟩

theorem exists_ofUnusedKind {unused : Json} {kind : String} {names : List Json}
    (read : unused.getFieldOr kind (.arr []) = .ok (.arr names)) : ∃ card, ofUnusedKind unused kind = .ok card := by
  rw [ofUnusedKind, read, ok_bind]
  split
  · exact ⟨none, rfl⟩
  · exact ⟨_, rfl⟩

theorem exists_ofUnused (r : Report) : ∃ cards, ofUnused r.toJson = .ok cards := by
  let unused := Json.obj (r.container.unused.map fun row => (row.1, Report.namesJson row.2))
  have read : r.toJson.getFieldOr "unused" (.obj []) = .ok unused := rfl
  rw [ofUnused, read]
  refine exists_filterMapM fun kind member => ?_
  have named : ∃ names, unused.getFieldOr kind (.arr []) = .ok (.arr names) := by
    simp only [unusedKinds, List.mem_cons, List.not_mem_nil, or_false] at member
    rcases member with rfl | rfl | rfl | rfl | rfl <;> exact ⟨_, rfl⟩
  obtain ⟨names, names_read⟩ := named
  exact exists_ofUnusedKind names_read

theorem exists_ofSuggestions (r : Report) : ∃ cards, ofSuggestions r.toJson = .ok cards := by
  have read : r.toJson.getFieldOr "suggestions" (.arr []) =
      .ok (.arr (r.rules.found.suggestions.map Suggestion.toJson)) := rfl
  have lines : ∃ lines, (r.rules.found.suggestions.map Suggestion.toJson).mapM suggestionLine = .ok lines := by
    refine exists_mapM fun suggestion member => ?_
    obtain ⟨s, _, rfl⟩ := List.mem_map.mp member
    exact ⟨_, rfl⟩
  obtain ⟨lines, written⟩ := lines
  rw [ofSuggestions, read, ok_bind]
  split
  · exact ⟨[], rfl⟩
  · rw [Json.elements, ok_bind, written, ok_bind]
    exact ⟨_, rfl⟩

/-- The line about a group of duplicates puts their names together. -/
theorem groupLine_needs (kind signature : String) (group : List Entity) :
    Needs (groupLine kind (.obj [("signature", signature), ("names", Report.namesJson group)])) .notJoinable
      (∀ e ∈ group, e.rawName.isText = true) := by
  have names := Json.joinTexts_needs ", " (group.map Entity.rawName)
  rw [List.forall_mem_map] at names
  exact names.bind_ok fun line _ => ⟨_, rfl⟩

theorem ofDuplicates_needs (r : Report) : Needs (ofDuplicates r.toJson) .notJoinable
    (∀ kind, ∀ row ∈ r.container.duplicates kind, ∀ e ∈ row.2, e.rawName.isText = true) := by
  have read : r.toJson.getFieldOr "duplicates" (.obj []) = .ok (Report.duplicatesJson r.container) := rfl
  let groups (kind : Comparable) : List Json := (r.container.duplicates kind).map fun row =>
    .obj [("signature", row.1), ("names", Report.namesJson row.2)]
  have lines : Needs ((Comparable.all.map fun kind => (kind.label, Json.arr (groups kind))).mapM
      fun row => do (← row.2.elements).mapM (groupLine row.1)) .notJoinable
      (∀ kind ∈ Comparable.all, ∀ row ∈ r.container.duplicates kind, ∀ e ∈ row.2, e.rawName.isText = true) := by
    rw [List.mapM_map]
    refine Needs.mapM fun kind _ => ?_
    have ofKind : Needs ((groups kind).mapM (groupLine kind.label)) .notJoinable
        (∀ row ∈ r.container.duplicates kind, ∀ e ∈ row.2, e.rawName.isText = true) := by
      rw [List.mapM_map]
      exact Needs.mapM fun row _ => groupLine_needs kind.label row.1 row.2
    exact ofKind
  have every : ∀ kind, kind ∈ Comparable.all := by
    intro kind
    cases kind <;> decide
  rw [ofDuplicates, read]
  refine (lines.bind_ok fun found _ => ?_).congr (forall_congr' fun kind => imp_iff_right (every kind))
  dsimp only
  split
  · exact ⟨[], rfl⟩
  · exact ⟨_, rfl⟩

theorem ofReport_needs (r : Report) : Needs (ofReport r.toJson) .notJoinable
    (∀ kind, ∀ row ∈ r.container.duplicates kind, ∀ e ∈ row.2, e.rawName.isText = true) := by
  obtain ⟨recommendations, first⟩ := exists_ofRecommendations r
  obtain ⟨unused, second⟩ := exists_ofUnused r
  obtain ⟨suggestions, last⟩ := exists_ofSuggestions r
  rw [ofReport, first, ok_bind, second, ok_bind]
  refine (ofDuplicates_needs r).bind_ok fun duplicates _ => ?_
  rw [last]
  exact ⟨_, rfl⟩

end Card

namespace Container

/-- The names of all duplicates are texts. -/
def NamesDuplicates (c : Container) : Prop :=
  ∀ kind, ∀ row ∈ c.duplicates kind, ∀ e ∈ row.2, e.rawName.isText = true

/-- The issues and the scores of a report can be shown whatever the container holds. Its advice can be shown exactly
if the names of all duplicates are texts, and the graph of the container can be drawn exactly if every variable
that it looks at has a type with a color. -/
theorem report_shown_iff (c : Container) (config : RulesConfig) (moment : Moment) (limit : Int) :
    let report := (Report.ofContainer c config moment).toJson
    (∃ rows, IssueRow.ofReport report = .ok rows) ∧
    (∃ scores, Figures.scoresOf report = .ok scores) ∧
    ((∃ cards, Card.ofReport report = .ok cards) ↔ c.NamesDuplicates) ∧
    (∀ fault, Card.ofReport report = .error fault ↔ fault = .notJoinable ∧ ¬c.NamesDuplicates) ∧
    ((∃ g, DependencyGraph.ofContainer c limit = .ok g) ↔ c.Drawable limit) ∧
    ∀ fault, DependencyGraph.ofContainer c limit = .error fault ↔ fault = .notText ∧ ¬c.Drawable limit := by
  intro report
  have cards : Needs (Card.ofReport report) .notJoinable c.NamesDuplicates :=
    Card.ofReport_needs (Report.ofContainer c config moment)
  have graph := c.drawable_needs limit
  have rows : ∃ rows, IssueRow.ofReport report = .ok rows :=
    IssueRow.exists_ofReport (RulesEngine.runAll_keepsFields (.start c config))
  exact ⟨rows, Figures.exists_scoresOf _, cards.returns_iff, cards.error_iff, graph.returns_iff, graph.error_iff⟩

/-- A tag whose name is a number, and which refers to a variable. -/
def numberedTag (id : String) : Entity :=
  ⟨[("tagId", .str id), ("name", .int 5), ("type", "html"),
    ("parameter", .arr [.obj [("type", "TEMPLATE"), ("key", "html"), ("value", "\x7b\x7bA\x7d\x7d")]])]⟩

/-- The fields of a container version with two copies of a tag, and a variable whose type is a number. -/
def numberedVersion : List (String × Json) :=
  [("tag", .arr [(numberedTag "1").toJson, (numberedTag "2").toJson]),
    ("variable", .arr [.obj [("variableId", "1"), ("name", "A"), ("type", .int 5)]])]

def numbered : Container := ⟨[("containerVersion", .obj numberedVersion)], numberedVersion, true, none, rfl⟩

/-- The container is accepted, no advice on it can be shown, and its graph cannot be drawn. -/
theorem numbered_refused : Container.ofJson (.obj numbered.document) true none = .ok numbered ∧
    (∀ config moment, Card.ofReport (Report.ofContainer numbered config moment).toJson = .error .notJoinable) ∧
    DependencyGraph.ofContainer numbered 500 = .error .notText := by
  have alike : Comparable.tags.signature (numberedTag "2") = Comparable.tags.signature (numberedTag "1") := rfl
  have looked : numbered.entitiesOf .tags = [numberedTag "1", numberedTag "2"] := rfl
  have unnamed : ¬numbered.NamesDuplicates := by
    intro named
    have row : (Comparable.tags.signature (numberedTag "1"), [numberedTag "1", numberedTag "2"]) ∈
        numbered.duplicates .tags := by
      simp [duplicates, looked, groupBy, distinct, alike]
    exact Bool.false_ne_true (named .tags _ row (numberedTag "1") List.mem_cons_self)
  exact ⟨rfl, fun config moment => (Card.ofReport_needs _).fails unnamed, rfl⟩

end Container

end TagAudit

import Mathlib.Data.List.Perm.Basic
import Mathlib.Data.List.Forall2
import TagAudit.BestPractices

namespace TagAudit

namespace Grievance

/-- The costs of some findings, by severity. -/
theorem sumOf_cost (found : List Grievance) : sumOf (found.map cost) =
    15 * found.count error + 5 * found.count warning + 2 * found.count info := by
  induction found with
  | nil => rfl
  | cons g rest ih =>
    have first : sumOf ((g :: rest).map cost) = g.cost + sumOf (rest.map cost) := rfl
    rw [first, ih]
    cases g <;> simp [cost] <;> omega

theorem length_eq (found : List Grievance) :
    found.length = found.count error + found.count warning + found.count info := by
  induction found with
  | nil => rfl
  | cons g rest ih =>
    rw [List.length_cons, ih]
    cases g <;> simp <;> omega

end Grievance

namespace BestPractices

variable {tags tags' triggers triggers' userVariables userVariables' folders folders' : List Entity}

/-- The severities of the findings, in their order. Score and summary depend on nothing else. -/
def severities (b : BestPractices) : List Grievance := b.issues.map (·.severity)

theorem countOf_eq (b : BestPractices) (g : Grievance) : b.countOf g = b.severities.count g := by
  rw [countOf, severities, List.count, List.countP_map, List.countP_eq_length_filter]
  rfl

theorem score_eq (b : BestPractices) :
    b.score = 100 - (15 * b.countOf .error + 5 * b.countOf .warning + 2 * b.countOf .info) := by
  have costs : b.issues.map (·.severity.cost) = b.severities.map Grievance.cost := by
    rw [severities, List.map_map]
    rfl
  rw [score, costs, Grievance.sumOf_cost, countOf_eq, countOf_eq, countOf_eq]

theorem total_eq (b : BestPractices) :
    b.issues.length = b.countOf .error + b.countOf .warning + b.countOf .info := by
  have same : b.issues.length = b.severities.length := by rw [severities, List.length_map]
  rw [same, Grievance.length_eq, countOf_eq, countOf_eq, countOf_eq]

/-- The names of some entities; entities whose name is no text have none. -/
def names (entities : List Entity) : List String := entities.filterMap fun e => (e.get "name").text?

theorem repeatedFrom_eq_nil_iff {seen named : List String} :
    repeatedFrom seen named = [] ↔ named.Nodup ∧ ∀ name ∈ named, name ∉ seen := by
  induction named generalizing seen with
  | nil => simp [repeatedFrom]
  | cons name rest ih =>
    by_cases again : name ∈ seen
    · simp [repeatedFrom, again]
    · rw [repeatedFrom, if_neg (by simpa using again), ih, List.nodup_cons]
      constructor
      · rintro ⟨once, fresh⟩
        refine ⟨⟨fun member => fresh name member List.mem_cons_self, once⟩, ?_⟩
        intro other member
        rcases List.mem_cons.mp member with rfl | later
        · exact again
        · exact fun old => fresh other later (List.mem_cons_of_mem name old)
      · rintro ⟨⟨absent, once⟩, fresh⟩
        refine ⟨once, fun other member => ?_⟩
        rw [List.mem_cons, not_or]
        exact ⟨fun same => absent (same ▸ member), fresh other (List.mem_cons_of_mem name member)⟩

/-- Names are reported as repeated exactly where the names are not distinct. -/
theorem repeatedNames_isEmpty_iff {entities : List Entity} :
    (repeatedNames entities).isEmpty = true ↔ (names entities).Nodup := by
  have kept (found : List String) : distinct found = [] ↔ found = [] := by
    cases found <;> simp [distinct]
  rw [List.isEmpty_iff, repeatedNames, kept, repeatedFrom_eq_nil_iff]
  simp [names]

theorem repeatedNames_isEmpty_perm (perm : tags.Perm tags') :
    (repeatedNames tags).isEmpty = (repeatedNames tags').isEmpty := by
  rw [Bool.eq_iff_iff, repeatedNames_isEmpty_iff, repeatedNames_isEmpty_iff]
  exact (perm.filterMap _).nodup_iff

/-- The repeated names are listed in another order, in a finding of the same severity. -/
theorem repeatedIssue_perm (perm : tags.Perm tags') (kind : String) :
    (repeatedIssue tags kind).map (·.severity) = (repeatedIssue tags' kind).map (·.severity) := by
  have same := repeatedNames_isEmpty_perm perm
  cases empty : (repeatedNames tags).isEmpty with
  | true => simp [repeatedIssue, ← same, empty]
  | false => simp [repeatedIssue, ← same, empty]

/-- The findings that are not about one tag, which follow those that are. -/
def otherIssues (tags triggers userVariables folders : List Entity) : List PracticeIssue :=
  (ofEntities tags triggers userVariables folders).issues.drop (tags.flatMap tagIssues).length

theorem issues_eq (tags triggers userVariables folders : List Entity) :
    (ofEntities tags triggers userVariables folders).issues =
      tags.flatMap tagIssues ++ otherIssues tags triggers userVariables folders := by
  simp only [otherIssues, ofEntities, List.append_assoc, List.drop_left]

/-- The findings on a workspace have the same severities in any order of its entities. -/
theorem severities_perm (inTags : tags.Perm tags') (inTriggers : triggers.Perm triggers')
    (inVariables : userVariables.Perm userVariables') (inFolders : folders.Perm folders') :
    (ofEntities tags triggers userVariables folders).severities.Perm
      (ofEntities tags' triggers' userVariables' folders').severities := by
  have none : folders.isEmpty = folders'.isEmpty := by
    rw [Bool.eq_iff_iff, List.isEmpty_iff, List.isEmpty_iff]
    exact ⟨fun h => (h ▸ inFolders).nil_eq.symm, fun h => (h ▸ inFolders).eq_nil⟩
  rw [severities, severities, issues_eq, issues_eq, List.map_append, List.map_append]
  refine ((inTags.flatMap_right _).map _).append ?_
  simp only [otherIssues, ofEntities, List.append_assoc, List.drop_left, List.map_append,
    repeatedIssue_perm inTriggers, repeatedIssue_perm inTags, inTags.any_eq, inTags.length_eq, none]
  -- What is left differs in the order of the variables alone.
  refine List.Perm.append_left _ (List.Perm.append_left _ (List.Perm.append_right _ ?_))
  exact (inVariables.flatMap_right _).map _

theorem flatMap_ite {α β : Type} (p : α → Bool) (f : α → β) (xs : List α) :
    (xs.flatMap fun a => if p a then [f a] else []) = (xs.filter p).map f := by
  induction xs with
  | nil => rfl
  | cons a rest ih => cases holds : p a <;> simp [holds, ih]

/-- The findings of a type. -/
def ofType (type : String) (issues : List PracticeIssue) : List PracticeIssue :=
  issues.filter (·.type == type)

/-- The types of the findings that are not about one tag. -/
def otherTypes : List String :=
  ["duplicate_trigger_names", "duplicate_tag_names", "variable_naming", "missing_analytics",
    "deprecated_ua", "folder_organization"]

theorem eq_of_mem_ite {α : Type} {p : Prop} [Decidable p] {a b : α}
    (member : a ∈ if p then [b] else []) : a = b :=
  List.mem_singleton.mp (List.mem_ite_nil_right.mp member).2

theorem type_of_mem_repeatedIssue {i : PracticeIssue} {kind : String}
    (member : i ∈ repeatedIssue tags kind) : i.type = "duplicate_" ++ kind ++ "_names" := by
  unfold repeatedIssue at member
  dsimp only at member
  split at member
  · cases member
  · rw [List.mem_singleton.mp member]

theorem type_of_mem_variableIssues {i : PracticeIssue} {v : Entity}
    (member : i ∈ variableIssues v) : i.type = "variable_naming" := by
  rw [eq_of_mem_ite member]

theorem type_mem_otherTypes {i : PracticeIssue}
    (member : i ∈ otherIssues tags triggers userVariables folders) : i.type ∈ otherTypes := by
  simp only [otherIssues, ofEntities, List.append_assoc, List.drop_left, List.mem_append,
    List.mem_flatMap] at member
  rcases member with trigger | tag | ⟨v, _, naming⟩ | missing | deprecated | unfoldered
  · rw [type_of_mem_repeatedIssue trigger]
    decide
  · rw [type_of_mem_repeatedIssue tag]
    decide
  · rw [type_of_mem_variableIssues naming]
    decide
  · rw [eq_of_mem_ite missing]
    decide
  · rw [eq_of_mem_ite deprecated]
    decide
  · rw [eq_of_mem_ite unfoldered]
    decide

theorem ofType_otherIssues {type : String} (other : type ∉ otherTypes) :
    ofType type (otherIssues tags triggers userVariables folders) = [] := by
  rw [ofType, List.filter_eq_nil_iff]
  intro i member same
  exact other (beq_iff_eq.mp same ▸ type_mem_otherTypes member)

theorem ofType_issues {type : String} (other : type ∉ otherTypes) :
    ofType type (ofEntities tags triggers userVariables folders).issues =
      tags.flatMap fun tag => ofType type (tagIssues tag) := by
  rw [issues_eq, ofType, List.filter_append, ← ofType, ← ofType, ofType_otherIssues other,
    List.append_nil, ofType, List.filter_flatMap]
  rfl

theorem withoutTriggers_issues :
    ofType "tag_without_trigger" (ofEntities tags triggers userVariables folders).issues =
      (tags.filter isWithoutTriggers).map fun tag =>
        aboutTag tag .warning "tag_without_trigger" "\" has no firing triggers"
          "Add a firing trigger or delete the tag if unused" := by
  rw [ofType_issues (by decide), ← flatMap_ite]
  refine List.flatMap_congr fun tag _ => ?_
  simp [ofType, tagIssues, aboutTag, apply_ite (List.filter _)]

theorem paused_issues :
    ofType "paused_tag" (ofEntities tags triggers userVariables folders).issues =
      (tags.filter isPaused).map fun tag =>
        aboutTag tag .info "paused_tag" "\" is paused"
          "Unpause if needed or delete if no longer required" := by
  rw [ofType_issues (by decide), ← flatMap_ite]
  refine List.flatMap_congr fun tag _ => ?_
  simp [ofType, tagIssues, aboutTag, apply_ite (List.filter _)]

theorem ite_sublist {α : Type} {p : Prop} [Decidable p] {xs ys zs : List α}
    (holds : xs.Sublist zs) (fails : ys.Sublist zs) : (if p then xs else ys).Sublist zs := by
  split
  · exact holds
  · exact fails

/-- The advice that a workspace can get, in the order in which it is given. -/
def possibleAdvice : List String :=
  ["Add a GA4 configuration tag for analytics tracking"] ++ ["Migrate Universal Analytics tags to GA4"] ++
  ["Create folders to organize tags and triggers"] ++
  (["Workspace follows best practices!"] ++
    (["Clean up tags without triggers"] ++ ["Address warnings to improve workspace quality"])) ++
  ["Consider auditing tags, large numbers of tags can impact performance"]

theorem recommendations_sublist :
    (ofEntities tags triggers userVariables folders).recommendations.Sublist possibleAdvice := by
  have given {text : String} {p : Prop} [Decidable p] : (if p then [text] else []).Sublist [text] :=
    ite_sublist (List.Sublist.refl _) (List.nil_sublist _)
  have spared {text : String} {p : Prop} [Decidable p] : (if p then [] else [text]).Sublist [text] :=
    ite_sublist (List.nil_sublist _) (List.Sublist.refl _)
  refine (((given.append given).append given).append (ite_sublist ?_ ?_)).append given
  · exact List.sublist_append_left _ _
  · exact (spared.append given).trans (List.sublist_append_right _ _)

theorem recommendations_nodup :
    (ofEntities tags triggers userVariables folders).recommendations.Nodup :=
  recommendations_sublist.nodup (by decide)

/-- The grading of a workspace whose tags, triggers, variables and folders are given by any values. -/
def ofJson (tags triggers userVariables folders : Json) : BestPractices :=
  ofEntities (objects tags) (objects triggers) (objects userVariables) (objects folders)

/-- The findings in a document whose field has a value. -/
def findings (document : Json) (key value : String) : List Json :=
  (document.field "issues").items.filter fun issue => (issue.field key).isStr value

/-- A finding in a document names a tag. -/
structure IsAbout (issue : Json) (tag : Entity) : Prop where
  id : issue.field "entityId" = .str (tag.idOrEmpty "tagId")
  name : issue.field "entityName" = .str tag.name
  kind : issue.field "entityType" = .str "tag"

/-- The figures in the document of a grading are those of its findings and of the tags. -/
structure Accounts (document : Json) (tags : List Entity) : Prop where
  errors : (document.field "summary").field "errors" = .int (findings document "severity" "error").length
  warnings : (document.field "summary").field "warnings" =
    .int (findings document "severity" "warning").length
  info : (document.field "summary").field "info" = .int (findings document "severity" "info").length
  total : (document.field "summary").field "totalIssues" = .int (document.field "issues").items.length
  sum : (document.field "issues").items.length = (findings document "severity" "error").length +
    (findings document "severity" "warning").length + (findings document "severity" "info").length
  score : document.field "score" = .int (max 0 (100 - 15 * (findings document "severity" "error").length -
    5 * (findings document "severity" "warning").length - 2 * (findings document "severity" "info").length))
  withoutTriggers : List.Forall₂ IsAbout (findings document "type" "tag_without_trigger")
    (tags.filter isWithoutTriggers)
  withoutTriggers_counted : ((document.field "stats").field "tags").field "withoutTriggers" =
    .int (tags.filter isWithoutTriggers).length
  paused : List.Forall₂ IsAbout (findings document "type" "paused_tag") (tags.filter isPaused)
  paused_counted : ((document.field "stats").field "tags").field "paused" =
    .int (tags.filter isPaused).length
  recommendations : ∃ advice : List String, advice.Nodup ∧
    document.field "recommendations" = Json.texts advice

theorem field_severity (i : PracticeIssue) (g : Grievance) :
    (i.toJson.field "severity").isStr g.label = (i.severity == g) := by
  have written : i.toJson.field "severity" = .str i.severity.label := rfl
  rw [written]
  cases i.severity <;> cases g <;> rfl

theorem items_issues (b : BestPractices) :
    (b.toJson.field "issues").items = b.issues.map PracticeIssue.toJson := rfl

theorem findings_severity (b : BestPractices) (g : Grievance) :
    (findings b.toJson "severity" g.label).length = b.countOf g := by
  rw [findings, items_issues, List.filter_map, List.length_map, countOf]
  exact congrArg List.length (List.filter_congr fun i _ => field_severity i g)

theorem findings_type (b : BestPractices) (type : String) :
    findings b.toJson "type" type = (ofType type b.issues).map PracticeIssue.toJson := by
  rw [findings, items_issues, List.filter_map, ofType]
  rfl

theorem forall₂_map_self {α β : Type} {R : β → α → Prop} {f : α → β} {xs : List α}
    (related : ∀ a ∈ xs, R (f a) a) : List.Forall₂ R (xs.map f) xs := by
  rw [List.forall₂_map_left_iff, List.forall₂_same]
  exact related

theorem length_issues (b : BestPractices) : (b.toJson.field "issues").items.length =
    (findings b.toJson "severity" "error").length + (findings b.toJson "severity" "warning").length +
      (findings b.toJson "severity" "info").length := by
  have total := total_eq b
  rw [← findings_severity, ← findings_severity, ← findings_severity] at total
  rw [items_issues, List.length_map]
  exact total

theorem field_totalIssues (b : BestPractices) : (b.toJson.field "summary").field "totalIssues" =
    .int (b.toJson.field "issues").items.length := by
  rw [items_issues, List.length_map]
  rfl

theorem field_score (b : BestPractices) : b.toJson.field "score" =
    .int (max 0 (100 - 15 * (findings b.toJson "severity" "error").length -
      5 * (findings b.toJson "severity" "warning").length -
      2 * (findings b.toJson "severity" "info").length)) := by
  have score := score_eq b
  rw [← findings_severity, ← findings_severity, ← findings_severity] at score
  have written : b.toJson.field "score" = .int b.score := rfl
  rw [written, score]
  refine congrArg Json.int ?_
  simp only [Grievance.label]
  omega

theorem findings_withoutTriggers :
    List.Forall₂ IsAbout
      (findings (ofEntities tags triggers userVariables folders).toJson "type" "tag_without_trigger")
      (tags.filter isWithoutTriggers) := by
  rw [findings_type, withoutTriggers_issues, List.map_map]
  exact forall₂_map_self fun tag _ => ⟨rfl, rfl, rfl⟩

theorem findings_paused :
    List.Forall₂ IsAbout
      (findings (ofEntities tags triggers userVariables folders).toJson "type" "paused_tag")
      (tags.filter isPaused) := by
  rw [findings_type, paused_issues, List.map_map]
  exact forall₂_map_self fun tag _ => ⟨rfl, rfl, rfl⟩

/-- The document of a grading accounts for its findings. -/
theorem accounts (tags triggers userVariables folders : List Entity) :
    Accounts (ofEntities tags triggers userVariables folders).toJson tags where
  errors := congrArg (fun n : Nat => Json.int n) (findings_severity _ .error).symm
  warnings := congrArg (fun n : Nat => Json.int n) (findings_severity _ .warning).symm
  info := congrArg (fun n : Nat => Json.int n) (findings_severity _ .info).symm
  total := field_totalIssues _
  sum := length_issues _
  score := field_score _
  withoutTriggers := findings_withoutTriggers
  withoutTriggers_counted := rfl
  paused := findings_paused
  paused_counted := rfl
  recommendations := ⟨_, recommendations_nodup, rfl⟩

/-- The score, the summary and the statistics are the same in any order of the entities. -/
theorem field_perm (inTags : tags.Perm tags') (inTriggers : triggers.Perm triggers')
    (inVariables : userVariables.Perm userVariables') (inFolders : folders.Perm folders')
    {key : String} (figures : key ∈ ["score", "summary", "stats"]) :
    (ofEntities tags triggers userVariables folders).toJson.field key =
      (ofEntities tags' triggers' userVariables' folders').toJson.field key := by
  have perm := severities_perm inTags inTriggers inVariables inFolders
  have count (g : Grievance) : (ofEntities tags triggers userVariables folders).countOf g =
      (ofEntities tags' triggers' userVariables' folders').countOf g := by
    rw [countOf_eq, countOf_eq, perm.count_eq]
  simp only [List.mem_cons, List.not_mem_nil, or_false] at figures
  rcases figures with rfl | rfl | rfl
  · refine congrArg (fun n : Nat => Json.int n) ?_
    rw [score_eq, score_eq, count, count, count]
  · have summary (b : BestPractices) : b.toJson.field "summary" =
        .obj [("totalIssues", b.issues.length), ("errors", b.countOf .error),
          ("warnings", b.countOf .warning), ("info", b.countOf .info)] := rfl
    rw [summary, summary, total_eq, total_eq, count, count, count]
  · have stats (tags triggers userVariables folders : List Entity) :
        (ofEntities tags triggers userVariables folders).toJson.field "stats" =
          .obj [("tags", .obj [("total", tags.length), ("paused", (tags.filter isPaused).length),
              ("withoutTriggers", (tags.filter isWithoutTriggers).length)]),
            ("triggers", .obj [("total", triggers.length)]),
            ("variables", .obj [("total", userVariables.length)]),
            ("folders", .obj [("total", folders.length)])] := rfl
    rw [stats, stats, inTags.length_eq, (inTags.filter isPaused).length_eq,
      (inTags.filter isWithoutTriggers).length_eq, inTriggers.length_eq, inVariables.length_eq,
      inFolders.length_eq]

/-- The figures in the grading of a workspace, whose parts may be any values, are those of its findings
and tags, its advice has no repetition, and its score, summary and statistics do not depend on the
order of its tags, triggers, variables and folders. -/
theorem ofJson_accounts (tags triggers userVariables folders : Json) :
    Accounts (ofJson tags triggers userVariables folders).toJson (objects tags) ∧
      ∀ tags' triggers' userVariables' folders' : Json, tags.items.Perm tags'.items →
        triggers.items.Perm triggers'.items → userVariables.items.Perm userVariables'.items →
        folders.items.Perm folders'.items → ∀ key ∈ ["score", "summary", "stats"],
          (ofJson tags triggers userVariables folders).toJson.field key =
            (ofJson tags' triggers' userVariables' folders').toJson.field key := by
  refine ⟨accounts _ _ _ _, ?_⟩
  intro tags' triggers' userVariables' folders' inTags inTriggers inVariables inFolders key figures
  exact field_perm (inTags.filterMap _) (inTriggers.filterMap _) (inVariables.filterMap _)
    (inFolders.filterMap _) figures

/-- A tag that fires, and a paused one of the same name that never does. -/
def liveTag : Json := .obj [("tagId", "1"), ("name", "GA4 - View"), ("type", "gaawe"),
  ("firingTriggerId", Json.texts ["7"])]

def idleTag : Json := .obj [("tagId", "2"), ("name", "GA4 - View"), ("type", "gaawe"), ("paused", true)]

theorem ofJson_exchanged :
    [liveTag, idleTag].Perm [idleTag, liveTag] ∧
      Accounts (ofJson (.arr [liveTag, idleTag]) .null .null .null).toJson
        (objects (.arr [liveTag, idleTag])) ∧
      (ofJson (.arr [idleTag, liveTag]) .null .null .null).toJson.field "score" = .int 88 := by
  have exchanged : [liveTag, idleTag].Perm [idleTag, liveTag] := List.Perm.swap _ _ _
  have known := ofJson_accounts (.arr [liveTag, idleTag]) .null .null .null
  refine ⟨exchanged, known.1, ?_⟩
  rw [← known.2 (.arr [idleTag, liveTag]) .null .null .null exchanged (List.Perm.refl _)
    (List.Perm.refl _) (List.Perm.refl _) "score" (by decide)]
  exact congrArg (fun n : Nat => Json.int n) (by decide :
    (ofJson (.arr [liveTag, idleTag]) .null .null .null).score = 88)

end BestPractices

end TagAudit

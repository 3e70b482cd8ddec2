import TagAudit.Proofs.Rules.Subjects
import TagAudit.Proofs.Variables.Cycles

namespace TagAudit

open Recording

theorem Issue.content_inj {i j : Issue} : i.content = j.content ↔ i.check = j.check ∧ i.subject = j.subject := by
  simp [content, subject]

theorem Suggestion.content_inj {s t : Suggestion} :
    s.content = t.content ↔ s.check = t.check ∧ s.title = t.title := by
  simp [content]

/-- Contents that tell the key tell what comes from several keys apart if they do so for each key. -/
theorem nodup_flatMap_contents {α κ β γ : Type} {found : κ → List α} {key : α → κ} {part : α → β} {content : α → γ}
    (content_inj : ∀ {a b}, content a = content b ↔ key a = key b ∧ part a = part b)
    (keyed : ∀ k, ∀ a ∈ found k, key a = k) {keys : List κ} (nodup : keys.Nodup) :
    ((keys.flatMap found).map content).Nodup ↔ ∀ k ∈ keys, ((found k).map part).Nodup := by
  have alone (k : κ) : ((found k).map content).Nodup ↔ ((found k).map part).Nodup := by
    rw [List.Nodup, List.pairwise_map, List.Nodup, List.pairwise_map]
    refine List.Pairwise.iff_of_mem fun {a b} first second => not_congr ?_
    rw [content_inj, keyed k a first, keyed k b second, eq_self, true_and]
  have apart : keys.Pairwise (Function.onFun List.Disjoint fun k => (found k).map content) := by
    refine nodup.imp fun {k other} differ c one two => ?_
    obtain ⟨a, first, rfl⟩ := List.mem_map.mp one
    obtain ⟨b, second, same⟩ := List.mem_map.mp two
    rw [content_inj, keyed k a first, keyed other b second] at same
    exact differ same.1.symm
  rw [List.map_flatMap, List.nodup_flatMap, and_iff_left apart]
  exact forall₂_congr fun k _ => alone k

theorem Findings.Within.eq_none {f : Findings} (within : f.Within [] []) : f = .none := by
  obtain ⟨issues, suggestions⟩ := f
  have noIssues : issues = [] := List.map_eq_nil_iff.mp (List.sublist_nil.mp within.issues)
  have noSuggestions : suggestions = [] := List.map_eq_nil_iff.mp (List.sublist_nil.mp within.suggestions)
  rw [noIssues, noSuggestions, none]

namespace Check

variable {check : String} {s : Subject} {f : Findings}

theorem findings_of_adds (adds : (run check s).Adds f) : findings check s = f := by
  rw [findings, adds]
  rfl

theorem findings_within {subjects : List (String × String)} {titles : List String}
    (bounded : (run check s).Bounded subjects titles) : (findings check s).Within subjects titles := by
  obtain ⟨f, run, within⟩ := bounded .none
  rw [findings, run]
  exact within

/-- The tags that configure GA4. -/
def configuring (c : Container) : List Entity := c.tags.filter fun t => t.type.isStr "gawc"

theorem findings_ga4Configuration (s : Subject) : ∃ missing several partly,
    several.subject = noSubject ∧ partly.subject = noSubject ∧ findings "ga4_configuration" s =
      if !s.container.tags.any Entity.isGa4 then .ofSuggestions [missing]
      else (if 1 < (configuring s.container).length then .ofIssues [several] else .none) ++
        (if ((configuring s.container).filter fun t => !t.firesOnAllPages).isEmpty then .none
          else .ofIssues [partly]) := by
  refine ⟨_, _, _, ?_, ?_, findings_of_adds (adds_run rfl rfl (adds_ite (adds_addSuggestion _)
    ((adds_ite (adds_addIssue _) adds_pure).bind fun _ => adds_ite adds_pure (adds_addIssue _))))⟩
  · exact subject_noEntity "tag"
  · exact subject_noEntity "tag"

theorem configuring_eq_nil (none : s.container.tags.any Entity.isGa4 = false) : configuring s.container = [] := by
  refine List.filter_eq_nil_iff.mpr fun t member isConfiguring => ?_
  have ga4 : t.isGa4 = true := by
    rw [Entity.isGa4, Json.isStr_iff.mp isConfiguring]
    rfl
  exact Bool.false_ne_true (none ▸ List.any_eq_true.mpr ⟨t, member, ga4⟩)

theorem nodup_ga4Configuration_issues : ((findings "ga4_configuration" s).issues.map Issue.subject).Nodup ↔
    (1 < (configuring s.container).length → ∀ t ∈ configuring s.container, t.firesOnAllPages = true) := by
  obtain ⟨missing, several, partly, first, second, found⟩ := findings_ga4Configuration s
  have everywhere : ((configuring s.container).filter fun t => !t.firesOnAllPages).isEmpty = true ↔
      ∀ t ∈ configuring s.container, t.firesOnAllPages = true := by
    simp [List.isEmpty_iff]
  rw [found, ← everywhere]
  cases some : s.container.tags.any Entity.isGa4 with
  | false => simp [configuring_eq_nil some, Findings.ofSuggestions]
  | true =>
    by_cases many : 1 < (configuring s.container).length <;>
      by_cases all : ((configuring s.container).filter fun t => !t.firesOnAllPages).isEmpty = true
    all_goals simp [many, all, Findings.append_eq, Findings.ofIssues, Findings.none, first, second]

theorem nodup_ga4Configuration_suggestions :
    ((findings "ga4_configuration" s).suggestions.map Suggestion.title).Nodup := by
  obtain ⟨missing, several, partly, _, _, found⟩ := findings_ga4Configuration s
  rw [found]
  split_ifs
  · exact List.nodup_singleton _
  all_goals exact List.nodup_nil

/-- The variables that reference more names than the limit allows; none where nothing can be compared with the
limit. -/
def entangled (s : Subject) : List Entity :=
  match limitNumber (s.config.limit .variableReferences) with
  | .ok most => s.container.userVariables.filter fun v =>
      most.lt (.int (s.container.referenceGraph.successors v.name).length)
  | .error _ => []

theorem findings_variableReferences (s : Subject) : ∃ suggestion : Entity → Suggestion,
    (∀ v, (suggestion v).title = "Variable with many references") ∧
      findings "variable_references" s = .ofSuggestions ((entangled s).map suggestion) := by
  let graph := s.container.referenceGraph
  let limit := s.config.limit .variableReferences
  refine ⟨fun v => ⟨"variable_references", "low", "performance", "Variable with many references",
      "Variable \"" ++ v.name ++ "\" references " ++ count (graph.successors v.name).length ++ " other variables.",
      [v.name]⟩, fun v => rfl, ?_⟩
  cases usable : limitNumber limit with
  | ok most =>
    have tests : s.container.userVariables.filterM (fun v => exceeds (.int (graph.successors v.name).length) limit) =
        .ok (entangled s) := by
      rw [entangled, usable]
      refine filterM_ok fun v _ => ?_
      rw [exceeds, usable]
      rfl
    exact findings_of_adds (adds_run rfl rfl (adds_ofExcept_bind tests (adds_forM_suggestions _ fun _ _ =>
      adds_addSuggestion _)))
  | error fault =>
    have bounded : (variableReferences s).Bounded [] [] := by
      refine bounded_ofExcept_bind fun found run => ?_
      obtain rfl : found = [] := by
        refine List.eq_nil_iff_forall_not_mem.mpr fun v member => ?_
        have tested := test_of_mem_filterM run member
        rw [exceeds, usable] at tested
        cases tested
      exact bounded_pure
    have within : (findings "variable_references" s).Within [] [] := findings_within (bounded_run bounded)
    rw [entangled, usable]
    exact within.eq_none

/-- The groups of a container that are allowed everything. -/
def permissive (c : Container) : List Entity :=
  ((c.get "securityGroups").items.filterMap Entity.ofJson?).filter fun g =>
    (g.parameterValue "enableAll").isStr "true"

theorem findings_permissionRules (s : Subject) : ∃ suggestion : Entity → Suggestion,
    (∀ g, (suggestion g).title = "Overly permissive permission rules") ∧
      findings "permission_rules" s = .ofSuggestions ((permissive s.container).map suggestion) :=
  ⟨_, fun _ => rfl, findings_of_adds (adds_run rfl rfl (adds_forM_suggestions _ fun _ _ => adds_addSuggestion _))⟩

theorem findings_circularDependencies (s : Subject) : ∃ issue : List String → Issue,
    (∀ path, (issue path).subject =
      ((path.head?.bind s.container.variableByName).getD ⟨[]⟩).subject "variable") ∧
      findings "circular_dependencies" s = .ofIssues (s.container.circularReferences.map issue) :=
  ⟨_, fun _ => rfl, findings_of_adds (adds_run rfl rfl (adds_forM_issues _ fun _ _ => adds_addIssue _))⟩

end Check

namespace Container

variable {c : Container}

theorem name_of_variableByName {name : String} {v : Entity} (found : c.variableByName name = some v) :
    v.name = name := by
  unfold variableByName at found
  split at found
  · cases found
  · have named := List.find?_some found
    rw [Entity.name, Json.isStr_iff.mp named]
    rfl

/-- A circular reference starts at a variable that can be looked up. -/
theorem exists_head {path : List String} (reported : path ∈ c.circularReferences) :
    ∃ v, path.head?.bind c.variableByName = some v ∧ path.head? = some v.name := by
  obtain ⟨final, searched, found⟩ := c.exists_search
  obtain ⟨branch, survey⟩ := searched.survey
  rw [found, List.mem_reverse] at reported
  obtain ⟨name, inner, rfl, _, chain⟩ := survey.exists_path reported
  rw [leads_eq_mentions] at chain
  have known : name ∈ c.variableNames := by
    cases inner with
    | nil => exact (List.isChain_cons_cons.mp chain).1.1
    | cons next rest => exact (List.isChain_cons_cons.mp chain).1.1
  obtain ⟨v, isVariable⟩ := Option.isSome_iff_exists.mp (mem_variableNames_iff.mp known)
  exact ⟨v, isVariable, by rw [name_of_variableByName isVariable]; rfl⟩

end Container

namespace Check

variable {s : Subject}

theorem nodup_circularDependencies_issues :
    ((findings "circular_dependencies" s).issues.map Issue.subject).Nodup ↔
      (s.container.circularReferences.map List.head?).Nodup := by
  obtain ⟨issue, subject, found⟩ := findings_circularDependencies s
  rw [found, Findings.ofIssues, List.map_map, List.Nodup, List.pairwise_map, List.Nodup, List.pairwise_map]
  refine List.Pairwise.iff_of_mem fun {path other} first second => not_congr ?_
  rw [Function.comp_apply, Function.comp_apply, subject, subject]
  obtain ⟨v, isFirst, head⟩ := Container.exists_head first
  obtain ⟨w, isSecond, otherHead⟩ := Container.exists_head second
  constructor
  · intro same
    rw [isFirst, isSecond] at same
    have names : v.name = w.name := congrArg Prod.fst same
    rw [head, otherHead, names]
  · intro same
    rw [same]

/-- Suggestions under one title can be told apart only if there is one at most. -/
theorem nodup_titles_iff {α : Type} {xs : List α} {suggestion : α → Suggestion} {title : String}
    (titled : ∀ x, (suggestion x).title = title) :
    ((Findings.ofSuggestions (xs.map suggestion)).suggestions.map Suggestion.title).Nodup ↔ xs.length ≤ 1 := by
  have same : (xs.map suggestion).map Suggestion.title = List.replicate xs.length title := by
    rw [List.map_map, ← List.map_const']
    exact List.map_congr_left fun x _ => titled x
  rw [Findings.ofSuggestions, same, List.nodup_replicate]

end Check

namespace Container

open RulesEngine

variable {c : Container} {config : RulesConfig}

/-- The enabled checks. -/
def checksOf (config : RulesConfig) : List String :=
  Check.all.filter fun check => config.isEnabled (.str check)

theorem analyze_found (c : Container) (config : RulesConfig) :
    (c.analyze config).found =
      ⟨(checksOf config).flatMap fun check => (Check.findings check ⟨c, config⟩).issues,
        (checksOf config).flatMap fun check => (Check.findings check ⟨c, config⟩).suggestions⟩ :=
  foldl_runCheck_findings (checksOf config) (start c config)

theorem checksOf_nodup : (checksOf config).Nodup := by
  have all : Check.all.Nodup := by decide
  exact all.filter _

theorem nodup_issues_iff : ((c.analyze config).found.issues.map Issue.content).Nodup ↔
    ∀ check ∈ checksOf config, ((Check.findings check ⟨c, config⟩).issues.map Issue.subject).Nodup := by
  rw [analyze_found]
  exact nodup_flatMap_contents Issue.content_inj (fun _ => Check.findings_ofCheck.issue_check) checksOf_nodup

theorem nodup_suggestions_iff : ((c.analyze config).found.suggestions.map Suggestion.content).Nodup ↔
    ∀ check ∈ checksOf config, ((Check.findings check ⟨c, config⟩).suggestions.map Suggestion.title).Nodup := by
  rw [analyze_found]
  exact nodup_flatMap_contents Suggestion.content_inj (fun _ => Check.findings_ofCheck.suggestion_check)
    checksOf_nodup

/-- Only the repeating checks need be looked at. -/
theorem forall_checksOf_iff {nodup : String → Prop} (ordinary : ∀ check ∉ Check.repeating, nodup check) :
    (∀ check ∈ checksOf config, nodup check) ↔
      ∀ check ∈ Check.repeating, config.isEnabled (.str check) = true → nodup check := by
  have known : ∀ check ∈ Check.repeating, check ∈ Check.all := by decide
  constructor
  · exact fun each check member enabled => each check (List.mem_filter.mpr ⟨known check member, enabled⟩)
  · intro each check member
    by_cases repeats : check ∈ Check.repeating
    · exact each check repeats (List.mem_filter.mp member).2
    · exact ordinary check repeats

/-- What the identifiers of findings are made from differs for any two findings about entities that can be told
apart, unless a check repeats itself: both issues about the configuration of GA4 are written down, two circular
references start at one variable, or several variables or permission rules are complained of. -/
theorem analyze_contents (c : Container) (config : RulesConfig) (told : c.ToldApart) :
    (((c.analyze config).found.issues.map Issue.content).Nodup ↔
      (config.isEnabled (.str "ga4_configuration") = true → 1 < (Check.configuring c).length →
        ∀ t ∈ Check.configuring c, t.firesOnAllPages = true) ∧
      (config.isEnabled (.str "circular_dependencies") = true → (c.circularReferences.map List.head?).Nodup)) ∧
    (((c.analyze config).found.suggestions.map Suggestion.content).Nodup ↔
      (config.isEnabled (.str "variable_references") = true → (Check.entangled ⟨c, config⟩).length ≤ 1) ∧
      (config.isEnabled (.str "permission_rules") = true → (Check.permissive c).length ≤ 1)) := by
  have ordinary : ∀ check ∉ Check.repeating,
      ((Check.findings check ⟨c, config⟩).issues.map Issue.subject).Nodup ∧
        ((Check.findings check ⟨c, config⟩).suggestions.map Suggestion.title).Nodup := by
    intro check once
    obtain ⟨subjects, titles, bounded, distinctSubjects, distinctTitles⟩ :=
      Check.run_distinguishes (s := ⟨c, config⟩) told once
    have within := Check.findings_within bounded
    exact ⟨distinctSubjects.sublist within.issues, distinctTitles.sublist within.suggestions⟩
  obtain ⟨_, _, noCircles⟩ := Check.findings_circularDependencies ⟨c, config⟩
  obtain ⟨_, titledVariables, entangled⟩ := Check.findings_variableReferences ⟨c, config⟩
  obtain ⟨_, titledRules, permissive⟩ := Check.findings_permissionRules ⟨c, config⟩
  rw [nodup_issues_iff, forall_checksOf_iff fun check once => (ordinary check once).1,
    nodup_suggestions_iff, forall_checksOf_iff fun check once => (ordinary check once).2]
  simp only [Check.repeating, List.forall_mem_cons, List.not_mem_nil, false_imp_iff, implies_true, and_true]
  rw [Check.nodup_ga4Configuration_issues, Check.nodup_circularDependencies_issues, noCircles, entangled, permissive,
    Check.nodup_titles_iff titledVariables, Check.nodup_titles_iff titledRules]
  simp [Findings.ofIssues, Findings.ofSuggestions, Check.nodup_ga4Configuration_suggestions]

/-- A container with two tags that configure GA4, both of one name, which fire on these triggers. -/
def configuredTwice (triggers : Json) : Container where
  document := [("containerVersion", .obj [("tag", .arr [
    .obj [("tagId", "1"), ("name", "GA4"), ("type", "gawc"), ("firingTriggerId", triggers)],
    .obj [("tagId", "2"), ("name", "GA4"), ("type", "gawc"), ("firingTriggerId", triggers)]])])]
  version := [("tag", .arr [
    .obj [("tagId", "1"), ("name", "GA4"), ("type", "gawc"), ("firingTriggerId", triggers)],
    .obj [("tagId", "2"), ("name", "GA4"), ("type", "gawc"), ("firingTriggerId", triggers)]])]
  includePaused := true
  source := none
  version_eq := rfl

/-- On all pages the two tags are no reason for a second issue. -/
theorem configuredTwice_contents :
    (configuredTwice (.arr [allPagesId])).ToldApart ∧
      (((configuredTwice (.arr [allPagesId])).analyze .default).found.issues.map Issue.content).Nodup ∧
      (((configuredTwice (.arr [allPagesId])).analyze .default).found.suggestions.map Suggestion.content).Nodup := by
  have told : (configuredTwice (.arr [allPagesId])).ToldApart := by decide
  obtain ⟨issues, suggestions⟩ := analyze_contents (configuredTwice (.arr [allPagesId])) .default told
  refine ⟨told, issues.mpr ⟨fun _ _ => by decide, fun _ => List.nodup_nil⟩,
    suggestions.mpr ⟨fun _ => Nat.zero_le 1, fun _ => Nat.zero_le 1⟩⟩

/-- Elsewhere both issues about the configuration are written down, and nothing that goes into their
identifiers tells them apart. -/
theorem configuredTwice_alike :
    ((configuredTwice (.arr [])).tags.map (Issue.identify "tag")).Nodup ∧ (configuredTwice (.arr [])).ToldApart ∧
      ¬(((configuredTwice (.arr [])).analyze .default).found.issues.map Issue.content).Nodup := by
  refine ⟨by decide, by decide, fun nodup => ?_⟩
  have enabled : "ga4_configuration" ∈ checksOf .default := by decide
  have once := nodup_issues_iff.mp nodup "ga4_configuration" enabled
  have fired := Check.nodup_ga4Configuration_issues.mp once (by decide)
  revert fired
  decide

end Container

end TagAudit

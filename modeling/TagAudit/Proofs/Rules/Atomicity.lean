import TagAudit.Proofs.Rules.Recording
import TagAudit.Rules.Check

namespace TagAudit

open Recording

variable {s : Subject}

namespace EntityRule

theorem completes_addIssueAbout (rule : EntityRule) (e : Entity) (text : String) :
    (addIssue (rule.issueAbout e text)).Completes rule.check := completes_addIssue rfl rfl

/-- A rule whose message can be made for every entity that its test finds. -/
def Answers (rule : EntityRule) : Prop :=
  ∀ message ∈ rule.message?, ∀ e, rule.test e = .ok true → ∃ text, message e = .ok text

/-- The only values that a rule cannot use are met by its tests, which come before its issues. -/
theorem Answers.report_completes {rule : EntityRule} (answers : rule.Answers) {found : List Entity}
    (tested : ∀ e ∈ found, rule.test e = .ok true) : (rule.report found).Completes rule.check := by
  unfold report
  split
  · rename_i message present
    refine completes_forM fun e member => ?_
    obtain ⟨text, made⟩ := answers message present e (tested e member)
    exact completes_ofExcept_bind made (rule.completes_addIssueAbout e text)
  · split
    · exact completes_pure
    · exact completes_addIssue rfl rfl

theorem Answers.run_atomic {rule : EntityRule} (answers : rule.Answers) :
    (rule.run s).Atomic rule.check :=
  atomic_ofExcept_bind fun _ tests =>
    Or.inl (answers.report_completes fun _ member => test_of_mem_filterM tests member)

theorem Answers.run_completes {rule : EntityRule} (answers : rule.Answers)
    (tests : ∀ e, ∃ holds, rule.test e = .ok holds) : (rule.run s).Completes rule.check := by
  obtain ⟨found, run⟩ := exists_filterM fun e (_ : e ∈ s.container.entitiesOf rule.kind) => tests e
  exact completes_ofExcept_bind run
    (answers.report_completes fun _ member => test_of_mem_filterM run member)

theorem answers_of_mem {rule : EntityRule} (member : rule ∈ rules) : rule.Answers := by
  intro message present e tested
  simp only [rules, List.mem_cons, List.not_mem_nil, or_false] at member
  rcases member with rfl | rfl | rfl | rfl | rfl | rfl
  · cases present
    exact ⟨_, rfl⟩
  · cases present
    exact ⟨_, rfl⟩
  · cases present
    exact ⟨_, rfl⟩
  · -- The message looks the type up again, which the test has done before it.
    cases present
    obtain ⟨label, looked, _⟩ := ok_of_bind tested
    refine ⟨label.getD "" ++ ": \"" ++ e.name ++ "\"", ?_⟩
    dsimp only
    rw [looked]
    rfl
  · cases present
  · cases present

/-- Only one rule looks types up as keys, which not every value can be. -/
theorem test_ok_of_mem {rule : EntityRule} (member : rule ∈ rules)
    (other : rule.check ≠ "deprecated_features") (e : Entity) : ∃ holds, rule.test e = .ok holds := by
  simp only [rules, List.mem_cons, List.not_mem_nil, or_false] at member
  rcases member with rfl | rfl | rfl | rfl | rfl | rfl
  · exact ⟨_, rfl⟩
  · exact ⟨_, rfl⟩
  · exact ⟨_, rfl⟩
  · exact absurd rfl other
  · exact ⟨_, rfl⟩
  · exact ⟨_, rfl⟩

theorem rules_guarded (check : String) (s : Subject) :
    Guarded check ((rules.filter (·.check == check)).map (·.run s)) := by
  have sure : rules.Pairwise fun first later =>
      first.check = later.check → later.check ≠ "deprecated_features" := by decide
  refine guarded_rules (fun rule member => (answers_of_mem member).run_atomic) ?_ check
  exact sure.imp_of_mem fun _ known other same =>
    (answers_of_mem known).run_completes (test_ok_of_mem known (other same))

end EntityRule

namespace ThresholdRule

theorem completes_judge (rule : ThresholdRule) (limit : Json) (selected : List Entity) (most : Number) :
    (rule.judge limit selected most).Completes rule.check := by
  unfold judge
  split
  · exact completes_pure
  · exact completes_addSuggestion rfl

theorem run_atomic (rule : ThresholdRule) : (rule.run s).Atomic rule.check :=
  atomic_ofExcept_bind fun most _ => Or.inl (rule.completes_judge _ _ most)

/-- A rule without a limit of its own compares with zero. -/
theorem run_completes {rule : ThresholdRule} (fixed : rule.limit = none) :
    (rule.run s).Completes rule.check := by
  have usable : limitNumber (rule.limitIn s.config) = .ok (.int 0) := by
    rw [limitIn, fixed]
    rfl
  exact completes_ofExcept_bind usable (rule.completes_judge _ _ _)

theorem rules_guarded (check : String) (s : Subject) :
    Guarded check ((rules.filter (·.check == check)).map (·.run s)) := by
  have fixed : rules.Pairwise fun first later => first.check = later.check → later.limit = none := by
    decide
  exact guarded_rules (fun rule _ => rule.run_atomic)
    (fixed.imp fun unlimited same => run_completes (unlimited same)) check

end ThresholdRule

namespace Check

theorem completes_unusedIssues (check kind title : String) (message : String → String)
    (severity : String) (entities : List Entity) :
    (unusedIssues check kind title message severity entities).Completes check :=
  completes_forM fun _ _ => completes_addIssue rfl rfl

theorem completes_duplicateIssues (check severity : String) (kind : Comparable) (c : Container) :
    (duplicateIssues check severity kind c).Completes check := by
  refine completes_forM fun (signature, group) _ => ?_
  cases group with
  | nil => exact completes_pure
  | cons keep copies => exact completes_addIssue rfl rfl

theorem completes_suggest (check impact category title message : String) (entities : List Entity) :
    (suggest check impact category title message entities).Completes check :=
  completes_addSuggestion rfl

theorem completes_sharedIssue (check severity category title message : String)
    {extra : List (String × Json)}
    (further : (extra.all fun field => Issue.furtherFields.contains field.1) = true) :
    (sharedIssue check severity category title message extra).Completes check :=
  completes_addIssue rfl further

theorem completes_ite {check : String} {p q : Recording Unit} (condition : Prop) [Decidable condition]
    (first : p.Completes check) (second : q.Completes check) :
    (if condition then p else q).Completes check := by
  split
  · exact first
  · exact second

theorem completes_ga4Configuration (c : Container) :
    (ga4Configuration c).Completes "ga4_configuration" := by
  have several (configuring : List Entity) :
      (severalConfigurations configuring).Completes "ga4_configuration" :=
    completes_ite _ (completes_sharedIssue _ _ _ _ _ rfl) completes_pure
  have partly (configuring : List Entity) :
      (partialConfigurations configuring).Completes "ga4_configuration" :=
    completes_ite _ completes_pure (completes_sharedIssue _ _ _ _ _ rfl)
  exact completes_ite _ (completes_suggest _ _ _ _ _ _) ((several _).bind (partly _))

/-- The limit is read before anything is written down. -/
theorem variableReferences_atomic (s : Subject) :
    (variableReferences s).Atomic "variable_references" :=
  atomic_ofExcept_bind fun _ _ => Or.inl (completes_forM fun _ _ => completes_suggest _ _ _ _ _ _)

theorem missingDescriptions_atomic (s : Subject) :
    (missingDescriptions s).Atomic "missing_descriptions" := by
  unfold missingDescriptions
  dsimp only
  split
  · exact Or.inl completes_pure
  · exact atomic_ofExcept_bind fun _ _ =>
      Or.inl (completes_ite _ (completes_suggest _ _ _ _ _ _) completes_pure)

/-- All variables are compared with one limit: if it is no number, the first of them meets it. -/
theorem nestedReferences_atomic (s : Subject) : (nestedReferences s).Atomic "nested_references" := by
  unfold nestedReferences
  dsimp only
  generalize s.container.referenceDepth = depth
  cases usable : limitNumber (s.config.limit .referenceDepth) with
  | ok most =>
    refine Or.inl (completes_forM fun v _ => ?_)
    have compared : exceeds (.int (depth v.name)) (s.config.limit .referenceDepth) =
        .ok (most.lt (.int (depth v.name))) := by
      rw [exceeds, usable]
      rfl
    exact completes_ofExcept_bind compared
      (completes_ite _ (completes_addIssue rfl rfl) completes_pure)
  | error fault =>
    cases s.container.userVariables with
    | nil => exact Or.inl completes_pure
    | cons v rest =>
      have refused : exceeds (.int (depth v.name)) (s.config.limit .referenceDepth) = .error fault := by
        rw [exceeds, usable]
        rfl
      rw [List.forM, refused]
      exact Or.inr ((refuses_ofExcept_bind _).bind _)

/-- The checks with an algorithm of their own that compare with a limit. -/
def limited : List String := ["variable_references", "missing_descriptions", "nested_references"]

theorem special_completes {check : String} (unlimited : check ∉ limited) :
    (special check s).Completes check := by
  unfold special
  dsimp only
  split
  · exact completes_unusedIssues _ _ _ _ _ _
  · exact completes_unusedIssues _ _ _ _ _ _
  · exact completes_unusedIssues _ _ _ _ _ _
  · exact completes_unusedIssues _ _ _ _ _ _
  · exact completes_unusedIssues _ _ _ _ _ _
  · exact completes_duplicateIssues _ _ _ _
  · exact completes_duplicateIssues _ _ _ _
  · exact completes_duplicateIssues _ _ _ _
  · exact completes_ite _ (completes_suggest _ _ _ _ _ _) completes_pure
  · exact completes_ite _ (completes_suggest _ _ _ _ _ _) completes_pure
  · simp [limited] at unlimited
  · exact completes_ite _ (completes_suggest _ _ _ _ _ _) completes_pure
  · exact completes_forM fun _ _ => completes_suggest _ _ _ _ _ _
  · exact completes_ite _ completes_pure (completes_suggest _ _ _ _ _ _)
  · exact completes_ite _ (completes_suggest _ _ _ _ _ _) completes_pure
  · exact completes_ite _ completes_pure (completes_suggest _ _ _ _ _ _)
  · simp [limited] at unlimited
  · exact completes_ga4Configuration _
  · exact completes_ite _ (completes_sharedIssue _ _ _ _ _ rfl) completes_pure
  · exact completes_ite _ completes_pure (completes_sharedIssue _ _ _ _ _ rfl)
  · exact completes_ite _ completes_pure (completes_suggest _ _ _ _ _ _)
  · exact completes_forM fun _ _ => completes_addIssue rfl rfl
  · simp [limited] at unlimited
  · exact completes_pure

theorem special_atomic {check : String} (isLimited : check ∈ limited) : (special check s).Atomic check := by
  simp only [limited, List.mem_cons, List.not_mem_nil, or_false] at isLimited
  rcases isLimited with rfl | rfl | rfl
  · exact variableReferences_atomic s
  · exact missingDescriptions_atomic s
  · exact nestedReferences_atomic s

theorem rules_of_limited {check : String} (isLimited : check ∈ limited) :
    EntityRule.rules.filter (·.check == check) = [] ∧
      ThresholdRule.rules.filter (·.check == check) = [] := by
  simp only [limited, List.mem_cons, List.not_mem_nil, or_false] at isLimited
  rcases isLimited with rfl | rfl | rfl
  · exact ⟨rfl, rfl⟩
  · exact ⟨rfl, rfl⟩
  · exact ⟨rfl, rfl⟩

/-- No check has rules of both kinds. -/
theorem thresholdRules_of_entityRule {rule : EntityRule} (member : rule ∈ EntityRule.rules) :
    ThresholdRule.rules.filter (·.check == rule.check) = [] := by
  simp only [EntityRule.rules, List.mem_cons, List.not_mem_nil, or_false] at member
  rcases member with rfl | rfl | rfl | rfl | rfl | rfl
  all_goals rfl

theorem parts_guarded (check : String) (s : Subject) : Guarded check (parts check s) := by
  by_cases isLimited : check ∈ limited
  · obtain ⟨noEntityRule, noThresholdRule⟩ := rules_of_limited isLimited
    rw [parts, noEntityRule, noThresholdRule]
    exact guarded_singleton (special_atomic isLimited)
  · rw [parts]
    refine Guarded.concat ?_ (special_completes isLimited)
    cases entityRules : EntityRule.rules.filter (·.check == check) with
    | nil => exact ThresholdRule.rules_guarded check s
    | cons rule rest =>
      have found : rule ∈ EntityRule.rules.filter (·.check == check) :=
        entityRules ▸ List.mem_cons_self
      obtain ⟨known, same⟩ := List.mem_filter.mp found
      have noThresholdRule := thresholdRules_of_entityRule known
      rw [eq_of_beq same] at noThresholdRule
      rw [noThresholdRule, List.map_nil, List.append_nil, ← entityRules]
      exact EntityRule.rules_guarded check s

/-- Whatever check is run, on whatever container and with whatever limits: it adds all of its findings,
or it fails and leaves no trace. -/
theorem run_atomic (check : String) (s : Subject) : (run check s).Atomic check :=
  (parts_guarded check s).forM_atomic

end Check

end TagAudit

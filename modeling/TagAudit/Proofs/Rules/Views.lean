import TagAudit.Proofs.Container.Views
import TagAudit.Proofs.Rules.Isolation

namespace TagAudit

open Container

namespace Container.Alike

variable {c d : Container} (alike : Alike c d) (config : RulesConfig)
include alike

theorem run_entityRule (rule : EntityRule) : rule.run ⟨d, config⟩ = rule.run ⟨c, config⟩ := by
  rw [EntityRule.run, alike.entitiesOf, EntityRule.run]

theorem run_thresholdRule {rule : ThresholdRule} (member : rule ∈ ThresholdRule.rules) :
    rule.run ⟨d, config⟩ = rule.run ⟨c, config⟩ := by
  have select : rule.select d = rule.select c := by
    simp only [ThresholdRule.rules, List.mem_cons, List.not_mem_nil, or_false] at member
    rcases member with rfl | rfl | rfl | rfl | rfl | rfl | rfl | rfl | rfl | rfl <;>
      simp only [alike.tags, alike.triggers, alike.userVariables]
  rw [ThresholdRule.run, select, ThresholdRule.run]

/-- The checks with an algorithm of their own read the entities, and fields of the document that are no entities. -/
theorem run_special (check : String) : Check.special check ⟨d, config⟩ = Check.special check ⟨c, config⟩ := by
  have securityGroups : d.get "securityGroups" = c.get "securityGroups" := alike.get (by decide)
  have container : d.get "container" = c.get "container" := alike.get (by decide)
  have environment : d.get "environment" = c.get "environment" := alike.get (by decide)
  unfold Check.special
  simp only [Check.duplicateIssues, Check.folderUsage, Check.tagSequencing, Check.variableReferences,
    Check.dataLayerNames, Check.permissionRules, Check.previewMode, Check.environmentSettings,
    Check.builtInVariablesUsage, Check.missingDescriptions, Check.ga4Configuration, Check.ga4MeasurementId,
    Check.marketingTagsPrivacy, Check.consentIntegration, Check.circularDependencies, Check.nestedReferences,
    alike.tags, alike.triggers, alike.userVariables, alike.duplicates, alike.unusedTags, alike.unusedTriggers,
    alike.unusedVariables, alike.unusedFolders, alike.unusedTemplates, alike.referenceGraph, alike.circularReferences,
    alike.referenceDepth, alike.variableByName, securityGroups, container, environment]

theorem run_check (check : String) : Check.run check ⟨d, config⟩ = Check.run check ⟨c, config⟩ := by
  have entityRules : (EntityRule.rules.filter (·.check == check)).map (·.run ⟨d, config⟩) =
      (EntityRule.rules.filter (·.check == check)).map (·.run ⟨c, config⟩) :=
    List.map_congr_left fun rule _ => alike.run_entityRule config rule
  have thresholdRules : (ThresholdRule.rules.filter (·.check == check)).map (·.run ⟨d, config⟩) =
      (ThresholdRule.rules.filter (·.check == check)).map (·.run ⟨c, config⟩) :=
    List.map_congr_left fun rule member => alike.run_thresholdRule config (List.mem_filter.mp member).1
  rw [Check.run, Check.parts, entityRules, thresholdRules, alike.run_special config check, Check.run, Check.parts]

theorem foldl_runCheck_found (checks : List String) (found : Findings) :
    (checks.foldl RulesEngine.runCheck ⟨⟨d, config⟩, found⟩).found =
      (checks.foldl RulesEngine.runCheck ⟨⟨c, config⟩, found⟩).found := by
  induction checks generalizing found with
  | nil => rfl
  | cons check rest ih =>
    rw [List.foldl_cons, List.foldl_cons, RulesEngine.runCheck, alike.run_check config check, RulesEngine.runCheck]
    exact ih _

/-- The rules find the same, and score and grade it in the same way. -/
theorem analyze : d.analyze config = c.analyze config := by
  have found : (RulesEngine.start d config).runAll.found = (RulesEngine.start c config).runAll.found :=
    alike.foldl_runCheck_found config _ .none
  have sameD : (RulesEngine.start d config).runAll.subject.container = d := RulesEngine.runAll_container _
  have sameC : (RulesEngine.start c config).runAll.subject.container = c := RulesEngine.runAll_container _
  simp only [Container.analyze, RulesEngine.report, RulesEngine.scores, RulesEngine.readiness, found, sameD, sameC,
    alike.tags, alike.triggers, alike.userVariables, alike.folders]

end Container.Alike

end TagAudit

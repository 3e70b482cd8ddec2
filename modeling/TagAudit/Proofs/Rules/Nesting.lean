import TagAudit.Proofs.Rules.Isolation
import TagAudit.Proofs.Rules.Written
import TagAudit.Proofs.Variables.Depth

namespace TagAudit.Container

variable {c : Container}

theorem lt_referenceDepth_iff {name : String} {limit : Int} : limit < c.referenceDepth name ↔
    ∃ rest, (name :: rest).IsChain c.Mentions ∧ (name :: rest).Nodup ∧ limit < (name :: rest).length := by
  obtain ⟨⟨longest, chain, nodup, length⟩, most⟩ := c.isGreatest_referenceDepth name
  constructor
  · exact fun deep => ⟨longest, chain, nodup, length ▸ deep⟩
  · rintro ⟨rest, chain, nodup, deep⟩
    have bound : (name :: rest).length ≤ c.referenceDepth name := most ⟨rest, chain, nodup, rfl⟩
    omega

/-- A check for nested references with a whole number as its limit writes down an issue for each
variable that lies deeper, in their order, and nothing else. -/
theorem runCheck_nestedReferences (c : Container) (config : RulesConfig) (limit : Int) (found : Findings) :
    (RulesEngine.mk ⟨c, config.setLimit .referenceDepth (.int limit)⟩ found).runCheck "nested_references" =
      ⟨⟨c, config.setLimit .referenceDepth (.int limit)⟩, found ++ .ofIssues
        ((c.userVariables.filter fun v => limit < c.referenceDepth v.name).map (Check.nestedIssue c))⟩ := by
  let s : Subject := ⟨c, config.setLimit .referenceDepth (.int limit)⟩
  have usable : limitNumber (s.config.limit .referenceDepth) = .ok (.int limit) := rfl
  have adds : (Check.run "nested_references" s).Adds _ :=
    Check.adds_run rfl rfl (Check.adds_nestedReferences usable)
  have deeper (v : Entity) : Number.lt (.int limit) (.int (c.referenceDepth v.name)) =
      decide (limit < c.referenceDepth v.name) := by
    rw [Bool.eq_iff_iff, decide_eq_true_eq, ← Int.compare_eq_lt]
    simp [Number.lt, Number.order?]
  rw [RulesEngine.runCheck, adds found]
  simp only [s, deeper]

/-- The depth of references below a name is the number of names on the longest path of references on
which no name stands twice, and the check for nested references reports just the variables at the top of a
path that is longer than its limit. -/
theorem referenceDepth_longest (c : Container) :
    (∀ name, (∀ n, Search.Measures c.knownReferences [] name n ↔ n = c.referenceDepth name) ∧
      IsGreatest {n | ∃ rest, (name :: rest).IsChain c.Mentions ∧ (name :: rest).Nodup ∧
        (name :: rest).length = n} (c.referenceDepth name) ∧
      (c.referenceDepth name = 1 ↔ ¬ ∃ v, v ≠ name ∧ c.Mentions name v)) ∧
    ∀ (config : RulesConfig) (limit : Int) (found : Findings),
      (RulesEngine.mk ⟨c, config.setLimit .referenceDepth (.int limit)⟩ found).runCheck "nested_references" =
        ⟨⟨c, config.setLimit .referenceDepth (.int limit)⟩, found ++ .ofIssues
          ((c.userVariables.filter fun v => limit < c.referenceDepth v.name).map (Check.nestedIssue c))⟩ ∧
      ∀ v ∈ c.userVariables, v ∈ (c.userVariables.filter fun v => limit < c.referenceDepth v.name) ↔
        ∃ rest, (v.name :: rest).IsChain c.Mentions ∧ (v.name :: rest).Nodup ∧
          limit < (v.name :: rest).length := by
  refine ⟨fun name => ⟨fun n => measures_iff, c.isGreatest_referenceDepth name, referenceDepth_eq_one_iff⟩,
    fun config limit found => ⟨c.runCheck_nestedReferences config limit found, fun v member => ?_⟩⟩
  rw [List.mem_filter, decide_eq_true_eq, lt_referenceDepth_iff]
  exact and_iff_right member

end TagAudit.Container

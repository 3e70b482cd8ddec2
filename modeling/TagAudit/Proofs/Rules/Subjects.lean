import Mathlib.Data.List.Nodup
import TagAudit.Proofs.Rules.Disabling
import TagAudit.Proofs.Rules.Written

namespace TagAudit

/-- What an issue is about, as far as its identifier tells. -/
def Issue.subject (i : Issue) : String × String := (i.entityName, i.entityId)

/-- The subject of the issues about an entity. -/
def Entity.subject (kind : String) (e : Entity) : String × String := (e.name, Issue.identify kind e)

/-- What issues are about that belong to no entity. -/
def noSubject : String × String := ("", "")

theorem subject_noEntity (kind : String) : Entity.subject kind ⟨[]⟩ = noSubject := by
  unfold Entity.subject Issue.identify
  cases Issue.idField? kind with
  | none => rfl
  | some key => rfl

/-- Findings about some of these subjects and under some of these titles. -/
structure Findings.Within (subjects : List (String × String)) (titles : List String) (f : Findings) : Prop where
  issues : (f.issues.map Issue.subject).Sublist subjects
  suggestions : (f.suggestions.map Suggestion.title).Sublist titles

theorem Findings.Within.append {s s' : List (String × String)} {t t' : List String} {f g : Findings}
    (first : f.Within s t) (second : g.Within s' t') : (f ++ g).Within (s ++ s') (t ++ t') where
  issues := by
    rw [Findings.append_eq, List.map_append]
    exact first.issues.append second.issues
  suggestions := by
    rw [Findings.append_eq, List.map_append]
    exact first.suggestions.append second.suggestions

namespace Recording

variable {α : Type} {p q : Recording Unit} {s s' : List (String × String)} {t t' : List String} {f : Findings}

/-- A run that finds nothing but what is within these subjects and titles, also where it fails. -/
def Bounded (s : List (String × String)) (t : List String) (p : Recording Unit) : Prop :=
  ∀ found, ∃ f : Findings, (p.after found).2 = found ++ f ∧ f.Within s t

theorem Adds.bounded (adds : p.Adds f) :
    p.Bounded (f.issues.map Issue.subject) (f.suggestions.map Suggestion.title) :=
  fun found => ⟨f, by rw [adds], .refl _, .refl _⟩

theorem Bounded.mono (bounded : p.Bounded s t) (subjects : s.Sublist s') (titles : t.Sublist t') :
    p.Bounded s' t' := fun found =>
  let ⟨f, run, within⟩ := bounded found
  ⟨f, run, within.issues.trans subjects, within.suggestions.trans titles⟩

theorem bounded_pure : Bounded s t (pure ()) :=
  adds_pure.bounded.mono (List.nil_sublist s) (List.nil_sublist t)

theorem Bounded.bind (first : p.Bounded s t) {k : Unit → Recording Unit} (second : (k ()).Bounded s' t') :
    (p >>= k).Bounded (s ++ s') (t ++ t') := by
  intro found
  obtain ⟨f, run, within⟩ := first found
  rcases ended : p.after found with ⟨result, middle⟩
  obtain rfl : middle = found ++ f := by rwa [ended] at run
  cases result with
  | ok _ =>
    obtain ⟨g, rest, later⟩ := second (found ++ f)
    refine ⟨f ++ g, ?_, within.append later⟩
    rw [after_bind_ok ended, rest, Findings.append_assoc]
  | error fault =>
    -- What comes behind a failure is not run.
    refine ⟨f, ?_, within.issues.trans (List.sublist_append_left s s'),
      within.suggestions.trans (List.sublist_append_left t t')⟩
    rw [after_bind_error ended]

theorem bounded_ofExcept_bind {r : Except Fault α} {k : α → Recording Unit}
    (rest : ∀ a, r = .ok a → (k a).Bounded s t) : (ofExcept r >>= k).Bounded s t := by
  cases r with
  | error fault => exact fun found => ⟨.none, found.append_none.symm, List.nil_sublist s, List.nil_sublist t⟩
  | ok a => exact rest a rfl

theorem bounded_ite {condition : Prop} [Decidable condition] (first : p.Bounded s t) (second : q.Bounded s t) :
    (if condition then p else q).Bounded s t := by
  split
  · exact first
  · exact second

theorem bounded_forM {xs : List α} {k : α → Recording Unit} {subjects : α → List (String × String)}
    {titles : α → List String} (each : ∀ x ∈ xs, (k x).Bounded (subjects x) (titles x)) :
    (xs.forM k).Bounded (xs.flatMap subjects) (xs.flatMap titles) := by
  induction xs with
  | nil => exact bounded_pure
  | cons x rest ih =>
    obtain ⟨here, later⟩ := List.forall_mem_cons.mp each
    exact here.bind (ih later)

theorem bounded_forM_subjects {xs : List α} {k : α → Recording Unit} {subjects : α → List (String × String)}
    (each : ∀ x ∈ xs, (k x).Bounded (subjects x) []) : (xs.forM k).Bounded (xs.flatMap subjects) [] := by
  have all := bounded_forM each
  rwa [List.flatMap_eq_nil_iff.mpr fun _ _ => rfl] at all

theorem bounded_forM_issues {xs : List α} {k : α → Recording Unit} {subject : α → String × String}
    (each : ∀ x ∈ xs, (k x).Bounded [subject x] []) : (xs.forM k).Bounded (xs.map subject) [] := by
  rw [List.map_eq_flatMap]
  exact bounded_forM_subjects each

/-- A run whose findings are told apart by their subjects and titles. -/
def Distinguishes (p : Recording Unit) : Prop := ∃ s t, p.Bounded s t ∧ s.Nodup ∧ t.Nodup

theorem distinguishes_pure : Distinguishes (pure ()) := ⟨[], [], bounded_pure, List.nodup_nil, List.nodup_nil⟩

theorem Bounded.distinguishes_subjects (bounded : p.Bounded s []) (nodup : s.Nodup) : p.Distinguishes :=
  ⟨s, [], bounded, nodup, List.nodup_nil⟩

theorem Bounded.distinguishes_title {title : String} (bounded : p.Bounded [] [title]) : p.Distinguishes :=
  ⟨[], [title], bounded, List.nodup_nil, List.nodup_singleton title⟩

end Recording

/-- Two parts of a list can be told apart if the list can, and nothing is in both. -/
theorem nodup_map_filters {α β : Type} {f : α → β} {p q : α → Bool} {xs : List α} (nodup : (xs.map f).Nodup)
    (exclusive : ∀ x, p x = true → q x = false) : ((xs.filter p).map f ++ (xs.filter q).map f).Nodup := by
  have part (r : α → Bool) : ((xs.filter r).map f).Nodup := nodup.sublist (List.filter_sublist.map f)
  refine List.nodup_append.mpr ⟨part p, part q, ?_⟩
  rintro _ first _ second rfl
  obtain ⟨x, inFirst, rfl⟩ := List.mem_map.mp first
  obtain ⟨y, inSecond, same⟩ := List.mem_map.mp second
  obtain ⟨known, passed⟩ := List.mem_filter.mp inFirst
  obtain ⟨alsoKnown, alsoPassed⟩ := List.mem_filter.mp inSecond
  obtain rfl : y = x := List.inj_on_of_nodup_map nodup alsoKnown known same
  rw [exclusive y passed] at alsoPassed
  cases alsoPassed

namespace Container

/-- What issues can tell the entities of a container apart by, kind by kind. -/
def subjects (c : Container) : List (List (String × String)) :=
  [c.tags.map (Entity.subject "tag"), c.triggers.map (Entity.subject "trigger"),
    c.userVariables.map (Entity.subject "variable"), c.folders.map (Entity.subject "folder"),
    c.templates.map (Entity.subject "template")]

/-- No two entities of one kind have both their name and their identifier in common. -/
def ToldApart (c : Container) : Prop := ∀ subjects ∈ c.subjects, subjects.Nodup

instance (c : Container) : Decidable c.ToldApart :=
  inferInstanceAs (Decidable (∀ subjects ∈ c.subjects, subjects.Nodup))

variable {c : Container} (told : c.ToldApart)
include told

theorem ToldApart.nodup_entitiesOf (kind : Comparable) :
    ((c.entitiesOf kind).map (Entity.subject kind.key)).Nodup := by
  cases kind with
  | tags => exact told _ (by simp [subjects, Comparable.key, entitiesOf])
  | triggers => exact told _ (by simp [subjects, Comparable.key, entitiesOf])
  | userVariables => exact told _ (by simp [subjects, Comparable.key, entitiesOf])

/-- The entities that are kept of the groups of copies are different ones. -/
theorem ToldApart.nodup_kept (kind : Comparable) :
    ((c.duplicates kind).flatMap fun row => (row.2.take 1).map (Entity.subject kind.key)).Nodup := by
  have keyed : (c.duplicates kind).Pairwise fun row other => row.1 ≠ other.1 := by
    refine List.Pairwise.filter _ (List.pairwise_map.mpr ?_)
    exact distinct_nodup _
  have grouped {row : String × List Entity} (member : row ∈ c.duplicates kind) :
      row.2 = (c.entitiesOf kind).filter fun e => kind.signature e == row.1 :=
    (mem_groupBy.mp (List.mem_filter.mp member).1).2
  refine List.nodup_flatMap.mpr ⟨fun row member => ?_, keyed.imp_of_mem fun {row other} first second differ => ?_⟩
  · rw [grouped member]
    exact (told.nodup_entitiesOf kind).sublist (((List.take_sublist 1 _).trans List.filter_sublist).map _)
  · -- An entity that is kept of two groups would have two signatures.
    intro subject one two
    obtain ⟨e, taken, rfl⟩ := List.mem_map.mp one
    obtain ⟨f, alsoTaken, same⟩ := List.mem_map.mp two
    have inFirst := List.mem_of_mem_take taken
    have inSecond := List.mem_of_mem_take alsoTaken
    rw [grouped first] at inFirst
    rw [grouped second] at inSecond
    obtain ⟨known, signed⟩ := List.mem_filter.mp inFirst
    obtain ⟨alsoKnown, alsoSigned⟩ := List.mem_filter.mp inSecond
    obtain rfl : f = e := List.inj_on_of_nodup_map (told.nodup_entitiesOf kind) alsoKnown known same
    exact differ ((eq_of_beq signed).symm.trans (eq_of_beq alsoSigned))

end Container

open Recording

namespace EntityRule

variable {s : Subject}

/-- The entities that pass the test of a rule. -/
def passing (rule : EntityRule) (c : Container) : List Entity :=
  (c.entitiesOf rule.kind).filter (passes rule.test)

/-- What the issues of a rule are about. -/
def subjects (rule : EntityRule) (c : Container) : List (String × String) :=
  match rule.message? with
  | some _ => (rule.passing c).map (Entity.subject rule.kind.key)
  | none => [noSubject]

theorem bounded_report (rule : EntityRule) (c : Container) :
    (rule.report (rule.passing c)).Bounded (rule.subjects c) [] := by
  unfold report subjects
  cases rule.message? with
  | some message =>
    have each : ∀ e ∈ rule.passing c, Bounded [e.subject rule.kind.key] []
        (Recording.ofExcept (message e) >>= fun text => addIssue (rule.issueAbout e text)) := fun e _ =>
      bounded_ofExcept_bind fun text _ => (adds_addIssue (rule.issueAbout e text)).bounded
    exact bounded_forM_issues each
  | none =>
    have written := (adds_addIssue (rule.sharedIssue (rule.passing c))).bounded
    have nothing : (rule.sharedIssue (rule.passing c)).subject = noSubject := subject_noEntity rule.kind.key
    refine bounded_ite bounded_pure ?_
    rw [← nothing]
    exact written

theorem bounded_run (rule : EntityRule) : (rule.run s).Bounded (rule.subjects s.container) [] :=
  bounded_ofExcept_bind fun found run => by
    obtain rfl : found = rule.passing s.container := eq_filter_of_filterM run
    exact rule.bounded_report s.container

theorem bounded_runs (rules : List EntityRule) (s : Subject) :
    ((rules.map fun rule : EntityRule => rule.run s).forM id).Bounded
      (rules.flatMap fun rule => rule.subjects s.container) [] := by
  rw [List.forM_eq_forM, List.forM_map]
  exact bounded_forM_subjects fun rule (_ : rule ∈ rules) => rule.bounded_run

/-- A tag of a legacy type is no custom HTML tag. -/
theorem blockingReasons_of_legacy {t : Entity} (legacy : t.isLegacyAnalytics = true) : t.blockingReasons = [] := by
  have noHtml : t.type.isStr "html" = false := by
    unfold Entity.isLegacyAnalytics Json.isOneOf at legacy
    cases type : t.type with
    | str s =>
      simp only [type, List.contains_iff_mem, List.mem_cons, List.not_mem_nil, or_false] at legacy
      rcases legacy with rfl | rfl
      · rfl
      · rfl
    | _ => rfl
  have empty : t.html = "" := by
    rw [Entity.html, noHtml]
    rfl
  rw [Entity.blockingReasons, empty]
  rfl

variable {c : Container} (told : c.ToldApart)
include told

theorem nodup_subjects (rule : EntityRule) : (rule.subjects c).Nodup := by
  unfold subjects
  split
  · exact (told.nodup_entitiesOf rule.kind).sublist (List.filter_sublist.map _)
  · exact List.nodup_singleton noSubject

/-- Of the checks with rules only one has several, and no tag passes both of them. -/
theorem nodup_flatMap_subjects (check : String) :
    ((rules.filter (·.check == check)).flatMap (·.subjects c)).Nodup := by
  by_cases heavy : check = "heavy_tags"
  · subst heavy
    change ((c.tags.filter Entity.isLegacyAnalytics).map (Entity.subject "tag") ++
      ((c.tags.filter fun t : Entity => !t.blockingReasons.isEmpty).map (Entity.subject "tag") ++ [])).Nodup
    rw [List.append_nil]
    refine nodup_map_filters (told.nodup_entitiesOf .tags) fun t legacy => ?_
    rw [blockingReasons_of_legacy legacy]
    rfl
  · have single : rules.Pairwise fun a b => a.check = b.check → a.check = "heavy_tags" := by decide
    refine List.nodup_flatMap.mpr ⟨fun rule _ => nodup_subjects told rule, ?_⟩
    refine (single.filter (·.check == check)).imp_of_mem fun {a b} first second same => ?_
    have ofFirst : a.check = check := eq_of_beq (List.mem_filter.mp first).2
    have ofSecond : b.check = check := eq_of_beq (List.mem_filter.mp second).2
    exact absurd (ofFirst.symm.trans (same (ofFirst.trans ofSecond.symm))) heavy

end EntityRule

namespace ThresholdRule

variable {s : Subject}

theorem bounded_run (rule : ThresholdRule) : (rule.run s).Bounded [] [rule.title] :=
  bounded_ofExcept_bind fun _ _ => bounded_ite bounded_pure (adds_addSuggestion _).bounded

theorem bounded_runs (rules : List ThresholdRule) (s : Subject) :
    ((rules.map fun rule : ThresholdRule => rule.run s).forM id).Bounded [] (rules.map fun rule => rule.title) := by
  have all := bounded_forM fun rule (_ : rule ∈ rules) => rule.bounded_run (s := s)
  rw [List.forM_eq_forM, List.forM_map]
  rwa [List.flatMap_eq_nil_iff.mpr fun _ _ => rfl, ← List.map_eq_flatMap] at all

theorem nodup_titles (check : String) : ((rules.filter (·.check == check)).map title).Nodup := by
  have different : rules.Pairwise fun a b => a.title ≠ b.title := by decide
  exact List.pairwise_map.mpr (different.filter _)

end ThresholdRule

namespace Check

variable {s : Subject} {check : String}

theorem bounded_suggest (check impact category title message : String) (entities : List Entity) :
    (suggest check impact category title message entities).Bounded [] [title] := (adds_addSuggestion _).bounded

theorem bounded_sharedIssue (check severity category title message : String) (extra : List (String × Json)) :
    (sharedIssue check severity category title message extra).Bounded [noSubject] [] := (adds_addIssue _).bounded

theorem bounded_unusedIssues (check kind title : String) (message : String → String) (severity : String)
    (entities : List Entity) :
    (unusedIssues check kind title message severity entities).Bounded (entities.map (Entity.subject kind)) [] :=
  bounded_forM_issues fun _ _ => (adds_addIssue _).bounded

theorem bounded_duplicateIssues (check severity : String) (kind : Comparable) (c : Container) :
    (duplicateIssues check severity kind c).Bounded
      ((c.duplicates kind).flatMap fun row => (row.2.take 1).map (Entity.subject kind.key)) [] := by
  refine bounded_forM_subjects fun row _ => ?_
  obtain ⟨signature, group⟩ := row
  cases group with
  | nil => exact bounded_pure
  | cons keep copies => exact (adds_addIssue _).bounded

theorem bounded_nestedReferences (s : Subject) :
    (nestedReferences s).Bounded (s.container.userVariables.map (Entity.subject "variable")) [] :=
  bounded_forM_issues fun _ _ => bounded_ofExcept_bind fun _ _ => bounded_ite (adds_addIssue _).bounded bounded_pure

theorem bounded_missingDescriptions (s : Subject) : (missingDescriptions s).Bounded [] ["Add descriptions"] :=
  bounded_ite bounded_pure (bounded_ofExcept_bind fun _ _ => bounded_ite (bounded_suggest _ _ _ _ _ _) bounded_pure)

/-- The checks that may write several findings about one subject, or under one title. -/
def repeating : List String :=
  ["ga4_configuration", "circular_dependencies", "variable_references", "permission_rules"]

theorem special_distinguishes (told : s.container.ToldApart) (ordinary : check ∉ repeating) :
    (special check s).Distinguishes := by
  have unused (kind title : String) (message : String → String) (severity : String) {entities all : List Entity}
      (known : all.map (Entity.subject kind) ∈ s.container.subjects) (few : entities.Sublist all) :
      (unusedIssues check kind title message severity entities).Distinguishes :=
    (bounded_unusedIssues check kind title message severity entities).distinguishes_subjects
      ((told _ known).sublist (few.map _))
  have copies (severity : String) (kind : Comparable) :
      (duplicateIssues check severity kind s.container).Distinguishes :=
    (bounded_duplicateIssues check severity kind s.container).distinguishes_subjects (told.nodup_kept kind)
  unfold special
  dsimp only
  split
  · exact unused _ _ _ _ (by simp [Container.subjects]) List.filter_sublist
  · exact unused _ _ _ _ (by simp [Container.subjects]) List.filter_sublist
  · exact unused _ _ _ _ (by simp [Container.subjects]) List.filter_sublist
  · exact unused _ _ _ _ (by simp [Container.subjects]) List.filter_sublist
  · exact unused _ _ _ _ (by simp [Container.subjects]) List.filter_sublist
  · exact copies _ _
  · exact copies _ _
  · exact copies _ _
  · exact (bounded_ite (bounded_suggest _ _ _ _ _ _) bounded_pure).distinguishes_title
  · exact (bounded_ite (bounded_suggest _ _ _ _ _ _) bounded_pure).distinguishes_title
  · simp [repeating] at ordinary
  · exact (bounded_ite (bounded_suggest _ _ _ _ _ _) bounded_pure).distinguishes_title
  · simp [repeating] at ordinary
  · exact (bounded_ite bounded_pure (bounded_suggest _ _ _ _ _ _)).distinguishes_title
  · exact (bounded_ite (bounded_suggest _ _ _ _ _ _) bounded_pure).distinguishes_title
  · exact (bounded_ite bounded_pure (bounded_suggest _ _ _ _ _ _)).distinguishes_title
  · exact (bounded_missingDescriptions s).distinguishes_title
  · simp [repeating] at ordinary
  · exact (bounded_ite (bounded_sharedIssue _ _ _ _ _ _) bounded_pure).distinguishes_subjects (List.nodup_singleton _)
  · exact (bounded_ite bounded_pure (bounded_sharedIssue _ _ _ _ _ _)).distinguishes_subjects (List.nodup_singleton _)
  · exact (bounded_ite bounded_pure (bounded_suggest _ _ _ _ _ _)).distinguishes_title
  · simp [repeating] at ordinary
  · exact (bounded_nestedReferences s).distinguishes_subjects (told.nodup_entitiesOf .userVariables)
  · exact distinguishes_pure

/-- The checks with rules do not have an algorithm of their own besides. -/
theorem special_of_ruled (ruled : check ∈ EntityRule.rules.map (·.check) ++ ThresholdRule.rules.map (·.check)) :
    special check s = pure () := by
  simp only [EntityRule.rules, ThresholdRule.rules, List.map_cons, List.map_nil, List.cons_append, List.nil_append,
    List.mem_cons, List.not_mem_nil, or_false] at ruled
  rcases ruled with rfl | rfl | rfl | rfl | rfl | rfl | rfl | rfl | rfl | rfl | rfl | rfl | rfl | rfl | rfl | rfl
  all_goals rfl

theorem bounded_run {subjects : List (String × String)} {titles : List String}
    (special : (special check s).Bounded subjects titles) : (run check s).Bounded
      ((EntityRule.rules.filter (·.check == check)).flatMap (·.subjects s.container) ++ subjects)
      ((ThresholdRule.rules.filter (·.check == check)).map (·.title) ++ titles) := by
  have own : (List.forM [Check.special check s] id).Bounded (subjects ++ []) (titles ++ []) :=
    special.bind (k := fun _ => pure ()) bounded_pure
  rw [List.append_nil, List.append_nil] at own
  rw [run, parts, List.append_assoc, List.forM_eq_forM, List.forM_append, List.forM_append]
  exact (EntityRule.bounded_runs _ s).bind ((ThresholdRule.bounded_runs _ s).bind own)

/-- A check that does not repeat itself tells its findings apart if the container does so with its entities. -/
theorem run_distinguishes (told : s.container.ToldApart) (ordinary : check ∉ repeating) :
    (run check s).Distinguishes := by
  by_cases ruled : check ∈ EntityRule.rules.map (·.check) ++ ThresholdRule.rules.map (·.check)
  · have idle : (special check s).Bounded [] [] := special_of_ruled ruled ▸ bounded_pure
    have bounded := bounded_run idle
    rw [List.append_nil, List.append_nil] at bounded
    exact ⟨_, _, bounded, EntityRule.nodup_flatMap_subjects told check, ThresholdRule.nodup_titles check⟩
  · obtain ⟨subjects, titles, bounded, nodup⟩ := special_distinguishes told ordinary
    rw [List.mem_append, not_or] at ruled
    have noEntityRule : EntityRule.rules.filter (·.check == check) = [] :=
      List.filter_eq_nil_iff.mpr fun rule member same => ruled.1 (List.mem_map.mpr ⟨rule, member, eq_of_beq same⟩)
    have noThresholdRule : ThresholdRule.rules.filter (·.check == check) = [] :=
      List.filter_eq_nil_iff.mpr fun rule member same => ruled.2 (List.mem_map.mpr ⟨rule, member, eq_of_beq same⟩)
    have whole := bounded_run bounded
    rw [noEntityRule, noThresholdRule] at whole
    exact ⟨subjects, titles, whole, nodup⟩

end Check

end TagAudit

import TagAudit.Dashboard.Page
import TagAudit.Proofs.Dashboard.Reading

namespace TagAudit

theorem mem_of_filterMapM {α β ε : Type} {f : α → Except ε (Option β)} {xs : List α} {ys : List β}
    (run : xs.filterMapM f = .ok ys) {y : β} (member : y ∈ ys) : ∃ x ∈ xs, f x = .ok (some y) := by
  induction xs generalizing ys with
  | nil =>
    cases run
    exact absurd member List.not_mem_nil
  | cons x rest ih =>
    rw [List.filterMapM_cons] at run
    obtain ⟨found, here, later⟩ := ok_of_bind run
    cases found with
    | none =>
      obtain ⟨other, known, same⟩ := ih later member
      exact ⟨other, List.mem_cons_of_mem _ known, same⟩
    | some first =>
      obtain ⟨others, collected, shape⟩ := ok_of_bind later
      cases shape
      rcases List.mem_cons.mp member with rfl | behind
      · exact ⟨x, List.mem_cons_self, here⟩
      · obtain ⟨other, known, same⟩ := ih collected behind
        exact ⟨other, List.mem_cons_of_mem _ known, same⟩

namespace Card

/-- A card whose title and action are texts, and whose items are a list. -/
structure Legible (c : Card) : Prop where
  title : c.title.isText = true
  action : c.action.isText = true
  items : c.items.isList = true

theorem Legible.exists_render {c : Card} (legible : c.Legible) : ∃ markup, render c.toJson = .ok markup := by
  obtain ⟨priority, category, title, impact, action, items, scrolls⟩ := c
  obtain ⟨isTitle, isAction, isList⟩ := legible
  obtain ⟨title, rfl⟩ := Json.exists_of_isText isTitle
  obtain ⟨action, rfl⟩ := Json.exists_of_isText isAction
  cases items with
  | arr items =>
    -- Only an action that is there becomes a paragraph.
    change ∃ markup, (if (Json.str action).holds = true then _ else _) = Except.ok markup
    split
    · exact ⟨_, rfl⟩
    · exact ⟨_, rfl⟩
  | _ => cases isList

theorem legible_of_ofRecommendations {r : Report} {cards : List Card}
    (made : ofRecommendations r.toJson = .ok cards) : ∀ card ∈ cards, card.Legible := by
  intro card member
  obtain ⟨advice, known, read⟩ := forall₂_of_mem_right (forall₂_of_mapM made) member
  obtain ⟨recommendation, _, rfl⟩ := List.mem_map.mp known
  cases read
  exact ⟨rfl, rfl, rfl⟩

theorem legible_of_ofUnused {r : Report} {cards : List Card} (made : ofUnused r.toJson = .ok cards) :
    ∀ card ∈ cards, card.Legible := by
  intro card member
  let unused := Json.obj (r.container.unused.map fun row => (row.1, Report.namesJson row.2))
  obtain ⟨kind, known, read⟩ := mem_of_filterMapM (f := ofUnusedKind unused) made member
  have named : ∃ names, unused.getFieldOr kind (.arr []) = .ok (.arr names) := by
    simp only [unusedKinds, List.mem_cons, List.not_mem_nil, or_false] at known
    rcases known with rfl | rfl | rfl | rfl | rfl <;> exact ⟨_, rfl⟩
  obtain ⟨names, found⟩ := named
  rw [ofUnusedKind, found, ok_bind] at read
  split at read
  · cases read
  · cases read
    exact ⟨rfl, rfl, rfl⟩

theorem legible_of_ofDuplicates {report : Json} {cards : List Card} (made : ofDuplicates report = .ok cards) :
    ∀ card ∈ cards, card.Legible := by
  obtain ⟨duplicates, _, made⟩ := ok_of_bind made
  cases duplicates with
  | obj kinds =>
    obtain ⟨lines, _, made⟩ := ok_of_bind made
    dsimp only at made
    split at made
    · cases made
      exact fun _ member => absurd member List.not_mem_nil
    · cases made
      exact fun _ member => List.mem_singleton.mp member ▸ ⟨rfl, rfl, rfl⟩
  | _ => cases made

theorem legible_of_ofSuggestions {report : Json} {cards : List Card} (made : ofSuggestions report = .ok cards) :
    ∀ card ∈ cards, card.Legible := by
  obtain ⟨suggestions, _, made⟩ := ok_of_bind made
  split at made
  · cases made
    exact fun _ member => absurd member List.not_mem_nil
  · obtain ⟨_, _, made⟩ := ok_of_bind made
    obtain ⟨lines, _, made⟩ := ok_of_bind made
    cases made
    exact fun _ member => List.mem_singleton.mp member ▸ ⟨rfl, rfl, rfl⟩

theorem legible_of_ofReport {r : Report} {cards : List Card} (made : ofReport r.toJson = .ok cards) :
    ∀ card ∈ cards, card.Legible := by
  obtain ⟨recommendations, first, made⟩ := ok_of_bind made
  obtain ⟨unused, second, made⟩ := ok_of_bind made
  obtain ⟨duplicates, third, made⟩ := ok_of_bind made
  obtain ⟨suggestions, last, made⟩ := ok_of_bind made
  cases made
  simp only [List.forall_mem_append]
  exact ⟨⟨⟨legible_of_ofRecommendations first, legible_of_ofUnused second⟩, legible_of_ofDuplicates third⟩,
    legible_of_ofSuggestions last⟩

theorem exists_renderAll {r : Report} {cards : List Card} (made : ofReport r.toJson = .ok cards) :
    ∃ markup, renderAll (.arr (cards.map toJson)) = .ok markup := by
  obtain ⟨parts, rendered⟩ : ∃ parts, (cards.map toJson).mapM render = .ok parts := by
    refine exists_mapM fun card member => ?_
    obtain ⟨c, known, rfl⟩ := List.mem_map.mp member
    exact (legible_of_ofReport made c known).exists_render
  rw [renderAll, Json.elements, ok_bind, rendered]
  exact ⟨_, rfl⟩

end Card

namespace Dashboard

theorem report_of_ofReport {report : Json} {d : Dashboard} (made : ofReport report = .ok d) : d.report = report := by
  -- Every part is read before the dashboard is put together.
  repeat obtain ⟨_, _, made⟩ := ok_of_bind made
  cases made
  rfl

/-- A dashboard can be made of a report exactly if the advice on duplicates can be shown. -/
theorem ofReport_needs (c : Container) (config : RulesConfig) (moment : Moment) :
    Needs (ofReport (Report.ofContainer c config moment).toJson) .notJoinable c.NamesDuplicates := by
  let r := Report.ofContainer c config moment
  obtain ⟨rows, issues⟩ := IssueRow.exists_ofReport (r := r) (RulesEngine.runAll_keepsFields (.start c config))
  obtain ⟨scores, numbers⟩ := Figures.exists_scoresOf r
  rw [ofReport, issues, ok_bind, numbers, ok_bind]
  refine (Card.ofReport_needs r).bind_ok fun cards made => ?_
  obtain ⟨markup, rendered⟩ := Card.exists_renderAll made
  obtain ⟨figures, drawn⟩ : ∃ figures, Figures.ofReport r.toJson rows scores = .ok figures := ⟨_, rfl⟩
  have info : r.toJson.getFieldOr "containerInfo" (.obj []) = .ok r.container.info.toJson := rfl
  have counts : r.container.info.toJson.getFieldOr "counts" (.obj []) =
    .ok (.obj (r.container.info.counts.map fun row => (row.1, .int row.2))) := rfl
  rw [info, ok_bind, counts, ok_bind, drawn, ok_bind, rendered, ok_bind]
  exact ⟨_, rfl⟩

end Dashboard

end TagAudit

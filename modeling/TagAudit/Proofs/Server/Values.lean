import TagAudit.Proofs.Server.Frame
import TagAudit.Proofs.Server.FreeName

namespace TagAudit.Server

/-- The values of a tag that its server tag needs, by the parameters of the server tag. -/
def carried (tag : Entity) : List (String × Json) :=
  match tag.type with
  | .str "gaawe" | .str "gawc" => [("measurementId", Draft.measurementId tag)]
  | .str "awct" => [("conversionId", tag.parameterValue "conversionId"),
      ("conversionLabel", tag.parameterValue "conversionLabel")]
  | .str "adsct" => [("conversionId", tag.parameterValue "conversionId")]
  | _ => []

/-- A text that can be copied stands for itself, in the place of others stands what to fill in. -/
def StandsFor (value text : String) : Prop :=
  if isConcrete text then value = text else ∃ what, value = placeholder what

namespace Draft

variable {d : Draft} {value : Json}

/-- Constants are told from other variables by their names, and those that are registered for texts
stand for these texts. -/
structure Stocked (d : Draft) : Prop where
  named : ∀ c ∈ d.constants, ∃ what, c.name = constantName what
  valued : ∀ row ∈ d.constantOf, ∃ c ∈ d.constants, c.name = row.2 ∧ StandsFor c.value row.1

theorem empty_stocked : empty.Stocked where
  named := by simp [empty]
  valued := by simp [empty]

theorem freeNameFrom_constantName (d : Draft) (what : String) (tries number : Nat) :
    ∃ more, d.freeNameFrom (constantName what) tries number = constantName more := by
  have numbered (n : Nat) : numberedName (constantName what) n =
      constantName (what ++ " " ++ Numeral.ofInt n) := by
    simp only [numberedName, constantName, String.append_assoc]
  induction tries generalizing number with
  | zero => exact ⟨_, numbered number⟩
  | succ tries ih =>
    unfold freeNameFrom
    split
    · exact ih (number + 1)
    · exact ⟨_, numbered number⟩

theorem freeName_constantName (d : Draft) (what : String) :
    ∃ more, d.freeName (constantName what) = constantName more := by
  unfold freeName
  split
  · exact d.freeNameFrom_constantName what _ _
  · exact ⟨what, rfl⟩

theorem Stocked.addConstant (stocked : d.Stocked) (what value : String) :
    (d.addConstant (constantName what) value).Stocked where
  named := by
    intro c member
    rcases List.mem_append.mp member with old | new
    · exact stocked.named c old
    · cases List.mem_singleton.mp new
      exact ⟨what, rfl⟩
  valued := by
    intro row registered
    obtain ⟨c, member, name, stands⟩ := stocked.valued row registered
    exact ⟨c, List.mem_append_left _ member, name, stands⟩

theorem Stocked.ensureConstant (stocked : d.Stocked) (what value : String) :
    (d.ensureConstant (constantName what) value).Stocked := by
  unfold Draft.ensureConstant
  split
  · exact stocked
  · exact stocked.addConstant what value

theorem Stocked.addValue (stocked : d.Stocked) (value : Json) (base what : String) :
    (d.addValue value (constantName base) what).Stocked := by
  unfold Draft.addValue
  split
  · rename_i text
    split
    · exact stocked
    · obtain ⟨more, name⟩ := d.freeName_constantName base
      dsimp only
      rw [name]
      have added := stocked.addConstant more (if isConcrete text then text else placeholder what)
      refine ⟨added.named, fun row registered => ?_⟩
      rcases List.mem_append.mp registered with old | new
      · exact added.valued row old
      · cases List.mem_singleton.mp new
        refine ⟨_, List.mem_append_right _ List.mem_cons_self, rfl, ?_⟩
        unfold StandsFor
        split
        · rfl
        · exact ⟨what, rfl⟩
  · exact stocked

theorem Stocked.addConversion (stocked : d.Stocked) (tag : Entity) : (d.addConversion tag).Stocked :=
  (stocked.addValue _ _ _).addValue _ _ _

theorem Stocked.addConstantsOf (stocked : d.Stocked) (tag : Entity) :
    (d.addConstantsOf tag).Stocked := by
  unfold Draft.addConstantsOf
  split
  · exact stocked.addValue _ _ _
  · exact stocked.addValue _ _ _
  · exact stocked.addConversion tag
  · exact stocked.addConversion tag
  · exact List.foldlRecOn _ _ stocked fun _ stocked c _ => stocked.ensureConstant _ _
  · exact stocked

theorem Stocked.addConstants (stocked : d.Stocked) (s : Selection) (address : Option String) :
    (d.addConstants s address).Stocked := by
  refine Stocked.ensureConstant ?_ _ _
  exact List.foldlRecOn _ _ stocked fun _ stocked tag _ => stocked.addConstantsOf tag

/-- A value that is a text has a constant. -/
def Provides (d : Draft) (value : Json) : Prop :=
  ∀ text, value = .str text → text ≠ "" → (d.constantOf.lookup text).isSome = true

theorem Provides.of_append {e : Draft} {rows : List (String × String)} (provides : d.Provides value)
    (grown : e.constantOf = d.constantOf ++ rows) : e.Provides value := by
  intro text isText nonempty
  rw [grown, List.lookup_append, Option.isSome_or, provides text isText nonempty, Bool.true_or]

theorem Provides.of_same {e : Draft} (provides : d.Provides value)
    (same : e.constantOf = d.constantOf) : e.Provides value :=
  provides.of_append (same.trans (List.append_nil _).symm)

theorem ensureConstant_constantOf (d : Draft) (name value : String) :
    (d.ensureConstant name value).constantOf = d.constantOf := by
  unfold ensureConstant
  split
  · rfl
  · rfl

theorem Provides.addValue (provides : d.Provides value) (other : Json) (base what : String) :
    (d.addValue other base what).Provides value := by
  unfold Draft.addValue
  split
  · split
    · exact provides
    · exact provides.of_append rfl
  · exact provides

theorem addValue_provides (d : Draft) (value : Json) (base what : String) :
    (d.addValue value base what).Provides value := by
  rintro text rfl nonempty
  unfold addValue
  by_cases known : (d.constantOf.lookup text).isSome = true
  · simp [known]
  · simp [known, nonempty, List.lookup_append]

theorem Provides.addConstantsOf (provides : d.Provides value) (tag : Entity) :
    (d.addConstantsOf tag).Provides value := by
  unfold Draft.addConstantsOf
  split
  · exact provides.addValue _ _ _
  · exact provides.addValue _ _ _
  · exact (provides.addValue _ _ _).addValue _ _ _
  · exact (provides.addValue _ _ _).addValue _ _ _
  · refine List.foldlRecOn (motive := fun e : Draft => e.Provides value) _ _ provides ?_
    exact fun _ before c _ => before.of_same (ensureConstant_constantOf _ _ _)
  · exact provides

/-- The constants of a tag provide for all values that its server tag needs. -/
theorem addConstantsOf_provides (d : Draft) {tag : Entity} {row : String × Json}
    (member : row ∈ carried tag) : (d.addConstantsOf tag).Provides row.2 := by
  have ofConversion (isId : row.2 = tag.parameterValue "conversionId" ∨
      row.2 = tag.parameterValue "conversionLabel") : (d.addConversion tag).Provides row.2 := by
    rcases isId with isId | isLabel
    · rw [isId]
      exact (addValue_provides _ _ _ _).addValue _ _ _
    · rw [isLabel]
      exact addValue_provides _ _ _ _
  unfold carried at member
  split at member
  · rename_i type
    rw [addConstantsOf, type, List.mem_singleton.mp member]
    exact addValue_provides _ _ _ _
  · rename_i type
    rw [addConstantsOf, type, List.mem_singleton.mp member]
    exact addValue_provides _ _ _ _
  · rename_i type
    rw [addConstantsOf, type]
    refine ofConversion ?_
    simp only [List.mem_cons, List.not_mem_nil, or_false] at member
    exact member.imp (congrArg Prod.snd) (congrArg Prod.snd)
  · rename_i type
    rw [addConstantsOf, type]
    exact ofConversion (Or.inl (congrArg Prod.snd (List.mem_singleton.mp member)))
  · cases member

theorem addConstants_provides (d : Draft) (s : Selection) (address : Option String) {tag : Entity}
    (isTag : tag ∈ s.tags) {row : String × Json} (member : row ∈ carried tag) :
    (d.addConstants s address).Provides row.2 := by
  refine Provides.of_same ?_ (ensureConstant_constantOf _ _ _)
  obtain ⟨before, after, split⟩ := List.append_of_mem isTag
  rw [split, List.foldl_append, List.foldl_cons]
  refine List.foldlRecOn (motive := fun e : Draft => e.Provides row.2) _ _
    (addConstantsOf_provides _ member) ?_
  exact fun _ provides other _ => provides.addConstantsOf other

end Draft

end TagAudit.Server

namespace TagAudit.ServerGenerator

open Server

variable (g : ServerGenerator) (s : Selection)

/-- Only one of the steps makes constants. -/
theorem perform_constants {d : Draft} {step : Step} (other : step ≠ .constants) :
    (g.perform s d step).constants = d.constants ∧ (g.perform s d step).constantOf = d.constantOf := by
  cases step with
  | folders =>
    obtain ⟨_, _, same⟩ := d.addFolders_frame s
    rw [perform, same]
    exact ⟨rfl, rfl⟩
  | constants => exact absurd rfl other
  | eventVariables =>
    obtain ⟨_, _, same⟩ := d.addEventVariables_frame
    rw [perform, same]
    exact ⟨rfl, rfl⟩
  | templates =>
    obtain ⟨_, _, _, same⟩ := d.addTemplates_frame s g.catalog g.vendors
    rw [perform, same]
    exact ⟨rfl, rfl⟩
  | clients =>
    obtain ⟨_, _, same⟩ := d.addClients_frame s
    rw [perform, same]
    exact ⟨rfl, rfl⟩
  | triggers =>
    obtain ⟨_, _, _, same⟩ := d.addTriggers_frame s g.container
    rw [perform, same]
    exact ⟨rfl, rfl⟩
  | tags =>
    obtain ⟨_, _, _, _, _, same⟩ := d.addTags_frame s g.container g.catalog
    rw [perform, same]
    exact ⟨rfl, rfl⟩

theorem perform_stocked {d : Draft} (stocked : d.Stocked) (step : Step) :
    (g.perform s d step).Stocked := by
  by_cases constants : step = .constants
  · subst constants
    exact stocked.addConstants s g.address
  · obtain ⟨sameConstants, sameRows⟩ := g.perform_constants s (d := d) constants
    refine ⟨?_, ?_⟩
    · rw [sameConstants]
      exact stocked.named
    · rw [sameConstants, sameRows]
      exact stocked.valued

theorem draftOf_stocked : (g.draftOf s).Stocked :=
  List.foldlRecOn _ _ Draft.empty_stocked fun _ stocked step _ => g.perform_stocked s stocked step

/-- The constants of a generated draft are those made by the one step. -/
theorem draftOf_constants :
    (g.draftOf s).constants = ((Draft.empty.addFolders s).addConstants s g.address).constants ∧
      (g.draftOf s).constantOf = ((Draft.empty.addFolders s).addConstants s g.address).constantOf := by
  have stepwise : g.draftOf s = [Step.eventVariables, .templates, .clients, .triggers, .tags].foldl
      (g.perform s) ((Draft.empty.addFolders s).addConstants s g.address) := rfl
  have other : ∀ step ∈ [Step.eventVariables, .templates, .clients, .triggers, .tags],
      step ≠ .constants := by decide
  rw [stepwise]
  refine List.foldlRecOn (motive := fun d : Draft => d.constants = _ ∧ d.constantOf = _) _ _ ⟨rfl, rfl⟩ ?_
  intro d before step isLater
  have same := g.perform_constants s (d := d) (other step isLater)
  exact ⟨same.1.trans before.1, same.2.trans before.2⟩

/-- Every text that a server tag needs has a constant before the server tags are made. -/
theorem draftOf_provides {tag : Entity} (isTag : tag ∈ s.tags) {row : String × Json}
    (member : row ∈ carried tag) : (g.draftOf s).Provides row.2 :=
  (Draft.addConstants_provides _ s g.address isTag member).of_same (g.draftOf_constants s).2

end TagAudit.ServerGenerator

import TagAudit.Migration.Plan

namespace TagAudit

namespace Json

/-- Lists and objects cannot be keys. -/
def isCollection : Json → Bool
  | arr _ | obj _ => true
  | _ => false

theorem scalar_needs (value : Json) : Needs value.scalar .notKey (value.isCollection = false) := by
  cases value with
  | arr _ | obj _ => exact ⟨fun fits => Bool.noConfusion fits, fun _ => rfl⟩
  | _ => exact (Needs.ok _).congr (by simp [isCollection])

theorem eq_empty_of_not_holds {value : Json} (unset : value.holds = false) : value.textOrEmpty = "" := by
  cases value with
  | str s =>
    rw [holds, Bool.not_eq_false', String.isEmpty_iff] at unset
    exact unset
  | _ => rfl

theorem textOrEmpty_of_needText {value : Json} {s : String} (read : value.needText = .ok s) :
    value.textOrEmpty = s := by
  cases value with
  | str t => exact Except.ok.inj read
  | _ => cases read

end Json

namespace Entity

theorem isText_of_isMigratableTag {tag : Entity} (migrates : tag.isMigratableTag = true) :
    tag.type.isText = true := by
  unfold isMigratableTag at migrates
  cases type : tag.type with
  | str s => rfl
  | _ => simp [type, Json.isStr, Json.isOneOf] at migrates

/-- The priority of a tag can be looked up where its type is a key. -/
theorem migrationPriority_needs (tag : Entity) :
    Needs tag.migrationPriority .notKey (tag.type.isCollection = false) := by
  unfold migrationPriority
  refine (Json.scalar_needs tag.type).bind_ok fun type _ => ?_
  split <;> exact ⟨_, rfl⟩

/-- Words in the name of a tag that are reason enough to keep it in the browser. -/
def browserWords : List String := ["consent", "optimizely", "ab test"]

/-- A tag for which there is an answer why it stays in the browser: a name that is given is a text, and so is a type,
except where the name says it all. -/
structure Explainable (tag : Entity) : Prop where
  name : (tag.get "name").holds = true → (tag.get "name").isText = true
  type : tag.type.holds = true → tag.type.isText = true ∨ Text.containsAny tag.lowerName browserWords = true

/-- The name in which reasons are looked for. -/
def nameText (tag : Entity) : Except Fault String :=
  if (tag.get "name").holds then (tag.get "name").needText else .ok ""

theorem nameText_needs (tag : Entity) :
    Needs tag.nameText .notText ((tag.get "name").holds = true → (tag.get "name").isText = true) := by
  unfold nameText
  split
  · rename_i given
    exact (Json.needText_needs _).congr ⟨fun text _ => text, fun text => text given⟩
  · rename_i unset
    exact (Needs.ok "").congr (iff_of_true trivial fun given => absurd given unset)

theorem name_of_nameText {tag : Entity} {s : String} (read : tag.nameText = .ok s) : tag.name = s := by
  unfold nameText at read
  split at read
  · exact Json.textOrEmpty_of_needText read
  · rename_i unset
    rw [name, Json.eq_empty_of_not_holds (Bool.eq_false_iff.mpr unset)]
    exact Except.ok.inj read

/-- The reason for a tag whose name and type have been read. -/
def reasonFor (name : String) (type : Json) : Except Fault String := do
  if type.isStr "html" then return "Custom HTML with DOM manipulation"
  if type.isStr "cmp" || Text.contains name "consent" then
    return "Consent management needs browser APIs"
  if type.isStr "a" || Text.containsAny name ["optimizely", "ab test"] then
    return "A/B testing must run client-side"
  if Text.startsWith (← type.needText) "k" then return "Built-in tag"
  return "Requires browser context"

theorem clientSideReason_eq (tag : Entity) : tag.clientSideReason =
    tag.nameText >>= fun s => reasonFor (Text.lower s) (if tag.type.holds then tag.type else .str "") := by
  unfold clientSideReason nameText
  dsimp only
  split <;> rfl

theorem containsAny_browserWords (name : String) : Text.containsAny name browserWords =
    (Text.contains name "consent" || Text.containsAny name ["optimizely", "ab test"]) := rfl

theorem reasonFor_needs (name : String) (type : Json) : Needs (reasonFor name type) .notText
    (type.isText = true ∨ Text.containsAny name browserWords = true) := by
  have text {s : String} (same : type.isStr s = true) : type.isText = true := by rw [Json.isStr_iff.mp same]; rfl
  unfold reasonFor
  rw [containsAny_browserWords]
  split
  · rename_i html
    exact (Needs.ok _).congr (iff_of_true trivial (Or.inl (text html)))
  split
  · rename_i consent
    refine (Needs.ok _).congr (iff_of_true trivial ?_)
    rcases Bool.or_eq_true_iff.mp consent with cmp | word
    · exact Or.inl (text cmp)
    · exact Or.inr (by rw [word, Bool.true_or])
  rename_i noConsent
  split
  · rename_i testing
    refine (Needs.ok _).congr (iff_of_true trivial ?_)
    rcases Bool.or_eq_true_iff.mp testing with a | word
    · exact Or.inl (text a)
    · exact Or.inr (by rw [word, Bool.or_true])
  rename_i noTesting
  -- Only here the type is read as a text, and there is no word left that could stand for it.
  rw [Bool.or_eq_true, not_or, Bool.not_eq_true, Bool.not_eq_true] at noConsent noTesting
  rw [noConsent.2, noTesting.2]
  refine ((Json.needText_needs type).bind_ok fun s _ => ?_).congr (by simp)
  split <;> exact ⟨_, rfl⟩

/-- There is a reason to keep a tag exactly if it is explainable. -/
theorem clientSideReason_needs (tag : Entity) : Needs tag.clientSideReason .notText tag.Explainable := by
  rw [clientSideReason_eq]
  have typed (s : String) (read : tag.nameText = .ok s) :
      Needs (reasonFor (Text.lower s) (if tag.type.holds then tag.type else .str "")) .notText
        (tag.type.holds = true → tag.type.isText = true ∨ Text.containsAny tag.lowerName browserWords = true) := by
    rw [lowerName, name_of_nameText read]
    refine (reasonFor_needs _ _).congr ?_
    split
    · rename_i given
      exact ⟨fun known _ => known, fun known => known given⟩
    · rename_i unset
      exact iff_of_true (Or.inl rfl) fun given => absurd given unset
  exact (tag.nameText_needs.bind typed).congr ⟨fun ⟨name, type⟩ => ⟨name, type⟩, fun ⟨name, type⟩ => ⟨name, type⟩⟩

end Entity

theorem Vendor.flags_needs (tags : List Entity) :
    Needs (Vendor.flags tags) .notKey (∀ t ∈ tags, t.type.isCollection = false) := by
  have types := Needs.mapM fun t (_ : t ∈ tags) => Json.scalar_needs t.type
  exact types.bind_ok fun _ _ => ⟨flagsOfTypes (tags.filterMap (·.type.text?)), rfl⟩

namespace Container

/-- A container whose types and names can be keys: the types of its tags, and the names of the variables that users
made. -/
structure Keyed (c : Container) : Prop where
  tags : ∀ t ∈ c.tags, t.type.isCollection = false
  userVariables : ∀ v ∈ c.userVariables, v.isBuiltIn = false → (v.get "name").isCollection = false

theorem variablesFor_needs (c : Container) (tags : List Entity) : Needs (c.variablesFor tags) .notKey
    (∀ v ∈ c.userVariables, v.isBuiltIn = false → (v.get "name").isCollection = false) := by
  unfold variablesFor
  refine Needs.filterM fun v _ => ?_
  split
  · rename_i builtIn
    exact (Needs.ok false).congr (iff_of_true trivial fun own => by rw [builtIn] at own; cases own)
  · rename_i own
    have named : (v.get "name").isCollection = false ↔ (v.isBuiltIn = false → (v.get "name").isCollection = false) :=
      ⟨fun key _ => key, fun key => key (Bool.eq_false_iff.mpr own)⟩
    refine ((Json.scalar_needs (v.get "name")).bind_ok fun name _ => ?_).congr named
    split <;> exact ⟨_, rfl⟩

theorem migrationAnalysis_needs (c : Container) : Needs c.migrationAnalysis .notKey c.Keyed := by
  refine ((Vendor.flags_needs c.tags).bind fun flags _ =>
    (c.variablesFor_needs _).bind_ok fun referenced _ => ⟨_, rfl⟩).congr ?_
  exact ⟨fun ⟨types, names⟩ => ⟨types, names⟩, fun ⟨types, names⟩ => ⟨types, names⟩⟩

/-- A container in which there is an answer for each tag that stays in the browser. -/
def Explained (c : Container) : Prop := ∀ t ∈ c.tags, t.isMigratableTag = false → t.Explainable

end Container

theorem Analysis.plan_needs {a : Analysis} (migratable : ∀ t ∈ a.tagsToMigrate, t.isMigratableTag = true) :
    Needs a.plan .notText (∀ t ∈ a.clientOnlyTags, t.Explainable) := by
  have migrated : ∃ rows, a.tagsToMigrate.mapM (fun t => do
      return Json.obj (nameAndType t ++
        [("priority", Json.str (← t.migrationPriority)), ("client", Json.str t.suggestedClient)])) = .ok rows := by
    refine exists_mapM fun t member => ?_
    obtain ⟨s, text⟩ := Json.exists_of_isText (Entity.isText_of_isMigratableTag (migratable t member))
    obtain ⟨priority, found⟩ := t.migrationPriority_needs.returns (by rw [text]; rfl)
    rw [found]
    exact ⟨_, rfl⟩
  obtain ⟨rows, migrated⟩ := migrated
  unfold plan
  rw [migrated]
  refine (Needs.mapM fun t _ => ?_).bind_ok fun kept _ => ⟨_, rfl⟩
  exact t.clientSideReason_needs.bind_ok fun reason _ => ⟨_, rfl⟩

namespace Container

theorem migrationPlan_needs {c : Container} (keyed : c.Keyed) : Needs c.migrationPlan .notText c.Explained := by
  obtain ⟨a, run⟩ := c.migrationAnalysis_needs.returns keyed
  obtain ⟨migrate, stay, _⟩ := of_migrationAnalysis run
  rw [migrationPlan, run]
  refine (Analysis.plan_needs fun t member => ?_).congr ?_
  · rw [migrate] at member
    exact (List.mem_filter.mp member).2
  · rw [stay, Explained]
    simp only [List.mem_filter, Bool.not_eq_true', and_imp]

/-- A container is analyzed exactly if the types of its tags and the names of its variables can be keys, and a plan
is made of it exactly if, moreover, there is an answer for each tag that stays in the browser. Nothing else in it
matters, whatever it is. -/
theorem migrationPlan_returns_iff (c : Container) :
    ((∃ a, c.migrationAnalysis = .ok a) ↔ c.Keyed) ∧
    (∀ fault, c.migrationAnalysis = .error fault ↔ fault = .notKey ∧ ¬c.Keyed) ∧
    ((∃ plan, c.migrationPlan = .ok plan) ↔ c.Keyed ∧ c.Explained) ∧
    ∀ fault, c.migrationPlan = .error fault ↔
      fault = .notKey ∧ ¬c.Keyed ∨ fault = .notText ∧ c.Keyed ∧ ¬c.Explained := by
  have analysis := c.migrationAnalysis_needs
  refine ⟨analysis.returns_iff, analysis.error_iff, ?_⟩
  by_cases keyed : c.Keyed
  · have plan := migrationPlan_needs keyed
    refine ⟨by simp only [plan.returns_iff, keyed, true_and], fun fault => ?_⟩
    simp only [plan.error_iff, keyed, not_true_eq_false, and_false, true_and, false_or]
  · have refused : c.migrationPlan = .error .notKey := by rw [migrationPlan, analysis.fails keyed]; rfl
    simp only [refused, keyed, false_and, and_false, or_false, not_false_eq_true, and_true, reduceCtorEq,
      exists_const, Except.error.injEq, eq_comm, iff_self, implies_true]

/-- The fields of a container version with a tag whose type is a list. -/
def untypedMenuVersion : List (String × Json) :=
  [("tag", .arr [.obj [("tagId", "1"), ("name", "Menu"), ("type", .arr [])]])]

/-- The container is accepted, and neither analyzed nor planned for. -/
theorem untypedMenu_refused : ∃ c,
    Container.ofJson (.obj [("containerVersion", .obj untypedMenuVersion)]) true none = .ok c ∧
    c.migrationAnalysis = .error .notKey ∧ c.migrationPlan = .error .notKey :=
  ⟨⟨[("containerVersion", .obj untypedMenuVersion)], untypedMenuVersion, true, none, rfl⟩, rfl, rfl, rfl⟩

end Container

end TagAudit

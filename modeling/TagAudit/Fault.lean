namespace TagAudit

/-- Why a value of a document cannot be used where it stands. -/
inductive Fault where
  /-- A field is asked of a value that is no object. -/
  | notObject
  /-- A text is needed. -/
  | notText
  /-- An entry is asked of a value that has no entries. -/
  | notIndexed
  /-- A list or an object stands where a key or a set member is needed. -/
  | notKey
  /-- A value without an order stands where one is compared. -/
  | notOrdered
  /-- A value without elements stands where a collection is needed. -/
  | notCollection
  /-- A value that is no text is put together with texts. -/
  | notJoinable
  /-- An object lacks a field that is needed. -/
  | missingField (name : String)
  deriving DecidableEq

def Fault.message : Fault → String
  | notObject => "only an object has fields"
  | notText => "a text is needed"
  | notIndexed => "the value has no entries"
  | notKey => "a list or an object cannot be a key"
  | notOrdered => "the values have no order"
  | notCollection => "the value has no elements"
  | notJoinable => "only texts can be joined"
  | missingField name => "missing field '" ++ name ++ "'"

theorem ok_bind {α β ε : Type} (a : α) (f : α → Except ε β) : (Except.ok a >>= f) = f a := rfl

theorem ok_of_bind {α β ε : Type} {x : Except ε α} {f : α → Except ε β} {b : β}
    (run : (x >>= f) = .ok b) : ∃ a, x = .ok a ∧ f a = .ok b := by
  cases x with
  | error e => cases run
  | ok a => exact ⟨a, rfl, run⟩

theorem ok_of_map {α β ε : Type} {x : Except ε α} {f : α → β} {b : β} (run : x.map f = .ok b) :
    ∃ a, x = .ok a ∧ b = f a := by
  cases x with
  | error e => cases run
  | ok a => exact ⟨a, rfl, (Except.ok.inj run).symm⟩

theorem exists_bind_iff {α β ε : Type} {x : Except ε α} {f : α → Except ε β} :
    (∃ b, (x >>= f) = .ok b) ↔ ∃ a, x = .ok a ∧ ∃ b, f a = .ok b := by
  constructor
  · rintro ⟨b, run⟩
    obtain ⟨a, first, second⟩ := ok_of_bind run
    exact ⟨a, first, b, second⟩
  · rintro ⟨a, rfl, second⟩
    exact second

theorem mapM_ok {α β ε : Type} {f : α → Except ε β} {g : α → β} {xs : List α}
    (each : ∀ x ∈ xs, f x = .ok (g x)) : xs.mapM f = .ok (xs.map g) := by
  induction xs with
  | nil => rfl
  | cons x rest ih =>
    rw [List.mapM_cons, each x List.mem_cons_self, ih fun y member => each y (List.mem_cons_of_mem _ member)]
    rfl

theorem exists_mapM {α β ε : Type} {f : α → Except ε β} {xs : List α}
    (each : ∀ x ∈ xs, ∃ y, f x = .ok y) : ∃ ys, xs.mapM f = .ok ys := by
  induction xs with
  | nil => exact ⟨[], rfl⟩
  | cons x rest ih =>
    obtain ⟨y, here⟩ := each x List.mem_cons_self
    obtain ⟨ys, later⟩ := ih fun other member => each other (List.mem_cons_of_mem _ member)
    refine ⟨y :: ys, ?_⟩
    rw [List.mapM_cons, here, later]
    rfl

theorem exists_filterMapM {α β ε : Type} {f : α → Except ε (Option β)} {xs : List α}
    (each : ∀ x ∈ xs, ∃ y, f x = .ok y) : ∃ ys, xs.filterMapM f = .ok ys := by
  induction xs with
  | nil => exact ⟨[], rfl⟩
  | cons x rest ih =>
    obtain ⟨y, here⟩ := each x List.mem_cons_self
    obtain ⟨ys, later⟩ := ih fun other member => each other (List.mem_cons_of_mem _ member)
    rw [List.filterMapM_cons, here, ok_bind]
    cases y with
    | none => exact ⟨ys, later⟩
    | some b => exact ⟨b :: ys, by rw [later]; rfl⟩

theorem foldlM_ok {α β ε : Type} {f : β → α → Except ε β} {g : β → α → β} {xs : List α}
    (each : ∀ b, ∀ x ∈ xs, f b x = .ok (g b x)) (b : β) : xs.foldlM f b = .ok (xs.foldl g b) := by
  induction xs generalizing b with
  | nil => rfl
  | cons x rest ih =>
    rw [List.foldlM_cons, each b x List.mem_cons_self]
    exact ih (fun c y member => each c y (List.mem_cons_of_mem _ member)) (g b x)

/-- What every step keeps, a run keeps. -/
theorem foldlM_keeps {α β ε : Type} {f : β → α → Except ε β} {motive : β → Prop} {xs : List α} {first last : β}
    (run : xs.foldlM f first = .ok last) (start : motive first)
    (step : ∀ x ∈ xs, ∀ before after, f before x = .ok after → motive before → motive after) : motive last := by
  induction xs generalizing first with
  | nil =>
    cases run
    exact start
  | cons x rest ih =>
    obtain ⟨next, here, later⟩ := ok_of_bind run
    have holds := step x List.mem_cons_self first next here start
    exact ih later holds fun y member => step y (List.mem_cons_of_mem _ member)

/-- What holds after a run held before or is brought about by a step. -/
theorem foldlM_iff {α β ε : Type} {f : β → α → Except ε β} {motive : β → Prop} {brings : α → Prop} {xs : List α}
    {first last : β} (run : xs.foldlM f first = .ok last)
    (step : ∀ x before after, f before x = .ok after → (motive after ↔ motive before ∨ brings x)) :
    motive last ↔ motive first ∨ ∃ x ∈ xs, brings x := by
  induction xs generalizing first with
  | nil =>
    cases run
    simp
  | cons x rest ih =>
    obtain ⟨next, here, later⟩ := ok_of_bind run
    rw [ih later, step x first next here, or_assoc]
    simp only [List.mem_cons, exists_eq_or_imp]

theorem filterAuxM_ok {α ε : Type} {test : α → Except ε Bool} {xs acc found : List α}
    (run : xs.filterAuxM test acc = .ok found) : ∀ x ∈ found, x ∈ acc ∨ test x = .ok true := by
  induction xs generalizing acc with
  | nil =>
    cases run
    exact fun x member => Or.inl member
  | cons a rest ih =>
    obtain ⟨holds, atFirst, later⟩ := ok_of_bind run
    intro x member
    rcases ih later x member with old | tested
    · cases holds with
      | false => exact Or.inl old
      | true =>
        rcases List.mem_cons.mp old with rfl | old
        · exact Or.inr atFirst
        · exact Or.inl old
    · exact Or.inr tested

theorem test_of_mem_filterM {α ε : Type} {test : α → Except ε Bool} {xs found : List α}
    (run : xs.filterM test = .ok found) {x : α} (member : x ∈ found) : test x = .ok true := by
  obtain ⟨reversed, collected, same⟩ := ok_of_bind run
  cases same
  rcases filterAuxM_ok collected x (List.mem_reverse.mp member) with old | tested
  · cases old
  · exact tested

theorem exists_filterAuxM {α ε : Type} {test : α → Except ε Bool} (xs acc : List α)
    (tested : ∀ x ∈ xs, ∃ holds, test x = .ok holds) :
    ∃ found, xs.filterAuxM test acc = .ok found := by
  induction xs generalizing acc with
  | nil => exact ⟨acc, rfl⟩
  | cons a rest ih =>
    obtain ⟨holds, atFirst⟩ := tested a List.mem_cons_self
    obtain ⟨found, later⟩ := ih (cond holds (a :: acc) acc) fun x member =>
      tested x (List.mem_cons_of_mem _ member)
    refine ⟨found, ?_⟩
    rw [List.filterAuxM, atFirst]
    exact later

theorem exists_filterM {α ε : Type} {test : α → Except ε Bool} {xs : List α}
    (tested : ∀ x ∈ xs, ∃ holds, test x = .ok holds) : ∃ found, xs.filterM test = .ok found := by
  obtain ⟨found, run⟩ := exists_filterAuxM xs [] tested
  refine ⟨found.reverse, ?_⟩
  rw [List.filterM, run]
  rfl

theorem filterAuxM_eq {α ε : Type} {test : α → Except ε Bool} {holds : α → Bool} {xs : List α}
    (each : ∀ x ∈ xs, test x = .ok (holds x)) (acc : List α) :
    xs.filterAuxM test acc = .ok ((xs.filter holds).reverse ++ acc) := by
  induction xs generalizing acc with
  | nil => rfl
  | cons x rest ih =>
    have later := ih fun y member => each y (List.mem_cons_of_mem _ member)
    rw [List.filterAuxM, each x List.mem_cons_self, List.filter_cons]
    refine (later _).trans ?_
    cases holds x <;> simp

theorem filterM_ok {α ε : Type} {test : α → Except ε Bool} {holds : α → Bool} {xs : List α}
    (each : ∀ x ∈ xs, test x = .ok (holds x)) : xs.filterM test = .ok (xs.filter holds) := by
  rw [List.filterM, filterAuxM_eq each]
  simp [bind, Except.bind, pure, Except.pure]

theorem tested_of_filterAuxM {α ε : Type} {test : α → Except ε Bool} {xs acc found : List α}
    (run : xs.filterAuxM test acc = .ok found) : ∀ x ∈ xs, ∃ holds, test x = .ok holds := by
  induction xs generalizing acc with
  | nil => exact fun x member => absurd member List.not_mem_nil
  | cons a rest ih =>
    obtain ⟨holds, atFirst, later⟩ := ok_of_bind run
    exact List.forall_mem_cons.mpr ⟨⟨holds, atFirst⟩, ih later⟩

/-- Whether something passes a test. -/
def passes {α ε : Type} (test : α → Except ε Bool) (x : α) : Bool := (test x).toOption.getD false

/-- A selection that returns has tested everything. -/
theorem eq_filter_of_filterM {α ε : Type} {test : α → Except ε Bool} {xs found : List α}
    (run : xs.filterM test = .ok found) : found = xs.filter (passes test) := by
  have tested : ∀ x ∈ xs, test x = .ok (passes test x) := by
    intro x member
    obtain ⟨reversed, collected, _⟩ := ok_of_bind run
    obtain ⟨holds, atFirst⟩ := tested_of_filterAuxM collected x member
    rw [passes, atFirst]
    rfl
  exact Except.ok.inj (run.symm.trans (filterM_ok tested))

/-- A computation returns where a condition holds, and meets one fault everywhere else. -/
structure Needs {α ε : Type} (x : Except ε α) (fault : ε) (condition : Prop) : Prop where
  returns : condition → ∃ a, x = .ok a
  fails : ¬condition → x = .error fault

namespace Needs

variable {α β ε : Type} {fault : ε}

theorem returns_iff {x : Except ε α} {condition : Prop} (needs : Needs x fault condition) :
    (∃ a, x = .ok a) ↔ condition := by
  refine ⟨fun ⟨a, run⟩ => Classical.byContradiction fun unmet => ?_, needs.returns⟩
  cases run.symm.trans (needs.fails unmet)

theorem error_iff {x : Except ε α} {condition : Prop} (needs : Needs x fault condition) (met : ε) :
    x = .error met ↔ met = fault ∧ ¬condition := by
  constructor
  · intro run
    have unmet : ¬condition := fun condition => by
      obtain ⟨a, returned⟩ := needs.returns condition
      cases run.symm.trans returned
    cases run.symm.trans (needs.fails unmet)
    exact ⟨rfl, unmet⟩
  · rintro ⟨rfl, unmet⟩
    exact needs.fails unmet

theorem congr {x : Except ε α} {condition other : Prop} (needs : Needs x fault condition)
    (same : condition ↔ other) : Needs x fault other :=
  ⟨fun holds => needs.returns (same.mpr holds), fun fails => needs.fails fun holds => fails (same.mp holds)⟩

theorem ok (a : α) : Needs (.ok a : Except ε α) fault True := ⟨fun _ => ⟨a, rfl⟩, fun unmet => absurd trivial unmet⟩

/-- One computation after another needs what the first one needs and then what the second one needs. -/
theorem bind {x : Except ε α} {f : α → Except ε β} {first second : Prop} (needs : Needs x fault first)
    (next : ∀ a, x = .ok a → Needs (f a) fault second) : Needs (x >>= f) fault (first ∧ second) := by
  constructor
  · rintro ⟨holds, later⟩
    obtain ⟨a, run⟩ := needs.returns holds
    rw [run]
    exact (next a run).returns later
  · intro unmet
    by_cases holds : first
    · obtain ⟨a, run⟩ := needs.returns holds
      rw [run]
      exact (next a run).fails fun later => unmet ⟨holds, later⟩
    · rw [needs.fails holds]
      rfl

/-- Where the second computation always returns, only the first one needs anything. -/
theorem bind_ok {x : Except ε α} {f : α → Except ε β} {condition : Prop} (needs : Needs x fault condition)
    (next : ∀ a, x = .ok a → ∃ b, f a = .ok b) : Needs (x >>= f) fault condition := by
  have always (a : α) (run : x = .ok a) : Needs (f a) fault True :=
    ⟨fun _ => next a run, fun unmet => absurd trivial unmet⟩
  exact (needs.bind always).congr (iff_of_eq (and_true _))

theorem map {x : Except ε α} {condition : Prop} (needs : Needs x fault condition) (f : α → β) :
    Needs (x.map f) fault condition := by
  constructor
  · intro holds
    obtain ⟨a, run⟩ := needs.returns holds
    exact ⟨f a, by rw [run]; rfl⟩
  · intro unmet
    rw [needs.fails unmet]
    rfl

theorem mapM {f : α → Except ε β} {condition : α → Prop} {xs : List α}
    (each : ∀ x ∈ xs, Needs (f x) fault (condition x)) : Needs (xs.mapM f) fault (∀ x ∈ xs, condition x) := by
  induction xs with
  | nil => exact (ok []).congr (by simp)
  | cons x rest ih =>
    rw [List.mapM_cons]
    refine ((each x List.mem_cons_self).bind fun y _ => (ih fun other member =>
      each other (List.mem_cons_of_mem _ member)).bind_ok fun ys _ => ⟨y :: ys, rfl⟩).congr ?_
    rw [List.forall_mem_cons]

theorem filterAuxM {test : α → Except ε Bool} {condition : α → Prop} {xs : List α}
    (each : ∀ x ∈ xs, Needs (test x) fault (condition x)) (acc : List α) :
    Needs (xs.filterAuxM test acc) fault (∀ x ∈ xs, condition x) := by
  induction xs generalizing acc with
  | nil => exact (ok acc).congr (by simp)
  | cons x rest ih =>
    refine ((each x List.mem_cons_self).bind fun holds _ => ih (fun other member =>
      each other (List.mem_cons_of_mem _ member)) (cond holds (x :: acc) acc)).congr ?_
    rw [List.forall_mem_cons]

theorem filterM {test : α → Except ε Bool} {condition : α → Prop} {xs : List α}
    (each : ∀ x ∈ xs, Needs (test x) fault (condition x)) : Needs (xs.filterM test) fault (∀ x ∈ xs, condition x) :=
  (filterAuxM each []).bind_ok fun found _ => ⟨found.reverse, rfl⟩

end Needs

theorem exists_ok_of_isOk {α ε : Type} {x : Except ε α} (success : x.isOk = true) : ∃ a, x = .ok a := by
  cases x with
  | error e => cases success
  | ok a => exact ⟨a, rfl⟩

end TagAudit

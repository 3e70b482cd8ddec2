import TagAudit.Command.Audit
import TagAudit.Command.Disk
import TagAudit.Proofs.Migration.Malformed

namespace TagAudit

namespace Json

/-- Names can be taken from a text, which has its characters, from an object, which has its keys, and from a list
without lists and objects. -/
def HasNames : Json → Prop
  | str _ | obj _ => True
  | arr items => ∀ item ∈ items, item.isCollection = false
  | _ => False

end Json

/-- A computation returns where a condition holds. Elsewhere it has come upon a value without elements, or upon an
element that is no key. -/
structure NeedsNames {α : Type} (x : Except Fault α) (condition : Prop) : Prop where
  returns : condition → ∃ a, x = .ok a
  fails : ¬condition → x = .error .notCollection ∨ x = .error .notKey

namespace NeedsNames

variable {α β : Type} {condition : Prop}

theorem congr {x : Except Fault α} {other : Prop} (needs : NeedsNames x condition) (same : condition ↔ other) :
    NeedsNames x other :=
  ⟨fun holds => needs.returns (same.mpr holds), fun fails => needs.fails fun holds => fails (same.mp holds)⟩

theorem ok (a : α) : NeedsNames (.ok a) True := ⟨fun _ => ⟨a, rfl⟩, fun unmet => absurd trivial unmet⟩

theorem of_needs {x : Except Fault α} (needs : Needs x .notKey condition) : NeedsNames x condition :=
  ⟨needs.returns, fun unmet => Or.inr (needs.fails unmet)⟩

theorem bind {x : Except Fault α} {f : α → Except Fault β} {first second : Prop} (needs : NeedsNames x first)
    (next : ∀ a, NeedsNames (f a) second) : NeedsNames (x >>= f) (first ∧ second) := by
  constructor
  · rintro ⟨holds, later⟩
    obtain ⟨a, run⟩ := needs.returns holds
    rw [run]
    exact (next a).returns later
  · intro unmet
    by_cases holds : first
    · obtain ⟨a, run⟩ := needs.returns holds
      rw [run]
      exact (next a).fails fun later => unmet ⟨holds, later⟩
    · rcases needs.fails holds with run | run
      · exact Or.inl (by rw [run]; rfl)
      · exact Or.inr (by rw [run]; rfl)

end NeedsNames

namespace RulesConfig

variable {fields : List (String × Json)} {value : Json}

theorem nameSet_of_elements {items : List Json} (listed : value.elements = .ok items) :
    NeedsNames (nameSet value) (∀ item ∈ items, item.isCollection = false) := by
  have scalars : Needs (items.mapM Json.scalar) .notKey (∀ item ∈ items, item.isCollection = false) :=
    Needs.mapM fun item _ => item.scalar_needs
  rw [nameSet, listed, ok_bind]
  exact .of_needs (scalars.bind_ok fun names _ => ⟨_, rfl⟩)

theorem nameSet_needs (value : Json) : NeedsNames (nameSet value) value.HasNames := by
  cases value with
  | arr items => exact nameSet_of_elements rfl
  | str s =>
    refine (nameSet_of_elements rfl).congr (iff_of_true ?_ trivial)
    exact List.forall_mem_map.mpr fun _ _ => rfl
  | obj fields =>
    refine (nameSet_of_elements rfl).congr (iff_of_true ?_ trivial)
    exact List.forall_mem_map.mpr fun _ _ => rfl
  | _ => exact ⟨False.elim, fun _ => Or.inl rfl⟩

/-- The fields of a configuration that names of checks are taken from. -/
def nameFields : List String := [disabledField, enabledField]

/-- Names can be taken from the fields that are there for them. -/
def Usable (fields : List (String × Json)) : Prop :=
  ∀ key ∈ nameFields, ∀ value, Json.lookup fields key = some value → value.HasNames

theorem ofFields_needs (fields : List (String × Json)) : NeedsNames (ofFields fields) (Usable fields) := by
  have disabled : NeedsNames ((Json.lookup fields disabledField).elim (.ok default.disabled) nameSet)
      (∀ value, Json.lookup fields disabledField = some value → value.HasNames) := by
    cases Json.lookup fields disabledField with
    | some value => exact (nameSet_needs value).congr (by simp)
    | none => exact (NeedsNames.ok _).congr (by simp)
  have enabled : NeedsNames (nameSet ((Json.lookup fields enabledField).getD (.arr [])))
      (∀ value, Json.lookup fields enabledField = some value → value.HasNames) := by
    cases Json.lookup fields enabledField with
    | some value => exact (nameSet_needs value).congr (by simp)
    | none => exact (nameSet_needs (.arr [])).congr (by simp [Json.HasNames])
  have read : ofFields fields =
      (Json.lookup fields disabledField).elim (.ok default.disabled) nameSet >>= fun names =>
        nameSet ((Json.lookup fields enabledField).getD (.arr [])) >>= fun checks =>
          .ok (enable ⟨names, fun l => (Json.lookup fields l.field).getD l.default⟩ checks) := by
    unfold ofFields
    cases Json.lookup fields disabledField <;> rfl
  rw [read]
  refine (disabled.bind fun names =>
    (enabled.bind fun checks => NeedsNames.ok _).congr (and_iff_left trivial)).congr ?_
  simp only [Usable, nameFields, List.forall_mem_cons, List.not_mem_nil, false_imp_iff, implies_true, and_true]

end RulesConfig

namespace Audit

/-- The file at a path is the JSON text of an object. -/
def HoldsObject (d : Disk) (path : String) (fields : List (String × Json)) : Prop :=
  ∃ octets text, d.look path = .file octets ∧ String.fromUTF8? octets = some text ∧ Json.read text = .ok (.obj fields)

theorem holdsObject_iff {d : Disk} {path text : String} {octets : ByteArray} (found : d.look path = .file octets)
    (decoded : String.fromUTF8? octets = some text) {fields : List (String × Json)} :
    HoldsObject d path fields ↔ Json.read text = .ok (.obj fields) := by
  constructor
  · rintro ⟨_, _, same, known, read⟩
    cases found.symm.trans same
    cases decoded.symm.trans known
    exact read
  · exact fun read => ⟨octets, text, found, decoded, read⟩

theorem runOn_readText {α : Type} (path : String) (next : Except Failure String → Program α) (d : Disk) :
    ((Stage.readText path).run >>= next).runOn d = (next (match d.look path with
      | .file octets =>
        match String.fromUTF8? octets with
        | some text => .ok text
        | none => .error (.undecodable path)
      | found => .error (.unreadable path found))).runOn d := by
  let body (entry : Entry) : Stage String :=
    match entry with
    | .file octets =>
      match String.fromUTF8? octets with
      | some text => return text
      | none => throw (.undecodable path)
    | found => throw (.unreadable path found)
  have looked : ((Stage.readText path).run >>= next).runOn d = ((body (d.look path)).run >>= next).runOn d := rfl
  rw [looked]
  dsimp only [body]
  cases d.look path with
  | file octets =>
    dsimp only
    cases String.fromUTF8? octets <;> rfl
  | _ => rfl

/-- What the command does with the configuration in a text. -/
def useConfig (path text : String) : Program RulesConfig :=
  match RulesConfig.ofText path text with
  | .ok config => return config
  | .error (.unusable f) => Program.fail (.fault f)
  | .error e => refuseConfig path e.message

/-- The run ends with status 1 and a line that says why the configuration cannot be read. -/
def ReportsConfig (d : Disk) (path : String) (run : Outcome RulesConfig) : Prop :=
  ∃ message, run = ⟨.error 1, d, ["ERROR: Could not read rules config '" ++ path ++ "'. " ++ message], []⟩

theorem useConfig_of_object {path text : String} {fields : List (String × Json)}
    (read : Json.read text = .ok (.obj fields)) (d : Disk) :
    (RulesConfig.Usable fields ∧ ∃ config, RulesConfig.ofFields fields = .ok config ∧
        (useConfig path text).runOn d = ⟨.ok config, d, [], []⟩) ∨
      (¬RulesConfig.Usable fields ∧
        ((useConfig path text).runOn d = ⟨.error 1, d, [], [Fault.notCollection.message]⟩ ∨
        (useConfig path text).runOn d = ⟨.error 1, d, [], [Fault.notKey.message]⟩)) := by
  have needs := RulesConfig.ofFields_needs fields
  unfold useConfig RulesConfig.ofText
  rw [read]
  dsimp only
  by_cases usable : RulesConfig.Usable fields
  · obtain ⟨config, made⟩ := needs.returns usable
    rw [made]
    exact Or.inl ⟨usable, config, rfl, rfl⟩
  · refine Or.inr ⟨usable, ?_⟩
    rcases needs.fails usable with met | met
    · rw [met]
      exact Or.inl rfl
    · rw [met]
      exact Or.inr rfl

theorem useConfig_of_other {path text : String} (other : ∀ fields, Json.read text ≠ .ok (.obj fields)) (d : Disk) :
    ReportsConfig d path ((useConfig path text).runOn d) := by
  unfold useConfig RulesConfig.ofText
  cases read : Json.read text with
  | error e => exact ⟨_, rfl⟩
  | ok document =>
    cases document with
    | obj fields => exact absurd read (other fields)
    | _ => exact ⟨_, rfl⟩

/-- A file of configuration is used, reported, or neither. It is used if it holds an object whose names can be taken,
and reported with status 1 if it holds no object or cannot be read. For an object whose names cannot be taken the run
ends without the report. -/
theorem readConfig_cases (d : Disk) (path : String) :
    (∃ fields, HoldsObject d path fields ∧ RulesConfig.Usable fields ∧
      ∃ config, RulesConfig.ofFields fields = .ok config ∧
        (readConfig (some path)).runOn d = ⟨.ok config, d, [], []⟩) ∨
    ((∀ fields, ¬HoldsObject d path fields) ∧ ReportsConfig d path ((readConfig (some path)).runOn d)) ∨
    ∃ fields, HoldsObject d path fields ∧ ¬RulesConfig.Usable fields ∧
      ((readConfig (some path)).runOn d = ⟨.error 1, d, [], [Fault.notCollection.message]⟩ ∨
        (readConfig (some path)).runOn d = ⟨.error 1, d, [], [Fault.notKey.message]⟩) := by
  have run : (readConfig (some path)).runOn d = _ := runOn_readText path _ d
  rw [run]
  cases found : d.look path with
  | file octets =>
    dsimp only
    cases decoded : String.fromUTF8? octets with
    | none =>
      refine Or.inr (Or.inl ⟨?_, _, rfl⟩)
      rintro fields ⟨_, text, same, read, _⟩
      cases found.symm.trans same
      cases decoded.symm.trans read
    | some text =>
      by_cases object : ∃ fields, Json.read text = .ok (.obj fields)
      · obtain ⟨fields, read⟩ := object
        have holds := (holdsObject_iff found decoded).mpr read
        rcases useConfig_of_object read d with ⟨usable, run⟩ | ⟨unusable, run⟩
        · exact Or.inl ⟨fields, holds, usable, run⟩
        · exact Or.inr (Or.inr ⟨fields, holds, unusable, run⟩)
      · refine Or.inr (Or.inl ⟨fun fields holds => ?_, useConfig_of_other (not_exists.mp object) d⟩)
        exact object ⟨fields, (holdsObject_iff found decoded).mp holds⟩
  | _ =>
    refine Or.inr (Or.inl ⟨?_, _, rfl⟩)
    rintro fields ⟨_, _, same, _⟩
    cases found.symm.trans same

/-- A file in which the checks that are off are counted, not named. -/
def countedChecks : Disk := ⟨[(["rules.json"], "\x7b\"disabled_checks\": 5\x7d".toUTF8)], [[]], []⟩

/-- A number in place of names is not reported. -/
theorem countedChecks_unreported :
    RulesConfig.ofText "rules.json" "\x7b\"disabled_checks\": 5\x7d" = .error (.unusable .notCollection) ∧
    (readConfig (some "rules.json")).runOn countedChecks =
      ⟨.error 1, countedChecks, [], [Fault.notCollection.message]⟩ :=
  ⟨rfl, rfl⟩

end Audit

end TagAudit

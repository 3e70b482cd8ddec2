import Mathlib.Tactic.SplitIfs
import TagAudit.Proofs.Json.Objects
import TagAudit.Proofs.Json.Quoted

namespace TagAudit

/-- A text that does not go on with a digit. -/
def NoDigit (rest : List Char) : Prop := ∀ c ∈ rest.head?, c.isDigit = false

namespace Numeral

theorem digits_append_inj {digits others r r' : List Char} (isNumeral : ∀ c ∈ digits, c.isDigit = true)
    (isOther : ∀ c ∈ others, c.isDigit = true) (ends : NoDigit r) (otherEnds : NoDigit r')
    (same : digits ++ r = others ++ r') : digits = others ∧ r = r' := by
  induction digits generalizing others with
  | nil =>
    cases others with
    | nil => exact ⟨rfl, same⟩
    | cons d others =>
      have stops := ends d (by rw [show r = _ from same]; rfl)
      rw [isOther d List.mem_cons_self] at stops
      cases stops
  | cons c digits ih =>
    cases others with
    | nil =>
      have stops := otherEnds c (by rw [show r' = _ from same.symm]; rfl)
      rw [isNumeral c List.mem_cons_self] at stops
      cases stops
    | cons d others =>
      obtain ⟨rfl, later⟩ := List.cons.inj same
      rw [List.forall_mem_cons] at isNumeral isOther
      obtain ⟨rfl, rest⟩ := ih isNumeral.2 isOther.2 later
      exact ⟨rfl, rest⟩

theorem isDigit_of_mem_ofNat {n : Nat} {c : Char} (member : c ∈ ofNat n) : c.isDigit = true :=
  Nat.isDigit_of_mem_toDigits (by decide) (by decide) member

theorem ofNat_eq_cons (n : Nat) : ∃ c rest, ofNat n = c :: rest ∧ c.isDigit = true := by
  obtain ⟨c, rest, shape⟩ := List.exists_cons_of_ne_nil (Nat.toDigits_ne_nil : ofNat n ≠ [])
  exact ⟨c, rest, shape, isDigit_of_mem_ofNat (shape ▸ List.mem_cons_self)⟩

/-- An integer tells where it ends where no digit follows. -/
theorem ofInt_append_inj {m n : Int} {r r' : List Char} (ends : NoDigit r) (otherEnds : NoDigit r')
    (same : (ofInt m).toList ++ r = (ofInt n).toList ++ r') : m = n ∧ r = r' := by
  have digits {k l : Nat} (equal : ofNat k ++ r = ofNat l ++ r') : k = l ∧ r = r' := by
    obtain ⟨numerals, rest⟩ := digits_append_inj (fun _ => isDigit_of_mem_ofNat) (fun _ => isDigit_of_mem_ofNat)
      ends otherEnds equal
    exact ⟨ofNat_injective numerals, rest⟩
  have unsigned (k : Nat) (rest tail : List Char) : '-' :: rest ≠ ofNat k ++ tail := by
    obtain ⟨c, others, shape, digit⟩ := ofNat_eq_cons k
    rw [shape]
    rintro ⟨⟩
    cases digit
  rw [ofInt, ofInt, String.toList_ofList, String.toList_ofList] at same
  split_ifs at same with mNegative nNegative nNegative
  · obtain ⟨size, rest⟩ := digits (List.cons.inj same).2
    exact ⟨by omega, rest⟩
  · exact absurd same (unsigned _ _ _)
  · exact absurd same.symm (unsigned _ _ _)
  · obtain ⟨size, rest⟩ := digits same
    exact ⟨by omega, rest⟩

end Numeral

namespace Json

section

variable {α : Type} {write : α → List Char} {valid : α → Prop}

/-- What has been written can be read in one way only, where no digit follows. -/
def Delimited (write : α → List Char) (valid : α → Prop) (a : α) : Prop :=
  ∀ b, valid b → ∀ r r', NoDigit r → NoDigit r' → write a ++ r = write b ++ r' → a = b ∧ r = r'

/-- Written with a separator in front of each. -/
def separated (write : α → List Char) (separator : Char) (xs : List α) : List Char :=
  xs.flatMap fun x => separator :: write x

/-- A text that goes on neither with a separator nor with a digit. -/
def Closes (separator : Char) (rest : List Char) : Prop := ∀ c ∈ rest.head?, c ≠ separator ∧ c.isDigit = false

theorem noDigit_separated {separator : Char} (noDigit : separator.isDigit = false) {r : List Char}
    (closes : Closes separator r) (xs : List α) : NoDigit (separated write separator xs ++ r) := by
  cases xs with
  | nil => exact fun c first => (closes c first).2
  | cons x rest =>
    rintro c ⟨⟩
    exact noDigit

theorem separated_append_inj {separator : Char} (noDigit : separator.isDigit = false) {xs ys : List α}
    (each : ∀ x ∈ xs, Delimited write valid x) (others : ∀ y ∈ ys, valid y) {r r' : List Char}
    (closes : Closes separator r) (otherCloses : Closes separator r')
    (same : separated write separator xs ++ r = separated write separator ys ++ r') : xs = ys ∧ r = r' := by
  induction xs generalizing ys with
  | nil =>
    cases ys with
    | nil => exact ⟨rfl, same⟩
    | cons y ys => exact absurd rfl (closes separator (by rw [show r = _ from same]; rfl)).1
  | cons x xs ih =>
    cases ys with
    | nil => exact absurd rfl (otherCloses separator (by rw [show r' = _ from same.symm]; rfl)).1
    | cons y ys =>
      rw [List.forall_mem_cons] at each others
      have equal : write x ++ (separated write separator xs ++ r) =
          write y ++ (separated write separator ys ++ r') := by simpa [separated] using same
      obtain ⟨rfl, later⟩ := each.1 y others.1 _ _ (noDigit_separated noDigit closes xs)
        (noDigit_separated noDigit otherCloses ys) equal
      obtain ⟨rfl, rest⟩ := ih each.2 others.2 later
      exact ⟨rfl, rest⟩

/-- Written one after the other with a separator between them. -/
def listed (write : α → List Char) (separator : Char) : List α → List Char
  | [] => []
  | x :: rest => write x ++ separated write separator rest

theorem listed_cons_append_inj {separator : Char} (noDigit : separator.isDigit = false) {x y : α} {xs ys : List α}
    (each : ∀ z ∈ x :: xs, Delimited write valid z) (others : ∀ z ∈ y :: ys, valid z) {r r' : List Char}
    (closes : Closes separator r) (otherCloses : Closes separator r')
    (same : listed write separator (x :: xs) ++ r = listed write separator (y :: ys) ++ r') :
    x :: xs = y :: ys ∧ r = r' := by
  rw [List.forall_mem_cons] at each others
  rw [listed, listed, List.append_assoc, List.append_assoc] at same
  obtain ⟨rfl, later⟩ := each.1 y others.1 _ _ (noDigit_separated noDigit closes xs)
    (noDigit_separated noDigit otherCloses ys) same
  obtain ⟨rfl, rest⟩ := separated_append_inj noDigit each.2 others.2 closes otherCloses later
  exact ⟨rfl, rest⟩

/-- A list between brackets tells where it ends. -/
theorem enclosed_append_inj {close : Char} (notComma : close ≠ ',') (noDigit : close.isDigit = false) {xs ys : List α}
    (opens : ∀ x, valid x → ∃ c rest, write x = c :: rest ∧ c ≠ close)
    (each : ∀ x ∈ xs, Delimited write valid x) (ours : ∀ x ∈ xs, valid x) (others : ∀ y ∈ ys, valid y)
    {r r' : List Char} (same : listed write ',' xs ++ close :: r = listed write ',' ys ++ close :: r') :
    xs = ys ∧ r = r' := by
  have unopened (x : α) (isValid : valid x) (rest tail : List Char) : close :: tail ≠ write x ++ rest := by
    obtain ⟨c, _, shape, differs⟩ := opens x isValid
    rw [shape]
    rintro ⟨⟩
    exact differs rfl
  have closes (tail : List Char) : Closes ',' (close :: tail) := by
    rintro c ⟨⟩
    exact ⟨notComma, noDigit⟩
  cases xs with
  | nil =>
    cases ys with
    | nil => exact ⟨rfl, (List.cons.inj same).2⟩
    | cons y ys =>
      rw [listed, listed, List.append_assoc] at same
      exact absurd same (unopened y (others y List.mem_cons_self) _ _)
  | cons x xs =>
    cases ys with
    | nil =>
      rw [listed, listed, List.append_assoc] at same
      exact absurd same.symm (unopened x (ours x List.mem_cons_self) _ _)
    | cons y ys =>
      obtain ⟨equal, rest⟩ := listed_cons_append_inj (by decide) each others (closes r) (closes r') same
      exact ⟨equal, (List.cons.inj rest).2⟩

theorem toList_intercalate (separator : Char) (text : α → String) (xs : List α) :
    ((String.singleton separator).intercalate (xs.map text)).toList =
      listed (fun x => (text x).toList) separator xs := by
  cases xs with
  | nil => rfl
  | cons first rest =>
    induction rest generalizing first with
    | nil => simp [listed, separated]
    | cons second rest ih =>
      rw [List.map_cons, List.map_cons, String.intercalate_cons_cons, String.toList_append, String.toList_append,
        ← List.map_cons, ih]
      simp [listed, separated]

end

/-- A value in which no floating-point number stands. -/
def Floatless (value : Json) : Prop := ∀ x, ¬StandsIn (.float x) value

theorem Floatless.item {items : List Json} (floatless : Floatless (.arr items)) {value : Json}
    (member : value ∈ items) : Floatless value := fun x inside => floatless x (.item member inside)

theorem Floatless.field {fields : List (String × Json)} (floatless : Floatless (.obj fields)) {entry : String × Json}
    (member : entry ∈ fields) : Floatless entry.2 := fun x inside => floatless x (.field member inside)

/-- The characters of a value's text. -/
def written (value : Json) : List Char := (compact value).toList

def writtenField (entry : String × Json) : List Char := (quote escape entry.1).toList ++ ':' :: written entry.2

theorem compactItems_eq (items : List Json) : compactItems items = items.map compact := by
  induction items with
  | nil => rfl
  | cons value rest ih => rw [compactItems, ih, List.map_cons]

theorem compactFields_eq (fields : List (String × Json)) :
    compactFields fields = fields.map fun entry => quote escape entry.1 ++ ":" ++ compact entry.2 := by
  induction fields with
  | nil => rfl
  | cons entry rest ih => rw [compactFields, ih, List.map_cons]

theorem written_arr (items : List Json) : written (.arr items) = '[' :: (listed written ',' items ++ [']']) := by
  have list : (",".intercalate (items.map compact)).toList = listed written ',' items :=
    toList_intercalate ',' compact items
  rw [written, compact, compactItems_eq, String.toList_append, String.toList_append, list]
  rfl

theorem written_obj (fields : List (String × Json)) :
    written (.obj fields) = '\x7b' :: (listed writtenField ',' fields ++ ['\x7d']) := by
  let text (entry : String × Json) : String := quote escape entry.1 ++ ":" ++ compact entry.2
  have field : (fun entry => (text entry).toList) = writtenField := by
    funext entry
    rw [String.toList_append, String.toList_append, List.append_assoc]
    rfl
  have list : (",".intercalate (fields.map text)).toList = listed writtenField ',' fields := by
    rw [← field]
    exact toList_intercalate ',' text fields
  rw [written, compact, compactFields_eq, String.toList_append, String.toList_append, list]
  rfl

/-- What the beginning of a text says of the value. -/
inductive Lead where
  | nothing
  | truth (b : Bool)
  | number
  | text
  | list
  | object

def lead : Json → Lead
  | null => .nothing
  | bool b => .truth b
  | int _ | float _ => .number
  | str _ => .text
  | arr _ => .list
  | obj _ => .object

def leadOf (c : Char) : Option Lead :=
  if c = 'n' then some .nothing
  else if c = 't' then some (.truth true)
  else if c = 'f' then some (.truth false)
  else if c = '"' then some .text
  else if c = '[' then some .list
  else if c = '\x7b' then some .object
  else if c = '-' ∨ c.isDigit then some .number
  else none

theorem leadOf_digit {c : Char} (digit : c.isDigit = true) : leadOf c = some .number := by
  unfold leadOf
  split_ifs with null true false text list object number
  case neg => exact absurd (Or.inr digit) number
  all_goals first | rfl | (subst c; cases digit)

theorem written_eq_cons : ∀ value : Json, Floatless value →
    ∃ c rest, written value = c :: rest ∧ leadOf c = some value.lead
  | .null, _ => ⟨_, _, rfl, rfl⟩
  | .bool true, _ | .bool false, _ => ⟨_, _, rfl, rfl⟩
  | .int n, _ => by
    rw [written, compact, Numeral.ofInt, String.toList_ofList]
    split
    · exact ⟨_, _, rfl, rfl⟩
    · obtain ⟨c, rest, shape, digit⟩ := Numeral.ofNat_eq_cons n.natAbs
      exact ⟨c, rest, shape, leadOf_digit digit⟩
  | .float x, floatless => absurd .self (floatless x)
  | .str s, _ => by
    rw [written, compact, quote, String.toList_ofList]
    exact ⟨_, _, rfl, rfl⟩
  | .arr items, _ => by
    rw [written_arr]
    exact ⟨_, _, rfl, rfl⟩
  | .obj fields, _ => by
    rw [written_obj]
    exact ⟨_, _, rfl, rfl⟩

theorem lead_eq {a b : Json} (floatless : Floatless a) (otherFloatless : Floatless b) {r r' : List Char}
    (same : written a ++ r = written b ++ r') : a.lead = b.lead := by
  obtain ⟨c, rest, shape, ofA⟩ := written_eq_cons a floatless
  obtain ⟨d, others, otherShape, ofB⟩ := written_eq_cons b otherFloatless
  rw [shape, otherShape] at same
  rw [(List.cons.inj same).1, ofB] at ofA
  exact (Option.some.inj ofA).symm

theorem written_opens (value : Json) (floatless : Floatless value) :
    ∃ c rest, written value = c :: rest ∧ c ≠ ']' := by
  obtain ⟨c, rest, shape, ofValue⟩ := written_eq_cons value floatless
  refine ⟨c, rest, shape, ?_⟩
  rintro rfl
  cases ofValue

theorem writtenField_opens (entry : String × Json) : ∃ c rest, writtenField entry = c :: rest ∧ c ≠ '\x7d' := by
  rw [writtenField, quote, String.toList_ofList]
  exact ⟨'"', _, rfl, by decide⟩

theorem Delimited.field {value : Json} (delimited : Delimited written Floatless value) (key : String) :
    Delimited writtenField (fun entry => Floatless entry.2) (key, value) := by
  rintro ⟨other, b⟩ otherFloatless r r' ends otherEnds same
  rw [writtenField, writtenField, List.append_assoc, List.append_assoc] at same
  obtain ⟨rfl, later⟩ := quote_append_inj same
  obtain ⟨rfl, rest⟩ := delimited b otherFloatless r r' ends otherEnds (List.cons.inj later).2
  exact ⟨rfl, rest⟩

/-- Only values that begin alike have to be told apart. -/
theorem delimited_of_lead {a : Json} (floatless : Floatless a)
    (alike : ∀ b, Floatless b → a.lead = b.lead → ∀ r r', NoDigit r → NoDigit r' →
      written a ++ r = written b ++ r' → a = b ∧ r = r') : Delimited written Floatless a :=
  fun b otherFloatless r r' ends otherEnds same =>
    alike b otherFloatless (lead_eq floatless otherFloatless same) r r' ends otherEnds same

mutual

/-- The text of a value tells the value and where it ends: the first character says which kind of value it is, and
the parts of lists and objects do so themselves. -/
theorem delimited_written : ∀ value : Json, Floatless value → Delimited written Floatless value
  | .null, floatless => delimited_of_lead floatless fun b _ kind r r' _ _ same => by
    cases b <;> cases kind
    exact ⟨rfl, List.append_cancel_left same⟩
  | .bool a, floatless => delimited_of_lead floatless fun b _ kind r r' _ _ same => by
    cases b <;> cases kind
    exact ⟨rfl, List.append_cancel_left same⟩
  | .int n, floatless => delimited_of_lead floatless fun b otherFloatless kind r r' ends otherEnds same => by
    cases b <;> cases kind
    · obtain ⟨rfl, rest⟩ := Numeral.ofInt_append_inj ends otherEnds same
      exact ⟨rfl, rest⟩
    · exact absurd .self (otherFloatless _)
  | .float x, floatless => absurd .self (floatless x)
  | .str s, floatless => delimited_of_lead floatless fun b _ kind r r' _ _ same => by
    cases b <;> cases kind
    obtain ⟨rfl, rest⟩ := quote_append_inj same
    exact ⟨rfl, rest⟩
  | .arr items, floatless => delimited_of_lead floatless fun b otherFloatless kind r r' _ _ same => by
    cases b <;> cases kind
    have each := delimited_items items fun _ member => floatless.item member
    rw [written_arr, written_arr, List.cons_append, List.cons_append, List.append_assoc, List.append_assoc] at same
    obtain ⟨rfl, rest⟩ := enclosed_append_inj (by decide) (by decide) written_opens each
      (fun _ member => floatless.item member) (fun _ member => otherFloatless.item member) (List.cons.inj same).2
    exact ⟨rfl, rest⟩
  | .obj fields, floatless => delimited_of_lead floatless fun b otherFloatless kind r r' _ _ same => by
    cases b <;> cases kind
    have each := delimited_fields fields fun _ member => floatless.field member
    rw [written_obj, written_obj, List.cons_append, List.cons_append, List.append_assoc, List.append_assoc] at same
    obtain ⟨rfl, rest⟩ := enclosed_append_inj (by decide) (by decide) (fun entry _ => writtenField_opens entry) each
      (fun _ member => floatless.field member) (fun _ member => otherFloatless.field member) (List.cons.inj same).2
    exact ⟨rfl, rest⟩

theorem delimited_items : ∀ items : List Json, (∀ value ∈ items, Floatless value) →
    ∀ value ∈ items, Delimited written Floatless value
  | [], _ => fun _ member => absurd member List.not_mem_nil
  | first :: rest, floatless => by
    rw [List.forall_mem_cons] at floatless ⊢
    exact ⟨delimited_written first floatless.1, delimited_items rest floatless.2⟩

theorem delimited_fields : ∀ fields : List (String × Json), (∀ entry ∈ fields, Floatless entry.2) →
    ∀ entry ∈ fields, Delimited writtenField (fun entry => Floatless entry.2) entry
  | [], _ => fun _ member => absurd member List.not_mem_nil
  | (key, first) :: rest, floatless => by
    rw [List.forall_mem_cons] at floatless ⊢
    exact ⟨(delimited_written first floatless.1).field key, delimited_fields rest floatless.2⟩

end

end Json

end TagAudit

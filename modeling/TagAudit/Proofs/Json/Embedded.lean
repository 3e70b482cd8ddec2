import Mathlib.Tactic.SplitIfs
import TagAudit.Proofs.Text.ScriptEnd

namespace TagAudit

open Text

theorem hexDigit_ne_angle (n : Nat) : hexDigit (n % 16) ≠ '<' := by
  have small : n % 16 < 16 := Nat.mod_lt n (by decide)
  generalize n % 16 = digit at small
  revert digit
  decide

theorem hex_unopened (width n : Nat) : '<' ∉ hex width n := by
  induction width generalizing n with
  | zero => exact List.not_mem_nil
  | succ width ih =>
    rw [hex, List.mem_append, List.mem_singleton, not_or]
    exact ⟨ih _, (hexDigit_ne_angle n).symm⟩

namespace Numeral

theorem ofNat_unopened (n : Nat) : '<' ∉ ofNat n := fun member => by
  have digit : '<'.isDigit = true := Nat.isDigit_of_mem_toDigits (by decide) (by decide) member
  exact absurd digit (by decide)

theorem ofInt_unopened (n : Int) : '<' ∉ (ofInt n).toList := by
  rw [ofInt, String.toList_ofList]
  split
  · simp [ofNat_unopened]
  · exact ofNat_unopened _

theorem place_unopened {digits : List Char} (plain : '<' ∉ digits) (point : Int) : '<' ∉ place digits point := by
  have taken (k : Nat) : '<' ∉ digits.take k := fun member => plain (List.mem_of_mem_take member)
  have dropped (k : Nat) : '<' ∉ digits.drop k := fun member => plain (List.mem_of_mem_drop member)
  unfold place
  split
  · have tail : '<' ∉ (if digits.length ≤ 1 then [] else '.' :: digits.drop 1) := by
      split
      · exact List.not_mem_nil
      · exact List.not_mem_cons_of_ne_of_not_mem (by decide) (dropped 1)
    have sign : '<' ≠ (if point - 1 < 0 then '-' else '+') := by split <;> decide
    simp only [List.mem_append, List.mem_cons, List.mem_replicate, List.not_mem_nil, or_false, not_or]
    exact ⟨⟨⟨⟨taken 1, tail⟩, by decide, sign⟩, fun zero => absurd zero.2 (by decide)⟩, ofNat_unopened _⟩
  · split
    · simp [plain]
    · split
      · simp [plain]
      · simp [taken, dropped]

theorem ofDecimal_unopened (d : Decimal) : '<' ∉ ofDecimal d := by
  unfold ofDecimal
  split
  · decide
  · refine place_unopened (fun member => ofNat_unopened d.digits ?_) _
    rw [stripZeros, List.mem_reverse] at member
    exact List.mem_reverse.mp ((List.dropWhile_sublist _).subset member)

theorem ofFloat_unopened (x : Float) : '<' ∉ (ofFloat json x).toList := by
  have sign (negative : Bool) : '<' ∉ (if negative then "-" else "").toList := by cases negative <;> decide
  unfold ofFloat
  split
  · decide
  · rw [String.toList_append, List.mem_append, not_or]
    exact ⟨sign _, by decide⟩
  · rw [String.toList_append, List.mem_append, not_or, String.toList_ofList]
    exact ⟨sign _, ofDecimal_unopened _⟩

end Numeral

namespace Json

/-- A character that has nothing to do with tags, written behind a backslash. -/
def Escaped (c : Char) (written : List Char) : Prop := ∃ code, written = '\\' :: code ∧ '<' ∉ code ∧ Neutral c

theorem escaped_of_escapeBasic {c : Char} {written : List Char} (escapes : escapeBasic c = some written) :
    Escaped c written := by
  unfold escapeBasic at escapes
  split_ifs at escapes with quote backslash line carriage tab back feed control
  all_goals obtain rfl := Option.some.inj escapes
  · exact ⟨_, rfl, by decide, quote ▸ by decide⟩
  · exact ⟨_, rfl, by decide, backslash ▸ by decide⟩
  · exact ⟨_, rfl, by decide, line ▸ by decide⟩
  · exact ⟨_, rfl, by decide, carriage ▸ by decide⟩
  · exact ⟨_, rfl, by decide, tab ▸ by decide⟩
  · exact ⟨_, rfl, by decide, neutral_of_code (by omega)⟩
  · exact ⟨_, rfl, by decide, neutral_of_code (by omega)⟩
  · exact ⟨_, rfl, by simp [hex_unopened], neutral_of_code (Or.inl control)⟩

theorem escapeAscii_cases (c : Char) : escapeAscii c = [c] ∨ Escaped c (escapeAscii c) := by
  unfold escapeAscii
  cases basic : escapeBasic c with
  | some written => exact Or.inr (escaped_of_escapeBasic basic)
  | none =>
    dsimp only
    split_ifs with ascii plane
    · exact Or.inl rfl
    · exact Or.inr ⟨_, rfl, by simp [hex_unopened], neutral_of_code (by omega)⟩
    · exact Or.inr ⟨_, rfl, by simp [hex_unopened], neutral_of_code (by omega)⟩

/-- Escaping neither makes nor hides the end of a script. -/
theorem endsScript_escaped_iff (front : String) (s : List Char) :
    EndsScript (front ++ String.ofList (s.flatMap escapeAscii)) ↔ EndsScript (front ++ String.ofList s) := by
  induction s generalizing front with
  | nil => rfl
  | cons c rest ih =>
    have source : front ++ String.ofList (c :: rest) = front ++ String.singleton c ++ String.ofList rest := by
      simp [← String.toList_inj]
    rw [List.flatMap_cons, String.ofList_append, source]
    rcases escapeAscii_cases c with plain | ⟨code, escaped, unopened, neutral⟩
    · rw [plain, ← ih, ← String.append_assoc]
      rfl
    · have written : front ++ (String.ofList ('\\' :: code) ++ String.ofList (rest.flatMap escapeAscii)) =
          front ++ "\\" ++ (String.ofList code ++ String.ofList (rest.flatMap escapeAscii)) := by
        simp [← String.toList_inj]
      have later := ih ""
      rw [String.empty_append, String.empty_append] at later
      rw [escaped, written, endsScript_separated_iff (by decide) (by decide),
        endsScript_behind_iff (by simpa using unopened), later,
        endsScript_separated_iff (by simp) (by simpa [AllNeutral] using neutral)]

theorem endsScript_quote_iff (s : String) : EndsScript (quote escapeAscii s) ↔ EndsScript s := by
  have whole : quote escapeAscii s = "\"" ++ String.ofList (s.toList.flatMap escapeAscii) ++ "\"" := by
    simp [quote, ← String.toList_inj]
  have inner := endsScript_escaped_iff "" s.toList
  rw [String.empty_append, String.empty_append, String.ofList_toList] at inner
  rw [whole, endsScript_enclosed_iff (by decide) (by decide) (by decide) (by decide), inner]

mutual

/-- The texts in a value and the names of its fields. -/
def strings : Json → List String
  | str s => [s]
  | arr items => stringsOfItems items
  | obj fields => stringsOfFields fields
  | null | bool _ | int _ | float _ => []

def stringsOfItems : List Json → List String
  | [] => []
  | value :: rest => strings value ++ stringsOfItems rest

def stringsOfFields : List (String × Json) → List String
  | [] => []
  | (key, value) :: rest => key :: strings value ++ stringsOfFields rest

end

theorem newline_neutral (depth : Nat) : AllNeutral (newline depth) := by
  have blank : Neutral ' ' := by decide
  have line : Neutral '\n' := by decide
  intro c member
  rw [newline, String.toList_ofList, List.mem_cons, List.mem_replicate] at member
  rcases member with rfl | ⟨_, rfl⟩
  · exact line
  · exact blank

/-- The lines between brackets decide. -/
theorem endsScript_lines_iff {first last : String} (opens : AllNeutral first) (closes : AllNeutral last) (depth : Nat)
    (lines : List String) :
    EndsScript (first ++ newline (depth + 1) ++ ("," ++ newline (depth + 1)).intercalate lines ++
      newline depth ++ last) ↔ ∃ line ∈ lines, EndsScript line := by
  have whole : first ++ newline (depth + 1) ++ ("," ++ newline (depth + 1)).intercalate lines ++ newline depth ++
      last = (first ++ newline (depth + 1)) ++ ("," ++ newline (depth + 1)).intercalate lines ++
      (newline depth ++ last) := String.append_assoc
  have comma : AllNeutral "," := by decide
  rw [whole, endsScript_enclosed_iff (by simp [newline]) (by simp [newline])
    (opens.append (newline_neutral _)) ((newline_neutral _).append closes),
    endsScript_intercalate_iff (by simp [newline]) (comma.append (newline_neutral _))]

theorem endsScript_field_iff (key value : String) :
    EndsScript (quote escapeAscii key ++ ": " ++ value) ↔ EndsScript key ∨ EndsScript value := by
  rw [endsScript_separated_iff (by decide) (by decide), endsScript_quote_iff]

theorem endsScript_plain_iff {text : String} (unopened : '<' ∉ text.toList) :
    EndsScript text ↔ ∃ s ∈ ([] : List String), EndsScript s :=
  iff_of_false (not_endsScript_of_unopened unopened) (by simp)

mutual

theorem endsScript_indented_iff (depth : Nat) : ∀ value : Json,
    EndsScript (indented escapeAscii depth value) ↔ ∃ s ∈ value.strings, EndsScript s
  | .arr [] => endsScript_plain_iff (by rw [indented]; decide)
  | .arr (value :: rest) => by
    rw [indented, endsScript_lines_iff (by decide) (by decide)]
    exact endsScript_indentedItems_iff (depth + 1) (value :: rest)
  | .obj [] => endsScript_plain_iff (by rw [indented]; decide)
  | .obj ((key, value) :: rest) => by
    rw [indented, endsScript_lines_iff (by decide) (by decide)]
    exact endsScript_indentedFields_iff (depth + 1) ((key, value) :: rest)
  | .str s => by
    rw [indented, endsScript_quote_iff, strings]
    simp
  | .null => endsScript_plain_iff (by rw [indented]; decide)
  | .bool true | .bool false => endsScript_plain_iff (by rw [indented]; decide)
  | .int n => endsScript_plain_iff (Numeral.ofInt_unopened n)
  | .float x => endsScript_plain_iff (Numeral.ofFloat_unopened x)

theorem endsScript_indentedItems_iff (depth : Nat) : ∀ items : List Json,
    (∃ line ∈ indentedItems escapeAscii depth items, EndsScript line) ↔ ∃ s ∈ stringsOfItems items, EndsScript s
  | [] => Iff.rfl
  | value :: rest => by
    simp only [indentedItems, stringsOfItems, List.mem_cons, List.mem_append, or_and_right, exists_or, exists_eq_left]
    rw [endsScript_indented_iff depth value, endsScript_indentedItems_iff depth rest]

theorem endsScript_indentedFields_iff (depth : Nat) : ∀ fields : List (String × Json),
    (∃ line ∈ indentedFields escapeAscii depth fields, EndsScript line) ↔ ∃ s ∈ stringsOfFields fields, EndsScript s
  | [] => Iff.rfl
  | (key, value) :: rest => by
    simp only [indentedFields, stringsOfFields, List.mem_cons, List.mem_append, or_and_right, exists_or,
      exists_eq_left]
    rw [endsScript_field_iff, endsScript_indented_iff depth value, endsScript_indentedFields_iff depth rest]

end

end Json

end TagAudit

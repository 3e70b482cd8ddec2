import Mathlib.Tactic.SplitIfs
import TagAudit.Json.Token
import TagAudit.Json.Writer

namespace TagAudit

namespace Json

theorem hexValue_hexDigit {digit : Nat} (small : digit < 16) : hexValue? (Text.hexDigit digit) = some digit := by
  revert digit
  decide

section

variable {chars : List Char} {rest : List Char}

theorem scan_silent {state next : Scan} {c : Char} (silent : state.step c = ([], next)) :
    scanFrom state (c :: rest) = scanFrom next rest := by
  rw [scanFrom, silent]
  rfl

theorem scan_hexDigit {missing unit digit : Nat} (more : 1 < missing) (small : digit < 16) :
    scanFrom (.unicode chars missing unit) (Text.hexDigit digit :: rest) =
      scanFrom (.unicode chars (missing - 1) (16 * unit + digit)) rest := by
  refine scan_silent ?_
  rw [Scan.step, hexValue_hexDigit small]
  exact if_neg (by omega)

theorem scan_lastHexDigit {unit digit : Nat} (small : digit < 16) :
    scanFrom (.unicode chars 1 unit) (Text.hexDigit digit :: rest) =
      scanFrom (closeUnit chars (16 * unit + digit)) rest := by
  refine scan_silent ?_
  rw [Scan.step, hexValue_hexDigit small]
  rfl

/-- Four digits are read as the code unit that they are written for. -/
theorem scan_hex {unit : Nat} (small : unit < 65536) :
    scanFrom (.unicode chars 4 0) (Text.hex 4 unit ++ rest) = scanFrom (closeUnit chars unit) rest := by
  have digits : Text.hex 4 unit = [Text.hexDigit (unit / 16 / 16 / 16 % 16), Text.hexDigit (unit / 16 / 16 % 16),
    Text.hexDigit (unit / 16 % 16), Text.hexDigit (unit % 16)] := rfl
  have below (n : Nat) : n % 16 < 16 := Nat.mod_lt n (by decide)
  have whole : 16 * (16 * (16 * (16 * 0 + unit / 16 / 16 / 16 % 16) + unit / 16 / 16 % 16) + unit / 16 % 16) +
      unit % 16 = unit := by omega
  rw [digits]
  simp only [List.cons_append, List.nil_append]
  rw [scan_hexDigit (by decide) (below _), scan_hexDigit (by decide) (below _), scan_hexDigit (by decide) (below _),
    scan_lastHexDigit (below _), whole]

theorem scan_control {c : Char} (control : c.toNat < 32) :
    scanFrom (.inText chars) ('\\' :: 'u' :: (Text.hex 4 c.toNat ++ rest)) =
      scanFrom (.inText (c :: chars)) rest := by
  have unit : closeUnit chars c.toNat = .inText (c :: chars) := by
    have high : isHigh c.toNat = false := by simp [isHigh]; omega
    have low : isLow c.toNat = false := by simp [isLow]; omega
    rw [closeUnit, high, low, Char.ofNat_toNat]
    rfl
  rw [scan_silent rfl, scan_silent rfl, scan_hex (by omega), unit]

theorem scan_short {c mark : Char} (short : shortEscape? mark = some c) :
    scanFrom (.inText chars) ('\\' :: mark :: rest) = scanFrom (.inText (c :: chars)) rest := by
  have escapes : (Scan.escaped chars).step mark = ([], .inText (c :: chars)) := by rw [Scan.step, scanEscape, short]
  rw [scan_silent rfl, scan_silent escapes]

theorem scan_plain {c : Char} (plain : escapeBasic c = none) :
    scanFrom (.inText chars) (c :: rest) = scanFrom (.inText (c :: chars)) rest := by
  unfold escapeBasic at plain
  split_ifs at plain with quote backslash line carriage tab back feed control
  refine scan_silent ?_
  rw [Scan.step, scanText, if_neg quote, if_neg backslash, if_neg control]

/-- A character that has been escaped is read again, and nothing else with it. -/
theorem scan_escape (c : Char) :
    scanFrom (.inText chars) (escape c ++ rest) = scanFrom (.inText (c :: chars)) rest := by
  have code {n : Nat} (same : c.toNat = n) : c = Char.ofNat n := by rw [← same, Char.ofNat_toNat]
  have short {mark d : Char} (same : c = d) (read : shortEscape? mark = some d) :
      scanFrom (.inText chars) (['\\', mark] ++ rest) = scanFrom (.inText (c :: chars)) rest :=
    scan_short (same ▸ read)
  cases escapes : escapeBasic c with
  | none =>
    rw [escape, escapes]
    exact scan_plain escapes
  | some written =>
    rw [escape, escapes, Option.getD_some]
    unfold escapeBasic at escapes
    split_ifs at escapes with quote backslash line carriage tab back feed control
    all_goals obtain rfl := Option.some.inj escapes
    · exact short quote rfl
    · exact short backslash rfl
    · exact short line rfl
    · exact short carriage rfl
    · exact short tab rfl
    · exact short (code back) rfl
    · exact short (code feed) rfl
    · exact scan_control control

/-- The characters between quotes are read up to the closing quote. -/
theorem scan_escaped (s : List Char) : scanFrom (.inText chars) (s.flatMap escape ++ '"' :: rest) =
    .text (String.ofList (chars.reverse ++ s)) :: scanFrom .between rest := by
  induction s generalizing chars with
  | nil =>
    rw [List.append_nil]
    rfl
  | cons c s ih => rw [List.flatMap_cons, List.append_assoc, scan_escape, ih, List.reverse_cons, ← List.append_cons]

end

/-- A text between quotes tells where it ends, whatever follows. -/
theorem quote_append_inj {s t : String} {r r' : List Char}
    (same : (quote escape s).toList ++ r = (quote escape t).toList ++ r') : s = t ∧ r = r' := by
  have written (u : String) (rest : List Char) :
      (quote escape u).toList ++ rest = '"' :: (u.toList.flatMap escape ++ '"' :: rest) := by simp [quote]
  rw [written, written, List.cons.injEq] at same
  have read := congrArg (scanFrom (.inText [])) same.2
  rw [scan_escaped, scan_escaped, List.cons.injEq, Token.text.injEq] at read
  obtain rfl : s = t := by simpa using read.1
  exact ⟨rfl, (List.cons.inj (List.append_cancel_left same.2)).2⟩

end Json

end TagAudit

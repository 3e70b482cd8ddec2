import TagAudit.Checksum

namespace TagAudit.Checksum

/-- The number that a character stands for as a digit. -/
def digitValue (c : Char) : Nat := if c.isDigit then c.toNat - 48 else c.toNat - 87

/-- The number that digits in base 36 stand for, behind those that have been read. -/
def base36Value (digits : List Char) (read : Nat) : Nat :=
  digits.foldl (fun number c => 36 * number + digitValue c) read

theorem digitValue_base36Digit {digit : Nat} (small : digit < 36) : digitValue (base36Digit digit) = digit := by
  revert digit
  decide

theorem base36Value_base36From {steps n : Nat} (enough : n ≤ steps) (digits : List Char) :
    base36Value (base36From steps n digits) 0 = base36Value digits n := by
  induction steps generalizing n digits with
  | zero =>
    obtain rfl : n = 0 := by omega
    rfl
  | succ steps ih =>
    rw [base36From]
    split
    · rename_i zero
      rw [zero]
    · have digit : digitValue (base36Digit (n % 36)) = n % 36 := digitValue_base36Digit (Nat.mod_lt n (by decide))
      have whole : 36 * (n / 36) + n % 36 = n := by omega
      rw [ih (by omega), base36Value, List.foldl_cons, digit, whole, base36Value]

/-- A numeral in base 36 reads as the number that it is written for. -/
theorem base36Value_base36 (n : Nat) : base36Value (base36 n).toList 0 = n := by
  unfold base36
  split
  · rename_i zero
    rw [zero]
    rfl
  · rw [String.toList_ofList, base36Value_base36From (Nat.le_refl n)]
    rfl

theorem base36_injective {m n : Nat} (same : base36 m = base36 n) : m = n := by
  rw [← base36Value_base36 m, same, base36Value_base36]

/-- Names of one label are equal exactly if the checksums of their texts are. -/
theorem name_eq_iff {label s t : String} : name label s = name label t ↔ ofText s = ofText t := by
  constructor
  · intro same
    have digits := congrArg String.toList same
    rw [name, name, String.toList_append, String.toList_append] at digits
    exact base36_injective (String.toList_inj.mp (List.append_cancel_left digits))
  · intro same
    rw [name, name, same]

/-- Different texts with one checksum. -/
def Collide (s t : String) : Prop := s ≠ t ∧ ofText s = ofText t

theorem ofText_eq_iff {s t : String} : ofText s = ofText t ↔ s = t ∨ Collide s t := by
  constructor
  · intro same
    by_cases equal : s = t
    · exact Or.inl equal
    · exact Or.inr ⟨equal, same⟩
  · rintro (rfl | ⟨_, same⟩)
    · rfl
    · exact same

end TagAudit.Checksum

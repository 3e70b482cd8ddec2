import Mathlib.Algebra.BigOperators.Fin
import Mathlib.Data.Int.ModEq
import Mathlib.Data.Nat.Digits.Lemmas
import Mathlib.Tactic.Ring
import TagAudit.Container.Duplicate
import TagAudit.Proofs.Checksum
import TagAudit.Text.Slug

namespace TagAudit

namespace Checksum

open Text

/-- The polynomial in 31 whose coefficients are the code points of a text, the last of them the constant one. -/
def unbounded (s : List Char) : Nat := ∑ i : Fin s.length, s[i].toNat * 31 ^ (s.length - 1 - i)

theorem unbounded_cons (c : Char) (rest : List Char) :
    unbounded (c :: rest) = c.toNat * 31 ^ rest.length + unbounded rest := by
  have later (i : Fin rest.length) : (c :: rest).length - 1 - i.succ = rest.length - 1 - i := by
    rw [List.length_cons, Fin.val_succ]
    omega
  refine (Fin.sum_univ_succ (n := rest.length) _).trans (congrArg _ (Fintype.sum_congr _ _ fun i => ?_))
  rw [later]
  rfl

/-- Reduced in every step or once at the end, the word is the same. -/
theorem foldl_mod_eq (s : List Char) {word : Nat} (small : word < wordCount) :
    s.foldl (fun h c => (h * 31 + c.toNat) % wordCount) word = (word * 31 ^ s.length + unbounded s) % wordCount := by
  induction s generalizing word with
  | nil => simpa [unbounded] using (Nat.mod_eq_of_lt small).symm
  | cons c rest ih =>
    rw [List.foldl_cons, ih (Nat.mod_lt _ (by decide)), unbounded_cons]
    calc ((word * 31 + c.toNat) % wordCount * 31 ^ rest.length + unbounded rest) % wordCount
      _ = ((word * 31 + c.toNat) * 31 ^ rest.length + unbounded rest) % wordCount :=
        ((Nat.mod_modEq _ _).mul_right _).add_right _
      _ = (word * 31 ^ (rest.length + 1) + (c.toNat * 31 ^ rest.length + unbounded rest)) % wordCount := by
        congr 1
        ring

theorem polynomial_eq (s : List Char) : polynomial s = unbounded s % wordCount := by
  rw [polynomial, foldl_mod_eq s (by decide), Nat.zero_mul, Nat.zero_add]

/-- The size of a word is the distance of its number from the nearest multiple of the number of words. -/
theorem signedSize_mod (n : Nat) : signedSize (n % wordCount) = (Int.bmod n wordCount).natAbs := by
  have count : wordCount = 4294967296 := rfl
  rw [signedSize, Int.bmod_def, count]
  split <;> split <;> omega

/-- A checksum is the size of the signed word of 32 bits that is congruent to the polynomial. -/
theorem exists_signed (s : String) : ∃ signed : Int, -2 ^ 31 ≤ signed ∧ signed < 2 ^ 31 ∧
    signed ≡ unbounded s.toList [ZMOD 2 ^ 32] ∧ ofText s = signed.natAbs := by
  refine ⟨Int.bmod (unbounded s.toList) wordCount, Int.le_bmod (by decide), Int.bmod_lt (by decide),
    Int.bmod_emod, ?_⟩
  rw [ofText, polynomial_eq, signedSize_mod]

/-- The digits of a number in base 36, with no zero in front of others. -/
structure IsNumeral (digits : List Char) (n : Nat) : Prop where
  nonempty : digits ≠ []
  plain : ∀ c ∈ digits, isPlain c = true
  value : base36Value digits 0 = n
  leading : digits.head? = some '0' → n = 0

theorem base36From_eq {steps n : Nat} (enough : n ≤ steps) (digits : List Char) :
    base36From steps n digits = ((Nat.digits 36 n).map base36Digit).reverse ++ digits := by
  induction steps generalizing n digits with
  | zero =>
    obtain rfl : n = 0 := by omega
    simp [base36From]
  | succ steps ih =>
    rw [base36From]
    split
    · rename_i zero
      simp [zero]
    · rename_i positive
      rw [ih (by omega), Nat.digits_def' (by decide) (Nat.pos_of_ne_zero positive), List.map_cons, List.reverse_cons,
        List.append_assoc]
      rfl

theorem isPlain_base36Digit {digit : Nat} (small : digit < 36) : isPlain (base36Digit digit) = true := by
  revert digit
  decide

theorem eq_zero_of_base36Digit {digit : Nat} (small : digit < 36) (zero : base36Digit digit = '0') : digit = 0 := by
  revert digit
  decide

theorem toList_base36 {n : Nat} (positive : n ≠ 0) :
    (base36 n).toList = ((Nat.digits 36 n).map base36Digit).reverse := by
  rw [base36, if_neg positive, String.toList_ofList, base36From_eq (Nat.le_refl n), List.append_nil]

theorem isNumeral_base36 (n : Nat) : IsNumeral (base36 n).toList n := by
  by_cases zero : n = 0
  · subst zero
    exact ⟨by decide, List.all_eq_true.mp (by decide), base36Value_base36 0, fun _ => rfl⟩
  · have small {digit : Nat} (member : digit ∈ Nat.digits 36 n) : digit < 36 :=
      Nat.digits_lt_base (by decide) member
    have nonempty : Nat.digits 36 n ≠ [] := Nat.digits_ne_nil_iff_ne_zero.mpr zero
    refine ⟨?_, ?_, base36Value_base36 n, ?_⟩
    · simpa [toList_base36 zero] using nonempty
    · intro c member
      rw [toList_base36 zero] at member
      obtain ⟨digit, inside, rfl⟩ := List.mem_map.mp (List.mem_reverse.mp member)
      exact isPlain_base36Digit (small inside)
    · -- The first digit is the last quotient, which is not zero.
      intro first
      rw [toList_base36 zero, List.head?_reverse, List.getLast?_map, List.getLast?_eq_some_getLast nonempty,
        Option.map_some, Option.some.injEq] at first
      exact absurd (eq_zero_of_base36Digit (small (List.getLast_mem nonempty)) first)
        (Nat.getLast_digit_ne_zero 36 zero)

/-- A checksum is the size of a signed word of 32 bits, which is the polynomial of the text reduced once, and is
written as a numeral in base 36. Identifiers and signatures are made from such numerals, so two of them are equal
exactly if the checksums are. -/
theorem identifiers_tell_checksums :
    (∀ s : String, polynomial s.toList = unbounded s.toList % 2 ^ 32 ∧ ofText s ≤ 2 ^ 31 ∧
      ∃ signed : Int, -2 ^ 31 ≤ signed ∧ signed < 2 ^ 31 ∧ signed ≡ unbounded s.toList [ZMOD 2 ^ 32] ∧
        ofText s = signed.natAbs) ∧
    (∀ n : Nat, IsNumeral (base36 n).toList n) ∧
    (∀ e f : Entity, e.uniqueId = f.uniqueId ↔
      ofText (Json.compact (.obj e.content)) = ofText (Json.compact (.obj f.content))) ∧
    ∀ values others : List Json, signature values = signature others ↔
      ofText (signatureText values) = ofText (signatureText others) := by
  refine ⟨fun s => ⟨polynomial_eq s.toList, ?_, exists_signed s⟩, isNumeral_base36, fun e f => name_eq_iff,
    fun values others => name_eq_iff⟩
  obtain ⟨signed, lower, upper, _, size⟩ := exists_signed s
  omega

/-- The polynomial of this text is the least signed word, and its size is no signed word any more. -/
example : name "uid_" "polygenelubricants" = "uid_zik0zk" ∧ ofText "polygenelubricants" = 2 ^ 31 := by decide

end Checksum

end TagAudit

import TagAudit.Number.Shortest

namespace TagAudit.Numeral

def ofNat (n : Nat) : List Char := Nat.toDigits 10 n

def ofInt (n : Int) : String :=
  String.ofList (if n < 0 then '-' :: ofNat n.natAbs else ofNat n.natAbs)

theorem ofNat_injective {m n : Nat} (same : ofNat m = ofNat n) : m = n := by
  have read := congrArg (Nat.ofDigitChars 10 · 0) same
  simpa only [ofNat, Nat.ofDigitChars_ten_toDigits] using read

theorem ofInt_natCast (n : Nat) : ofInt n = String.ofList (ofNat n) := by
  have nonneg : ¬(n : Int) < 0 := by omega
  rw [ofInt, if_neg nonneg, Int.natAbs_natCast]

theorem ofInt_natCast_injective {m n : Nat} (same : ofInt m = ofInt n) : m = n := by
  rw [ofInt_natCast, ofInt_natCast] at same
  exact ofNat_injective (String.ofList_injective same)

/-- Digits with zeros in front up to a width. -/
def padded (width n : Nat) : String :=
  let digits := ofNat n
  String.ofList (List.replicate (width - digits.length) '0' ++ digits)

def stripZeros (digits : List Char) : List Char :=
  (digits.reverse.dropWhile (· = '0')).reverse

/-- A decimal with the point after `point` of its digits. Below 10⁻⁴ and from 10¹⁶ on an exponent
of at least two digits is written; an integral value in positional form keeps `.0`. -/
def place (digits : List Char) (point : Int) : List Char :=
  if point - 1 < -4 ∨ 16 ≤ point - 1 then
    let tail := if digits.length ≤ 1 then [] else '.' :: digits.drop 1
    let exponent := ofNat (point - 1).natAbs
    digits.take 1 ++ tail ++ ['e', if point - 1 < 0 then '-' else '+'] ++
      List.replicate (2 - exponent.length) '0' ++ exponent
  else if point ≤ 0 then
    ['0', '.'] ++ List.replicate (-point).toNat '0' ++ digits
  else if digits.length ≤ point.toNat then
    digits ++ List.replicate (point.toNat - digits.length) '0' ++ ['.', '0']
  else
    digits.take point.toNat ++ ['.'] ++ digits.drop point.toNat

def ofDecimal (d : Decimal) : List Char :=
  if d.digits = 0 then ['0', '.', '0']
  else
    let all := ofNat d.digits
    place (stripZeros all) (all.length + d.exponent)

/-- What a number format writes for the values that have no digits. -/
structure Specials where
  notNumber : String
  infinity : String

/-- The fewest digits that read back as the number. -/
def ofFloat (specials : Specials) (x : Float) : String :=
  match Binary.ofFloat x with
  | .notNumber => specials.notNumber
  | .infinite negative => (if negative then "-" else "") ++ specials.infinity
  | .finite negative m e =>
    (if negative then "-" else "") ++ String.ofList (ofDecimal (Decimal.shortest m e))

/-- The numeral inside messages. -/
def plain : Specials := ⟨"nan", "inf"⟩

/-- The numeral of a JSON text. -/
def json : Specials := ⟨"NaN", "Infinity"⟩

end TagAudit.Numeral

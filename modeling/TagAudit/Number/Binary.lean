namespace TagAudit

/-- The exact value of a floating point number: a finite one is `±significand · 2 ^ exponent`. -/
inductive Binary where
  | finite (negative : Bool) (significand : Nat) (exponent : Int)
  | infinite (negative : Bool)
  | notNumber

namespace Binary

/-- One more than the greatest fraction that a number can have. -/
def fractionSize : Nat := 1 <<< 52

def ofFloat (x : Float) : Binary :=
  let bits := x.toBits.toNat
  let negative : Bool := bits >>> 63 = 1
  let biased : Nat := (bits >>> 52) % 2048
  let fraction : Nat := bits % fractionSize
  if biased = 2047 then if fraction = 0 then infinite negative else notNumber
  else if biased = 0 then finite negative fraction (-1074)
  else finite negative (fractionSize + fraction) ((biased : Int) - 1075)

/-- How an integer and `±m · 2 ^ e` compare, both scaled to integers. -/
def compareInt (n : Int) (negative : Bool) (m : Nat) (e : Int) : Ordering :=
  let signed : Int := if negative then -m else m
  compare (n * Nat.pow 2 (-e).toNat) (signed * Nat.pow 2 e.toNat)

/-- The part of a finite number before the binary point, its sign kept. -/
def truncate : Binary → Int
  | finite negative m e =>
    let size : Nat := m * Nat.pow 2 e.toNat / Nat.pow 2 (-e).toNat
    if negative then -Int.ofNat size else Int.ofNat size
  | _ => 0

/-- The integer nearest to a finite number, the even one of two equally near. -/
def roundEven : Binary → Int
  | finite negative m e =>
    let scaled := m * Nat.pow 2 e.toNat
    let unit := Nat.pow 2 (-e).toNat
    let below := scaled / unit
    let size : Nat :=
      match compare (2 * (scaled % unit)) unit with
      | .lt => below
      | .gt => below + 1
      | .eq => below + below % 2
    if negative then -Int.ofNat size else Int.ofNat size
  | _ => 0

end Binary

/-- The greatest integer that is not above a number. -/
def floorInt (x : Float) : Int := (Binary.ofFloat x.floor).truncate

/-- The least integer that is not below a number. -/
def ceilInt (x : Float) : Int := (Binary.ofFloat x.ceil).truncate

def roundInt (x : Float) : Int := (Binary.ofFloat x).roundEven

end TagAudit

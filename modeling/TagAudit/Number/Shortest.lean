import TagAudit.Number.Binary

namespace TagAudit

/-- `digits · 10 ^ exponent`, a decimal numeral without its sign. -/
structure Decimal where
  digits : Nat
  exponent : Int

namespace Decimal

/-- The reals that round to `m · 2 ^ q`, in units of `2 ^ (q - 2)`. The gap below the first
significand of a binade is half as wide. The ends round to the number iff its significand is even. -/
structure Interval where
  low : Nat
  middle : Nat
  high : Nat
  closed : Bool
  unit : Int

def Interval.around (m : Nat) (q : Int) : Interval where
  low := if m = Binary.fractionSize ∧ q ≠ -1074 then 4 * m - 1 else 4 * m - 2
  middle := 4 * m
  high := 4 * m + 2
  closed := m % 2 = 0
  unit := q - 2

/-- Compares `x · 2 ^ unit` with `d · 10 ^ k`. -/
def compareWith (x : Nat) (unit : Int) (d : Nat) (k : Int) : Ordering :=
  compare (x * Nat.pow 2 unit.toNat * Nat.pow 10 (-k).toNat)
    (d * Nat.pow 10 k.toNat * Nat.pow 2 (-unit).toNat)

def Interval.contains (i : Interval) (d : Nat) (k : Int) : Bool :=
  match compareWith i.low i.unit d k, compareWith i.high i.unit d k with
  | .lt, .gt => true
  | .eq, .gt => i.closed
  | .lt, .eq => i.closed
  | _, _ => false

/-- The greatest `d` with `d · 10 ^ k` at most the middle of the interval. -/
def Interval.floor (i : Interval) (k : Int) : Nat :=
  i.middle * Nat.pow 2 i.unit.toNat * Nat.pow 10 (-k).toNat /
    (Nat.pow 10 k.toNat * Nat.pow 2 (-i.unit).toNat)

/-- Of the middle's two neighbours on the grid of step `10 ^ k` the nearer one that rounds to the
number; the even one of two equally near. -/
def Interval.neighbour? (i : Interval) (k : Int) : Option Nat :=
  let below := i.floor k
  let above := below + 1
  match i.contains below k, i.contains above k with
  | false, false => none
  | true, false => some below
  | false, true => some above
  | true, true =>
    match compareWith (2 * i.middle) i.unit (below + above) k with
    | .lt => some below
    | .gt => some above
    | .eq => some (if below % 2 = 0 then below else above)

/-- The number of decimal places left of the point of `m · 2 ^ q`, at most two too large. -/
def places (m : Nat) (q : Int) : Int :=
  ((m.log2 : Int) + q + 1) * 30103 / 100000 + 1

/-- Tries ever finer grids, from step `10 ^ k` on. -/
def Interval.search (i : Interval) (k : Int) : Nat → Decimal
  | 0 => ⟨i.floor k, k⟩
  | tries + 1 =>
    match i.neighbour? k with
    | some d => ⟨d, k⟩
    | none => i.search (k - 1) tries

/-- The decimal of fewest digits that rounds to `m · 2 ^ q`. Twenty grids reach past the
seventeen digits that always suffice. -/
def shortest (m : Nat) (q : Int) : Decimal :=
  if m = 0 then ⟨0, 0⟩ else (Interval.around m q).search (places m q) 20

end Decimal

end TagAudit

import TagAudit.Json
import TagAudit.Number.Binary

namespace TagAudit

/-- A number of a document. -/
inductive Number where
  | int (n : Int)
  | float (x : Float)

namespace Number

/-- Truth values count as the numbers 1 and 0. -/
def ofJson? : Json → Option Number
  | .bool b => some (int (if b then 1 else 0))
  | .int n => some (int n)
  | .float x => some (float x)
  | _ => none

/-- Compares exact values. A value that is not a number compares with nothing. -/
def order? : Number → Number → Option Ordering
  | int a, int b => some (compare a b)
  | float x, float y =>
    if x < y then some .lt else if x == y then some .eq else if y < x then some .gt else none
  | int a, float y => intWith a y
  | float x, int b => (intWith b x).map Ordering.swap
where
  intWith (n : Int) (x : Float) : Option Ordering :=
    match Binary.ofFloat x with
    | .finite negative m e => some (Binary.compareInt n negative m e)
    | .infinite negative => some (if negative then .gt else .lt)
    | .notNumber => none

def lt (a b : Number) : Bool := order? a b == some .lt
def le (a b : Number) : Bool := order? a b == some .lt || order? a b == some .eq
def same (a b : Number) : Bool := order? a b == some .eq

end Number

end TagAudit

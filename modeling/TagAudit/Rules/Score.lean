import TagAudit.Grouping
import TagAudit.Json.Scalar
import TagAudit.Number.Order

namespace TagAudit.Score

/-- What an issue of a severity costs. -/
def weight (severity : Scalar) : Nat :=
  match severity with
  | .str "critical" => 10
  | .str "high" => 5
  | .str "medium" => 2
  | _ => 1

def penalty (severities : List Scalar) : Nat := sumOf (severities.map weight)

/-- The points left of 100 when the penalty is measured against `total`, rounded to an integer. -/
def ofPenalty (penalty : Nat) (total : Float) : Int :=
  let left := 100.0 - penalty.toFloat / total * 100.0
  min 100 (floorInt ((if 0.0 < left then left else 0.0) + 0.5))

/-- A total that is absent or not positive counts as 100. -/
def denominator (total : Json) : Except Fault Float :=
  if !total.holds then .ok 100.0
  else
    match Number.ofJson? total with
    | none => .error .notOrdered
    | some n =>
      if n.le (.int 0) then .ok 100.0
      else
        match n with
        | .int k => .ok (Float.ofInt k)
        | .float x => .ok x

/-- The score of a list of issues of any form. -/
def ofIssues (issues total : Json) : Except Fault Int := do
  let total ← denominator total
  let severities ← (← issues.elements).mapM fun issue => do (← issue.getField "severity").scalar
  return ofPenalty (penalty severities) total

/-- The letter of the first row whose least score is reached. -/
def letter (rows : List (Int × String)) (score : Number) : String :=
  ((rows.find? fun (least, _) => (Number.int least).le score).map (·.2)).getD "F"

def grade (score : Number) : String := letter [(90, "A"), (80, "B"), (70, "C"), (60, "D")] score

end TagAudit.Score

namespace TagAudit.Text

/-- Whether one of the ranges, both ends included, holds the code point. -/
def inRanges (ranges : List (Nat × Nat)) (n : Nat) : Bool :=
  ranges.any fun (first, last) => first ≤ n && n ≤ last

/-- Whether the code point is the first, third, fifth, … of one of the ranges. -/
def inAlternating (ranges : List (Nat × Nat)) (n : Nat) : Bool :=
  ranges.any fun (first, last) => first ≤ n && n ≤ last && (n - first) % 2 == 0

end TagAudit.Text

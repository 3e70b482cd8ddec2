import TagAudit.Text.Ranges

namespace TagAudit.Text

/-- Blank characters outside ASCII. -/
def blankRanges : List (Nat × Nat) :=
  [(0x85, 0x85), (0xA0, 0xA0), (0x1680, 0x1680), (0x2000, 0x200A), (0x2028, 0x2029),
   (0x202F, 0x202F), (0x205F, 0x205F), (0x3000, 0x3000)]

/-- White space, and the four information separators. -/
def isBlank (c : Char) : Bool :=
  if c.toNat < 128 then (9 ≤ c.toNat && c.toNat ≤ 13) || (28 ≤ c.toNat && c.toNat ≤ 32)
  else inRanges blankRanges c.toNat

def trimStart (s : List Char) : List Char := s.dropWhile isBlank

/-- Takes the blanks off both ends. -/
def trim (s : List Char) : List Char := (trimStart (trimStart s).reverse).reverse

end TagAudit.Text

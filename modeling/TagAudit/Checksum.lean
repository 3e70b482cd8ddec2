namespace TagAudit.Checksum

/-- The number of words of 32 bits. -/
def wordCount : Nat := 1 <<< 32

/-- A polynomial in 31 over the code points, as a word. -/
def polynomial (s : List Char) : Nat :=
  s.foldl (fun h c => (h * 31 + c.toNat) % wordCount) 0

/-- The size of a 32-bit word that is read as a signed number. -/
def signedSize (word : Nat) : Nat := if word < wordCount / 2 then word else wordCount - word

/-- Equal texts have equal checksums. Different texts may share one, so it groups and never
identifies. -/
def ofText (s : String) : Nat := signedSize (polynomial s.toList)

def base36Digit (n : Nat) : Char := if n < 10 then Char.ofNat (48 + n) else Char.ofNat (87 + n)

/-- Puts the digits of a number in base 36 in front of `digits`; `n` steps reach past the last. -/
def base36From : (steps : Nat) → Nat → List Char → List Char
  | 0, _, digits => digits
  | steps + 1, n, digits =>
    if n = 0 then digits else base36From steps (n / 36) (base36Digit (n % 36) :: digits)

def base36 (n : Nat) : String := if n = 0 then "0" else String.ofList (base36From n n [])

def name (label text : String) : String := label ++ base36 (ofText text)

end TagAudit.Checksum

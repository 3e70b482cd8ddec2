namespace TagAudit.Text.Base64

/-- The six bits that a character stands for. -/
def value? (c : Char) : Option Nat :=
  if c.isUpper then some (c.toNat - 65)
  else if c.isLower then some (c.toNat - 71)
  else if c.isDigit then some (c.toNat + 4)
  else if c = '+' then some 62
  else if c = '/' then some 63
  else none

def char (n : Nat) : Char :=
  if n < 26 then Char.ofNat (n + 65)
  else if n < 52 then Char.ofNat (n + 71)
  else if n < 62 then Char.ofNat (n - 4)
  else if n = 62 then '+'
  else '/'

/-- Groups of three octets as four sixes, the last group padded. -/
def encode : List UInt8 → List Char
  | a :: b :: c :: rest =>
    let n := a.toNat * 65536 + b.toNat * 256 + c.toNat
    char (n / 262144) :: char (n / 4096 % 64) :: char (n / 64 % 64) :: char (n % 64) :: encode rest
  | [a, b] =>
    let n := a.toNat * 1024 + b.toNat * 4
    [char (n / 4096), char (n / 64 % 64), char (n % 64), '=']
  | [a] =>
    let n := a.toNat * 16
    [char (n / 64), char (n % 64), '=', '=']
  | [] => []

/-- The octets of a sequence of sixes. Bits that do not fill an octet are dropped. -/
def octets : List Nat → List UInt8
  | a :: b :: c :: d :: rest =>
    let n := a * 262144 + b * 4096 + c * 64 + d
    UInt8.ofNat (n / 65536) :: UInt8.ofNat (n / 256) :: UInt8.ofNat n :: octets rest
  | [a, b, c] =>
    let n := a * 4096 + b * 64 + c
    [UInt8.ofNat (n / 1024), UInt8.ofNat (n / 4)]
  | [a, b] => [UInt8.ofNat ((a * 64 + b) / 16)]
  | _ => []

/-- Whether padding of a length completes so many sixes. -/
def paddingFits (sixes padding : Nat) : Bool :=
  match sixes % 4 with
  | 0 => padding = 0
  | 2 => padding = 2
  | 3 => padding = 1
  | _ => false

/-- Strict decoding: the alphabet, then padding, then nothing. -/
def decode? (s : List Char) : Option (List UInt8) :=
  let body := s.takeWhile (· ≠ '=')
  let padding := s.drop body.length
  if padding.all (· = '=') && paddingFits body.length padding.length then
    (body.mapM value?).map octets
  else none

end TagAudit.Text.Base64

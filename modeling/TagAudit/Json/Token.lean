import TagAudit.Json
import TagAudit.Text.Blank

namespace TagAudit

/-- Why a text is no JSON document. -/
inductive ReadError where
  | malformed
  /-- An integer has more digits than are read. -/
  | numeralTooLong
  deriving DecidableEq

def ReadError.message : ReadError → String
  | malformed => "the text is no JSON document"
  | numeralTooLong => "a number has too many digits"

namespace Json

/-- The smallest parts of a JSON text. -/
inductive Token where
  | openArr
  | closeArr
  | openObj
  | closeObj
  | comma
  | colon
  /-- A number, or one of the constants. -/
  | value (v : Json)
  | text (s : String)
  | bad (e : ReadError)

/-- What the characters read last belong to, the latest first. -/
inductive Scan where
  | between
  /-- A number or a constant. -/
  | word (chars : List Char)
  | inText (chars : List Char)
  /-- After a backslash. -/
  | escaped (chars : List Char)
  /-- After `\u`: the digits still to come and the code unit so far. -/
  | unicode (chars : List Char) (missing : Nat) (unit : Nat)
  /-- The same after a high surrogate, of which a low one has not come yet. -/
  | lowUnicode (chars : List Char) (high missing unit : Nat)
  | afterHigh (chars : List Char) (high : Nat)
  | afterHighEscaped (chars : List Char) (high : Nat)
  /-- Nothing more is read after an error. -/
  | stopped

def isSpace (c : Char) : Bool := c = ' ' || c = '\t' || c = '\n' || c = '\r'

def isWordChar (c : Char) : Bool := c.isAlphanum || c = '+' || c = '-' || c = '.'

def punctuation? (c : Char) : Option Token :=
  if c = '[' then some .openArr
  else if c = ']' then some .closeArr
  else if c = '\x7b' then some .openObj
  else if c = '\x7d' then some .closeObj
  else if c = ',' then some .comma
  else if c = ':' then some .colon
  else none

def digitsValue (digits : List Char) : Nat :=
  digits.foldl (fun n c => 10 * n + (c.toNat - 48)) 0

/-- The most digits an integer may have. -/
def maxDigits : Nat := 4300

/-- The value of an exponent. Beyond six digits the number is zero or infinite anyway. -/
def exponentValue (digits : List Char) : Nat :=
  let significant := digits.dropWhile (· = '0')
  if significant.length ≤ 6 then digitsValue significant else 1000000

def decimalValue (negative : Bool) (whole fraction : List Char) (exponent : Int) : Float :=
  let mantissa := digitsValue (whole ++ fraction)
  let scale := exponent - fraction.length
  let x := if mantissa = 0 then 0.0 else Float.ofScientific mantissa (scale < 0) scale.natAbs
  if negative then -x else x

/-- The digits of an exponent after its mark. -/
def exponent? (chars : List Char) : Option Int :=
  let digits := match chars with
    | '+' :: rest => rest
    | '-' :: rest => rest
    | rest => rest
  if digits.isEmpty || !digits.all Char.isDigit then none
  else some (if chars.head? = some '-' then -exponentValue digits else exponentValue digits)

/-- A number whose sign has been read. Leading zeros and a point without digits are refused; a
number with neither point nor exponent is an integer. -/
def number? (negative : Bool) (chars : List Char) : Token :=
  let whole := chars.takeWhile Char.isDigit
  let rest := chars.dropWhile Char.isDigit
  if whole.isEmpty || (whole.head? = some '0' && 1 < whole.length) then .bad .malformed
  else
    match rest with
    | [] =>
      if maxDigits < whole.length then .bad .numeralTooLong
      else
        let n : Int := digitsValue whole
        .value (.int (if negative then -n else n))
    | '.' :: rest =>
      let fraction := rest.takeWhile Char.isDigit
      if fraction.isEmpty then .bad .malformed
      else
        match rest.dropWhile Char.isDigit with
        | [] => .value (.float (decimalValue negative whole fraction 0))
        | mark :: tail => scientific negative whole fraction mark tail
    | mark :: tail => scientific negative whole [] mark tail
where
  scientific (negative : Bool) (whole fraction : List Char) (mark : Char) (tail : List Char) :
      Token :=
    if mark = 'e' || mark = 'E' then
      match exponent? tail with
      | some e => .value (.float (decimalValue negative whole fraction e))
      | none => .bad .malformed
    else .bad .malformed

def constants : List (String × Json) :=
  [("null", .null), ("true", .bool true), ("false", .bool false), ("NaN", .float (0.0 / 0.0)),
   ("Infinity", .float (1.0 / 0.0)), ("-Infinity", .float (-1.0 / 0.0))]

def wordToken (chars : List Char) : Token :=
  match lookup constants (String.ofList chars), chars with
  | some v, _ => .value v
  | none, '-' :: rest => number? true rest
  | none, rest => number? false rest

def hexValue? (c : Char) : Option Nat :=
  if c.isDigit then some (c.toNat - 48)
  else if 'a' ≤ c ∧ c ≤ 'f' then some (c.toNat - 87)
  else if 'A' ≤ c ∧ c ≤ 'F' then some (c.toNat - 55)
  else none

def shortEscape? (c : Char) : Option Char :=
  [('"', '"'), ('\\', '\\'), ('/', '/'), ('b', '\x08'), ('f', '\x0c'), ('n', '\n'), ('r', '\r'),
   ('t', '\t')].lookup c

/-- A surrogate that stands alone is no character. -/
def loneSurrogate : Char := '\ufffd'

def isHigh (unit : Nat) : Bool := 0xD800 ≤ unit && unit < 0xDC00

def isLow (unit : Nat) : Bool := 0xDC00 ≤ unit && unit < 0xE000

/-- A character inside a text. -/
def scanText (chars : List Char) (c : Char) : List Token × Scan :=
  if c = '"' then ([.text (String.ofList chars.reverse)], .between)
  else if c = '\\' then ([], .escaped chars)
  else if c.toNat < 32 then ([.bad .malformed], .stopped)
  else ([], .inText (c :: chars))

def scanEscape (chars : List Char) (c : Char) : List Token × Scan :=
  match shortEscape? c with
  | some r => ([], .inText (r :: chars))
  | none => if c = 'u' then ([], .unicode chars 4 0) else ([.bad .malformed], .stopped)

/-- A code unit is complete. -/
def closeUnit (chars : List Char) (unit : Nat) : Scan :=
  if isHigh unit then .afterHigh chars unit
  else if isLow unit then .inText (loneSurrogate :: chars)
  else .inText (Char.ofNat unit :: chars)

def closeLowUnit (chars : List Char) (high unit : Nat) : Scan :=
  if isLow unit then
    .inText (Char.ofNat (0x10000 + (high - 0xD800) * 0x400 + (unit - 0xDC00)) :: chars)
  else closeUnit (loneSurrogate :: chars) unit

def scanBetween (c : Char) : List Token × Scan :=
  if isSpace c then ([], .between)
  else if c = '"' then ([], .inText [])
  else if isWordChar c then ([], .word [c])
  else
    match punctuation? c with
    | some t => ([t], .between)
    | none => ([.bad .malformed], .stopped)

/-- Reads one character. -/
def Scan.step (state : Scan) (c : Char) : List Token × Scan :=
  match state with
  | .between => scanBetween c
  | .word chars =>
    if isWordChar c then ([], .word (c :: chars))
    else
      let (tokens, next) := scanBetween c
      (wordToken chars.reverse :: tokens, next)
  | .inText chars => scanText chars c
  | .escaped chars => scanEscape chars c
  | .unicode chars missing unit =>
    match hexValue? c with
    | some d =>
      if missing ≤ 1 then ([], closeUnit chars (16 * unit + d))
      else ([], .unicode chars (missing - 1) (16 * unit + d))
    | none => ([.bad .malformed], .stopped)
  | .lowUnicode chars high missing unit =>
    match hexValue? c with
    | some d =>
      if missing ≤ 1 then ([], closeLowUnit chars high (16 * unit + d))
      else ([], .lowUnicode chars high (missing - 1) (16 * unit + d))
    | none => ([.bad .malformed], .stopped)
  | .afterHigh chars high =>
    if c = '\\' then ([], .afterHighEscaped chars high) else scanText (loneSurrogate :: chars) c
  | .afterHighEscaped chars high =>
    if c = 'u' then ([], .lowUnicode chars high 4 0) else scanEscape (loneSurrogate :: chars) c
  | .stopped => ([], .stopped)

/-- The end of the text. -/
def Scan.finish : Scan → List Token
  | .between => []
  | .word chars => [wordToken chars.reverse]
  | .stopped => []
  | _ => [.bad .malformed]

def scanFrom (state : Scan) : List Char → List Token
  | [] => state.finish
  | c :: rest =>
    let (tokens, next) := state.step c
    tokens ++ scanFrom next rest

/-- The tokens of a text. A part that is no token becomes `bad`. -/
def scan (chars : List Char) : List Token := scanFrom .between chars

end Json

end TagAudit

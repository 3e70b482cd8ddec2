import TagAudit.Json
import TagAudit.Number.Numeral
import TagAudit.Text.Quoted

namespace TagAudit.Json

/-- Characters that have to be escaped, and those that have a short escape. -/
def escapeBasic (c : Char) : Option (List Char) :=
  if c = '"' then some ['\\', '"']
  else if c = '\\' then some ['\\', '\\']
  else if c = '\n' then some ['\\', 'n']
  else if c = '\r' then some ['\\', 'r']
  else if c = '\t' then some ['\\', 't']
  else if c.toNat = 8 then some ['\\', 'b']
  else if c.toNat = 12 then some ['\\', 'f']
  else if c.toNat < 32 then some ('\\' :: 'u' :: Text.hex 4 c.toNat)
  else none

def escape (c : Char) : List Char := (escapeBasic c).getD [c]

/-- Escapes everything but printable ASCII, as UTF-16 units. -/
def escapeAscii (c : Char) : List Char :=
  match escapeBasic c with
  | some cs => cs
  | none =>
    if c.toNat < 127 then [c]
    else if c.toNat < 0x10000 then '\\' :: 'u' :: Text.hex 4 c.toNat
    else
      let n := c.toNat - 0x10000
      '\\' :: 'u' :: Text.hex 4 (0xD800 + n / 0x400) ++ '\\' :: 'u' :: Text.hex 4 (0xDC00 + n % 0x400)

/-- A text between double quotes. -/
def quote (escape : Char → List Char) (s : String) : String :=
  String.ofList ('"' :: s.toList.flatMap escape ++ ['"'])

mutual

/-- The text without blanks; characters outside ASCII stay as they are. -/
def compact : Json → String
  | null => "null"
  | bool b => if b then "true" else "false"
  | int n => Numeral.ofInt n
  | float x => Numeral.ofFloat Numeral.json x
  | str s => quote escape s
  | arr items => "[" ++ ",".intercalate (compactItems items) ++ "]"
  | obj fields => "\x7b" ++ ",".intercalate (compactFields fields) ++ "\x7d"

def compactItems : List Json → List String
  | [] => []
  | value :: rest => compact value :: compactItems rest

def compactFields : List (String × Json) → List String
  | [] => []
  | (key, value) :: rest => (quote escape key ++ ":" ++ compact value) :: compactFields rest

end

/-- The start of a line at a depth of nesting. -/
def newline (depth : Nat) : String := String.ofList ('\n' :: List.replicate (2 * depth) ' ')

mutual

/-- The text with an item or field a line, two blanks deeper than what it belongs to. -/
def indented (escape : Char → List Char) (depth : Nat) : Json → String
  | arr [] => "[]"
  | arr (value :: rest) =>
    "[" ++ newline (depth + 1) ++
      ("," ++ newline (depth + 1)).intercalate
        (indented escape (depth + 1) value :: indentedItems escape (depth + 1) rest) ++
      newline depth ++ "]"
  | obj [] => "\x7b\x7d"
  | obj ((key, value) :: rest) =>
    "\x7b" ++ newline (depth + 1) ++
      ("," ++ newline (depth + 1)).intercalate
        ((quote escape key ++ ": " ++ indented escape (depth + 1) value) ::
          indentedFields escape (depth + 1) rest) ++
      newline depth ++ "\x7d"
  | str s => quote escape s
  | null => "null"
  | bool b => if b then "true" else "false"
  | int n => Numeral.ofInt n
  | float x => Numeral.ofFloat Numeral.json x

def indentedItems (escape : Char → List Char) (depth : Nat) : List Json → List String
  | [] => []
  | value :: rest => indented escape depth value :: indentedItems escape depth rest

def indentedFields (escape : Char → List Char) (depth : Nat) : List (String × Json) → List String
  | [] => []
  | (key, value) :: rest =>
    (quote escape key ++ ": " ++ indented escape depth value) :: indentedFields escape depth rest

end

/-- The text of a document written to a file. -/
def pretty (value : Json) : String := indented escape 0 value

/-- The text of a document inside a page, in ASCII. -/
def prettyAscii (value : Json) : String := indented escapeAscii 0 value

end TagAudit.Json

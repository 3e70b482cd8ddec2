import TagAudit.Json
import TagAudit.Number.Numeral
import TagAudit.Text.Quoted

namespace TagAudit.Json

mutual

/-- A value as it shows inside a list or an object of a message. -/
def literal : Json → String
  | null => "None"
  | bool b => if b then "True" else "False"
  | int n => Numeral.ofInt n
  | float x => Numeral.ofFloat Numeral.plain x
  | str s => String.ofList (Text.quoted s.toList)
  | arr items => "[" ++ ", ".intercalate (literals items) ++ "]"
  | obj fields => "\x7b" ++ ", ".intercalate (literalFields fields) ++ "\x7d"

def literals : List Json → List String
  | [] => []
  | value :: rest => literal value :: literals rest

def literalFields : List (String × Json) → List String
  | [] => []
  | (key, value) :: rest =>
    (String.ofList (Text.quoted key.toList) ++ ": " ++ literal value) :: literalFields rest

end

/-- A value inside a message, and as an identifier: a text as it is, any other value as a literal. -/
def text : Json → String
  | str s => s
  | value => value.literal

end TagAudit.Json

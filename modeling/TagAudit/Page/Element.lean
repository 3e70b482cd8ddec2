import TagAudit.Number.Numeral

namespace TagAudit.Page

/-- A piece of a page: a line, an empty line, or a first and a last line around deeper ones. -/
inductive Element where
  | line (text : String)
  | blank
  | block (first : String) (inner : List Element) (last : String)

def indent (depth : Nat) (line : String) : String :=
  String.ofList (List.replicate (4 * depth) ' ') ++ line

namespace Element

mutual

/-- The lines of a piece, indented by its depth. -/
def lines (depth : Nat) : Element → List String
  | line text => [indent depth text]
  | blank => [""]
  | block first inner last =>
    indent depth first :: linesOf (depth + 1) inner ++ [indent depth last]

def linesOf (depth : Nat) : List Element → List String
  | [] => []
  | e :: rest => lines depth e ++ linesOf depth rest

end

end Element

/-- The attributes of a tag. -/
abbrev Attributes := List (String × String)

def Attributes.render (attributes : Attributes) : String :=
  String.join (attributes.map fun (name, value) => " " ++ name ++ "=\"" ++ value ++ "\"")

def startTag (name : String) (attributes : Attributes) : String :=
  "<" ++ name ++ attributes.render ++ ">"

def endTag (name : String) : String := "</" ++ name ++ ">"

/-- A tag around other pieces. -/
def wrap (name : String) (attributes : Attributes) (inner : List Element) : Element :=
  .block (startTag name attributes) inner (endTag name)

/-- A tag around a text. -/
def around (name : String) (attributes : Attributes) (text : String) : String :=
  startTag name attributes ++ text ++ endTag name

/-- A tag around a text, on one line. -/
def inline (name : String) (attributes : Attributes) (text : String) : Element :=
  .line (around name attributes text)

def classed (name : String) : Attributes := [("class", name)]

/-- Pieces that start on a new line inside another one, and the indentation of what is behind. -/
def inset (depth behind : Nat) (inner : List Element) : String :=
  "\n".intercalate ("" :: Element.linesOf depth inner ++ [indent behind ""])

/- Style sheets -/

def property (p : String × String) : String := p.1 ++ ": " ++ p.2 ++ ";"

/-- A rule of a style sheet: what it applies to, and the properties that it sets. -/
def rule (selector : String) (properties : List (String × String)) : Element :=
  .block (selector ++ " \x7b") (properties.map fun p => .line (property p)) "\x7d"

/-- A rule on one line. -/
def lineRule (selector : String) (properties : List (String × String)) : Element :=
  .line (selector ++ " \x7b " ++ " ".intercalate (properties.map property) ++ " \x7d")

/-- Rules for windows that are wide enough. -/
def whenWide (width : Nat) (rules : List Element) : Element :=
  .block ("@media (min-width: " ++ Numeral.ofInt width ++ "px) \x7b") rules "\x7d"

end TagAudit.Page

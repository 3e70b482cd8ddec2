import TagAudit.Path
import TagAudit.Text.Blank
import TagAudit.Text.Digit

namespace TagAudit.FileName

/-- The size of the copy indicator, a number in parentheses, that a text starts with. -/
def indicatorSize? : List Char → Option Nat
  | '(' :: rest =>
    let size := (rest.takeWhile Text.isDigit).length
    if 0 < size && (rest.drop size).head? == some ')' then some (size + 2) else none
  | _ => none

/-- The first copy indicator in a file name. -/
def indicator? : List Char → Option (List Char)
  | [] => none
  | c :: rest =>
    match indicatorSize? (c :: rest) with
    | some size => some ((c :: rest).take size)
    | none => indicator? rest

def dropIndicators (name : List Char) : List Char :=
  Text.rewrite (fun rest => (indicatorSize? rest).map (·, [])) name

/-- Leaves one of several blanks in a row. -/
def squeeze : List Char → List Char
  | [] => []
  | c :: rest => if c == ' ' && rest.head? == some ' ' then squeeze rest else c :: squeeze rest

/-- Drops the blanks that stand right before a dot. -/
def closeDots : List Char → List Char
  | [] => []
  | c :: rest => if c == ' ' && rest.head? == some '.' then closeDots rest else c :: closeDots rest

/-- The file name without copy indicators and the blanks around them. -/
def clean (name : String) : String :=
  String.ofList (closeDots (Text.trim (squeeze (dropIndicators name.toList))))

/-- The file name without its ending, if that is the one given. -/
def stem (ending name : String) : String :=
  if Text.endsWith name ending then
    String.ofList (name.toList.take (name.toList.length - ending.toList.length))
  else name

end TagAudit.FileName

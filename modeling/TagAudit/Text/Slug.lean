import TagAudit.Text.Blank
import TagAudit.Text.CaseMap
import TagAudit.Text.Search

namespace TagAudit.Text

/-- Lower-case ASCII letters and digits. -/
def isPlain (c : Char) : Bool := c.isLower || c.isDigit

/-- The plain parts of a text in lower case; every character that is neither plain nor a separator
is left out before. -/
def plainBlocks (isSeparator : Char → Bool) (text : String) : List String :=
  let kept := (lower text).toList.filter fun c => isPlain c || isSeparator c
  (blocks isSeparator kept).map String.ofList

/-- A name for events: the plain parts of the text, joined by single underscores. -/
def slug (default text : String) : String :=
  let joined := "_".intercalate (plainBlocks (fun c => isBlank c || c == '_') text)
  if joined.isEmpty then default else joined

end TagAudit.Text

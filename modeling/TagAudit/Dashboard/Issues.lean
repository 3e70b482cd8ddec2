import TagAudit.Grouping
import TagAudit.Json.Display
import TagAudit.Json.Scalar
import TagAudit.Page.Element
import TagAudit.Text.Markup

namespace TagAudit

/-- A column of the table of issues. -/
inductive IssueColumn where
  | severity
  | category
  | type
  | entity
  | title
  | message
  | action
  deriving DecidableEq

namespace IssueColumn

def all : List IssueColumn := [severity, category, type, entity, title, message, action]

def header : IssueColumn → String
  | severity => "Severity"
  | category => "Category"
  | type => "Type"
  | entity => "Entity"
  | title => "Title"
  | message => "Message"
  | action => "Action"

/-- The field of an issue that a column shows. -/
def field : IssueColumn → String
  | severity => "severity"
  | category => "category"
  | type => "type"
  | entity => "entityName"
  | title => "title"
  | message => "message"
  | action => "action"

/-- What a column shows for an issue without the field. -/
def default : IssueColumn → Json
  | severity => "low"
  | _ => ""

end IssueColumn

/-- A row of the table of issues. -/
structure IssueRow where
  cell : IssueColumn → Json

/-- What a data frame makes of a cell of a column. It stores the cells of a column in one type. -/
abbrev Conversion := List Json → Json → Json

namespace Column

def isNumber : Json → Bool
  | .int _ | .float _ => true
  | _ => false

/-- Numbers can be stored in a type for numbers, and gaps among them. -/
def isNumeric (v : Json) : Bool := isNumber v || v.isNull

def integer? : Json → Option Int
  | .int n => some n
  | _ => none

/-- Whether integers fit into 64 bits, all with a sign or all without one. -/
def fit (integers : List Int) : Bool :=
  (integers.all fun n => Int64.minValue.toInt ≤ n && n ≤ Int64.maxValue.toInt) ||
    integers.all fun n => 0 ≤ n && n < UInt64.size

/-- Whether a column is one of floating-point numbers: it holds nothing but numbers and gaps, and not
integers only. Integers that do not fit into one type are kept as they are. -/
def isFloating (column : List Json) : Bool :=
  column.all isNumeric && column.any isNumber && (column.any fun v => (integer? v).isNone) &&
    fit (column.filterMap integer?)

/-- A cell as a floating-point number. A gap becomes the value that is no number. -/
def toFloat : Json → Json
  | .int n => .float (Float.ofInt n)
  | .null => .float (0.0 / 0.0)
  | v => v

def convert : Conversion := fun column v => if isFloating column then toFloat v else v

/-- The cells of a column in one type. -/
def unify (column : List Json) : List Json := column.map (convert column)

end Column

namespace IssueRow

def ofIssue (issue : Json) : Except Fault IssueRow :=
  match issue with
  | .obj fields => .ok ⟨fun c => (Json.lookup fields c.field).getD c.default⟩
  | _ => .error .notObject

/-- The rows as a data frame stores them, column by column. -/
def stored (convert : Conversion) (rows : List IssueRow) : List IssueRow :=
  let columns := IssueColumn.all.map fun c => (c, rows.map (·.cell c))
  rows.map fun r => ⟨fun c => convert ((columns.lookup c).getD []) (r.cell c)⟩

def severities : List String := ["critical", "high", "medium", "low"]

/-- The position of a severity; unknown ones come last. -/
def rankOf (severity : Json) : Nat :=
  match severity with
  | .str s => severities.idxOf s
  | _ => severities.length

def rank (r : IssueRow) : Nat := rankOf (r.cell .severity)

/-- Numbers come before texts, and gaps last. -/
def classOf (value : Json) : Nat :=
  match value with
  | .str _ => 1
  | .null => 2
  | .float x => if x.isNaN then 2 else 0
  | _ => 0

def valueBefore (a b : Json) : Bool :=
  match a, b with
  | .str s, .str t => s ≤ t
  | _, _ =>
    match Number.ofJson? a, Number.ofJson? b with
    | some m, some n => m.le n
    | _, _ => true

def categoryBefore (a b : Json) : Bool :=
  classOf a < classOf b || (classOf a == classOf b && (classOf a == 2 || valueBefore a b))

/-- Severe issues come first, those of one severity by category. -/
def before (a b : IssueRow) : Bool :=
  a.rank < b.rank || (a.rank == b.rank && categoryBefore (a.cell .category) (b.cell .category))

/-- Severities and categories are looked up as keys. -/
def checkKeys (r : IssueRow) : Except Fault Unit := do
  let _ ← (r.cell .severity).scalar
  let _ ← (r.cell .category).scalar

/-- The rows for the issues of a report, in order, in a data frame that converts cells in some way. -/
def inFrame (convert : Conversion) (report : Json) : Except Fault (List IssueRow) := do
  let issues ← (← report.getFieldOr "issues" (.arr [])).elements
  let rows := stored convert (← issues.mapM ofIssue)
  let _ ← rows.mapM checkKeys
  return rows.mergeSort before

/-- The rows for the issues of a report, in order. -/
def ofReport (report : Json) : Except Fault (List IssueRow) := inFrame Column.convert report

open Page

def text (r : IssueRow) (c : IssueColumn) : String := Text.escapeMarkup (r.cell c).text

def styleClass (r : IssueRow) : String :=
  if (r.cell .severity).isStr "critical" then "table-danger"
  else if (r.cell .severity).isStr "high" then "table-warning"
  else ""

def render (r : IssueRow) : String :=
  inset 3 2 [wrap "tr" (classed r.styleClass) [
    inline "td" [] (around "strong" [] (r.cell .severity).text),
    inline "td" [] (r.text .category),
    inline "td" [] (r.text .entity),
    inline "td" [] (r.text .title ++ "<br>" ++ around "small" (classed "text-muted") (r.text .message)),
    inline "td" [] (r.text .action)]]

def tableHead : String :=
  let headers := ["Severity", "Category", "Entity", "Issue", "Action"].map (inline "th" [])
  "\n".intercalate ("" ::
    Element.linesOf 1 [.line (startTag "table" (classed "table table-striped table-hover"))] ++
    Element.linesOf 2 [wrap "thead" [] [wrap "tr" [] headers], .line "<tbody>"] ++ [indent 1 ""])

/-- The table of the first rows, and how many are left out. A negative limit leaves out so many of the
last rows. -/
def table (rows : List IssueRow) (limit : Int) : String :=
  tableHead ++ String.join ((upTo limit rows).map render) ++ "</tbody></table>" ++
    if limit < rows.length then
      around "p" (classed "text-muted")
        ("... and " ++ Numeral.ofInt (rows.length - limit) ++ " more issues in the JSON report")
    else ""

end IssueRow

end TagAudit

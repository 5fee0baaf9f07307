import Gazetteer.Report.Basic

/-! Reports as lines of columns.

Columns are separated by tabs and every record is one line, so tabs and line ends in a text
that was found are escaped. The column that names the input appears only when there are
several inputs. -/
namespace Gazetteer.Report.Text

def escapeChar (c : Char) : List Char :=
  match c with
  | '\\' => ['\\', '\\']
  | '\t' => ['\\', 't']
  | '\n' => ['\\', 'n']
  | '\r' => ['\\', 'r']
  | c => [c]

/-- Whether a character is escaped in a column. -/
def isEscaped (c : Char) : Bool := c == '\\' || c == '\t' || c == '\n' || c == '\r'

/-- A text with its characters escaped one by one. -/
def escapeEach (s : String) : String := .ofList (s.toList.flatMap escapeChar)

/-- A text as a column. A text in which nothing is escaped is taken as it is. -/
def escape (s : String) : String := if s.toList.any isEscaped then escapeEach s else s

/-- A record of the given columns. -/
def line (columns : List String) : String := "\t".intercalate columns ++ "\n"

def entityColumns (e : NamedEntity) : List String :=
  [e.entity, e.name, toString e.span.start, toString e.span.stop, escape e.string]

def extractions (reports : List Extraction) : String :=
  let severalInputs := reports.length > 1
  String.join <| reports.flatMap fun report => report.entities.map fun e =>
    line (if severalInputs then report.label :: entityColumns e else entityColumns e)

def termMatch (m : TermMatch) : String :=
  line [m.term, toString m.span.start, toString m.span.stop, escape m.string]

def isolated : Option Isolated → String
  | none => ""
  | some (.single m) => termMatch m
  | some (.many ms) => String.join (ms.map termMatch)
  | some (.rows rows) => String.join (rows.map fun row => line (row.map escape))

def groups (r : Recognizer) : String :=
  String.join <| r.groups.flatMap fun g =>
    g.names.map fun term => line [g.name, g.flags.display, term]

end Gazetteer.Report.Text

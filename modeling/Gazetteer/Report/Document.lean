import Gazetteer.Report.Text

/-! Reports as indented JSON documents. -/
namespace Gazetteer.Report

namespace Document

/-- A document with its final line end. -/
def text (v : Json) : String := v.renderIndented ++ "\n"

def extraction (e : Extraction) : Json :=
  .object [("source", .string e.label), ("entities", EntityList.toJson e.entities)]

def extractions (reports : List Extraction) : Json :=
  .object [("inputs", .array (reports.map extraction))]

def termMatch (m : TermMatch) : Json :=
  .object [("string", .string m.string), ("span", m.span.toJson)]

def isolated : Option Isolated → Json
  | none => .null
  | some (.single m) => termMatch m
  | some (.many ms) => .array (ms.map termMatch)
  | some (.rows rows) => .array (rows.map fun row => .array (row.map .string))

def isolation (i : Isolation) : Json :=
  .object [("group", .string i.group), ("term", .string i.term),
    ("method", .string i.method.name), ("result", isolated i.result)]

def group (g : CompiledGroup) : Json :=
  .object [("name", .string g.name), ("flags", .string g.flags.display),
    ("terms", .array (g.names.map .string))]

def groups (r : Recognizer) : Json := .array (r.groups.map group)

end Document

/-! ### Either form -/

def extractions (reports : List Extraction) : Format → String
  | .text => Text.extractions reports
  | .json => Document.text (Document.extractions reports)

def isolation (i : Isolation) : Format → String
  | .text => Text.isolated i.result
  | .json => Document.text (Document.isolation i)

def groups (r : Recognizer) : Format → String
  | .text => Text.groups r
  | .json => Document.text (Document.groups r)

end Gazetteer.Report

import Gazetteer.Files
import Gazetteer.Recognizer

/-! What is reported, and in which of two forms. -/
namespace Gazetteer.Report

inductive Format
  | text
  | json
  deriving Repr, DecidableEq

/-- The entities found in one input. -/
structure Extraction where
  /-- The path of the input; standard input has none. -/
  source : Option String
  entities : EntityList
  deriving Repr, DecidableEq

namespace Extraction

def label (e : Extraction) : String := Files.labelOf e.source

end Extraction

/-- The result of isolating a term, with what was asked for. -/
structure Isolation where
  group : String
  term : String
  method : Method
  result : Option Isolated
  deriving Repr, DecidableEq

end Gazetteer.Report

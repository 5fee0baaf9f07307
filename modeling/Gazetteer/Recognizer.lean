import Gazetteer.Isolation

/-! Recognizers: all groups of a vocabulary, compiled. -/
namespace Gazetteer

structure Recognizer where
  groups : List CompiledGroup
  wordBoundaries : Bool

namespace Recognizer

/-- Compiles groups in order; the first that does not compile is reported. -/
def compileAll (wordBoundaries : Bool) : List TermGroup → Except Error (List CompiledGroup)
  | [] => .ok []
  | g :: groups => do
    let compiled ← (CompiledGroup.ofGroup g wordBoundaries).mapError (.compilation g.name)
    let others ← compileAll wordBoundaries groups
    return compiled :: others

/-- Compiles a vocabulary, with or without word boundaries around every term. -/
def ofVocabulary (v : Vocabulary) (wordBoundaries : Bool) : Except Error Recognizer := do
  return { groups := ← compileAll wordBoundaries v.groups, wordBoundaries }

/-- The names of the groups in the order of declaration. -/
def entityNames (r : Recognizer) : List String := r.groups.map CompiledGroup.name

/-- The places of the groups by name. A name that is given twice stands for the later place, which
is found first. -/
def index (r : Recognizer) : List (String × Nat) := r.entityNames.zipIdx.reverse

/-- The group that a name stands for. -/
def group (r : Recognizer) (name : String) : Except Error CompiledGroup :=
  match (r.index.lookup name).bind (r.groups[·]?) with
  | some g => .ok g
  | none => .error (.unknownGroup name r.entityNames)

/-- The entities of one group in a text. -/
def extract (r : Recognizer) (group text : String) : Except Error EntityList := do
  return (← r.group group).extract text

/-- The entities of all groups in a text, by position. Entities that start at the same place
keep the order of their groups. -/
def extractAll (r : Recognizer) (text : String) : EntityList :=
  EntityList.sortBy (·.span.start) false (r.groups.flatMap (·.extract text))

def isolate (r : Recognizer) (group term text : String) (method : Method) :
    Except Error (Option Isolated) := do
  (← r.group group).isolate term text method

def display (r : Recognizer) : String :=
  "Nerb(entities: [" ++ ", ".intercalate (r.entityNames.map Text.quoted) ++ "])"

end Recognizer
end Gazetteer

import Gazetteer.Entity.List
import Gazetteer.Error

/-! Extraction of a group's entities, and isolation of one of its terms.

Every match of a group's regex was won by one term. Extraction reports all matches as
entities; isolation keeps those that a given term won. -/
namespace Gazetteer

/-- The ways to isolate a term. -/
inductive Method
  /-- The first match. -/
  | search
  /-- All matches. -/
  | finditer
  /-- For each match, what every term of the group captured. -/
  | findall
  deriving Repr, DecidableEq

namespace Method

def name : Method → String
  | .search => "search"
  | .finditer => "finditer"
  | .findall => "findall"

def default : Method := .search

def all : List Method := [.search, .finditer, .findall]

def ofName (name : String) : Except Error Method :=
  match all.find? (·.name == name) with
  | some m => .ok m
  | none => .error (.unknownMethod name)

end Method

/-- A match that a term won. -/
structure TermMatch where
  term : String
  found : Regex.Match
  string : String
  deriving Repr, DecidableEq

namespace TermMatch

def span (m : TermMatch) : Span := ⟨m.found.extent.start, m.found.extent.stop⟩

end TermMatch

inductive Isolated
  | single (m : TermMatch)
  | many (ms : List TermMatch)
  | rows (rows : List (List String))
  deriving Repr, DecidableEq

namespace CompiledGroup

/-- The text that a match covers. -/
def matchText (text : String) (m : Regex.Match) : String :=
  Text.slice text m.extent.start m.extent.stop

/-- The text that a capture holds; nothing if it took no part. -/
def captureText (text : String) (m : Regex.Match) (slot : Nat) : String :=
  match m.group? slot with
  | some e => Text.slice text e.start e.stop
  | none => ""

/-- The entity of a match. -/
def entityOf? (g : CompiledGroup) (text : String) (m : Regex.Match) : Option NamedEntity := do
  let index ← g.matchedTerm? m
  let name ← g.names[index]?
  return {
    name
    entity := g.name
    string := matchText text m
    span := ⟨m.extent.start, m.extent.stop⟩ }

/-- The entities in a text, in order. -/
def extract (g : CompiledGroup) (text : String) : EntityList :=
  (g.regex.matchesIn text).filterMap (g.entityOf? text)

/-- The place of a declared term. -/
def resolveTerm (g : CompiledGroup) (term : String) : Except Error Nat :=
  match g.termIndex? term with
  | some index => .ok index
  | none => .error (.unknownTerm g.name term g.names)

/-- The matches that a term won. -/
def termMatches (g : CompiledGroup) (index : Nat) (term text : String) : List TermMatch :=
  (g.regex.matchesIn text).filterMap fun m =>
    if g.matchedTerm? m == some index then some ⟨term, m, matchText text m⟩ else none

/-- The rows of the matches in which a term captured some text. -/
def rows (g : CompiledGroup) (index : Nat) (text : String) : List (List String) :=
  let slots := g.slots
  let slot := slots[index]?.getD 0
  ((g.regex.matchesIn text).filter fun m => captureText text m slot != "").map fun m =>
    slots.map (captureText text m)

def search (g : CompiledGroup) (term text : String) : Except Error (Option TermMatch) := do
  let index ← g.resolveTerm term
  return (g.termMatches index term text).head?

def findIter (g : CompiledGroup) (term text : String) : Except Error (Option (List TermMatch)) := do
  let index ← g.resolveTerm term
  match g.termMatches index term text with
  | [] => return none
  | ms => return some ms

def findAll (g : CompiledGroup) (term text : String) :
    Except Error (Option (List (List String))) := do
  let index ← g.resolveTerm term
  match g.rows index text with
  | [] => return none
  | rows => return some rows

/-- Isolates a term. -/
def isolate (g : CompiledGroup) (term text : String) : Method → Except Error (Option Isolated)
  | .search => do return (← g.search term text).map .single
  | .finditer => do return (← g.findIter term text).map .many
  | .findall => do return (← g.findAll term text).map .rows

end CompiledGroup
end Gazetteer

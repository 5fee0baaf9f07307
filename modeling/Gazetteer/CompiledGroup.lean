import Gazetteer.Pattern.WordBoundary
import Gazetteer.Regex.Search
import Gazetteer.Symbol
import Gazetteer.Wording

/-! Groups compiled to one regex each.

The terms of a group become the alternatives of one pattern, in the order of declaration and
each captured under its symbol. So at every place of a text the first declared term that
matches wins, and the capture that took part tells which it was. -/
namespace Gazetteer

/-- Why a group does not compile. -/
inductive CompileError
  | emptyGroup
  | symbolCollision (collision : SymbolCollision)
  | flags (cause : FlagError)
  /-- The pattern of the group is refused. -/
  | invalidRegex (options : Regex.Options) (pattern : String)
  deriving Repr, DecidableEq

namespace CompileError

def message (w : Wording) : CompileError → String
  | .emptyGroup => "group declares no terms"
  | .symbolCollision c =>
    "terms '" ++ c.first ++ "' and '" ++ c.second ++ "' both map to capture symbol '" ++
      c.symbol ++ "'"
  | .flags cause => cause.message
  | .invalidRegex options pattern => "invalid regex pattern: " ++ w.pattern options pattern

end CompileError

namespace Flags

/-- The part of the flags that the regex is compiled under; ASCII is a matter of the pattern's
text. -/
def options (f : Flags) : Regex.Options where
  caseInsensitive := f.ignoreCase
  multiLine := f.multiLine
  dotMatchesNewLine := f.dotAll
  verbose := f.verbose

end Flags

structure CompiledGroup where
  name : String
  /-- The pattern of the whole group. -/
  source : String
  regex : Regex
  /-- The names of the terms in the order of declaration. -/
  names : List String
  symbols : SymbolTable
  /-- The index of the capture of each term. -/
  slots : List Nat
  flags : Flags

namespace CompiledGroup

/-- A term's pattern as it stands in the pattern of its group. -/
def termBody (flags : Flags) (wordBoundaries : Bool) (pattern : String) : List Char :=
  let narrowed :=
    if flags.ascii then Pattern.asciiOnly flags.verbose pattern.toList else pattern.toList
  if wordBoundaries then
    Pattern.bounded (if flags.ascii then .ascii else .unicode) flags.verbose narrowed
  else narrowed

/-- A term's alternative. The closing parenthesis of a verbose pattern stands on a line of its
own, where no comment can swallow it. -/
def alternative (flags : Flags) (wordBoundaries : Bool) (symbol pattern : String) : List Char :=
  ['(', '?', 'P', '<'] ++ symbol.toList ++ ['>'] ++ termBody flags wordBoundaries pattern ++
    (if flags.verbose then ['\n', ')'] else [')'])

/-- The pattern of a group. -/
def sourceOf (flags : Flags) (wordBoundaries : Bool) (symbols : List String)
    (terms : List Term) : String :=
  .ofList (List.intercalate ['|'] (List.zipWith
    (fun symbol (term : Term) => alternative flags wordBoundaries symbol term.pattern)
    symbols terms))

/-- The place of the term that a capture is named for. -/
def place? (symbols : SymbolTable) (capture : Option String) : Option Nat := do
  let symbol ← capture
  let name ← symbols.name? symbol
  symbols.position? name

/-- Takes the index of a capture for the slot of the term that it is named for. -/
def setSlot (symbols : SymbolTable) (slots : List Nat) (capture : Option String × Nat) : List Nat :=
  match place? symbols capture.1 with
  | some place => slots.set place capture.2
  | none => slots

/-- The slots of the terms, given the names of all captures. A term for which none is named keeps
slot 0, which is the whole match. -/
def fillSlots (symbols : SymbolTable) (captures : List (Option String)) : List Nat :=
  captures.zipIdx.foldl (setSlot symbols) (List.replicate symbols.entries.length 0)

/-- Compiles a group. -/
def ofGroup (g : TermGroup) (wordBoundaries : Bool) : Except CompileError CompiledGroup := do
  let flags ← (Flags.resolve g.flags).mapError .flags
  if g.terms.isEmpty then throw .emptyGroup
  let symbols ← (SymbolTable.ofNames (g.terms.map Term.name)).mapError .symbolCollision
  let source := sourceOf flags wordBoundaries symbols.symbols g.terms
  match Regex.ofPattern? flags.options source with
  | none => throw (.invalidRegex flags.options source)
  | some regex => return {
      name := g.name, source, regex, names := g.terms.map Term.name, symbols
      slots := fillSlots symbols regex.groups, flags }

def termIndex? (g : CompiledGroup) (term : String) : Option Nat := g.symbols.position? term

/-- The term whose capture took part in a match. -/
def matchedTerm? (g : CompiledGroup) (m : Regex.Match) : Option Nat :=
  g.slots.findIdx? fun slot => (m.group? slot).isSome

end CompiledGroup
end Gazetteer

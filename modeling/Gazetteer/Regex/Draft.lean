import Gazetteer.Regex.Token

/-! Patterns under construction.

A draft holds the groups that are open around the place reached, and for the innermost one
the alternatives and items read so far. Each token changes the draft in one step, so a
pattern is read by adding its tokens in order; the pattern is refused as soon as a token has
no place. -/
namespace Gazetteer.Regex

/-- What has been read of a group or of the whole pattern. -/
structure Level where
  /-- The finished alternatives, last first. -/
  branches : List Ast
  /-- The items since the last bar, last first. -/
  items : List Ast
  deriving Repr

namespace Level

def empty : Level := ⟨[], []⟩

def push (l : Level) (a : Ast) : Level := { l with items := a :: l.items }

/-- The items since the last bar as one pattern. -/
def branch (l : Level) : Ast := .ofItems l.items.reverse

/-- Ends an alternative. -/
def bar (l : Level) : Level := ⟨l.branch :: l.branches, []⟩

/-- Everything read. -/
def content (l : Level) : Ast := .ofBranches (l.branch :: l.branches).reverse

/-- Repeats the last item. -/
def repeatLast (l : Level) (least : Nat) (most : Option Nat) (greedy : Bool) : Option Level :=
  match l.items with
  | [] => none
  | a :: items =>
    if a.isRepeatable then some { l with items := .repetition least most greedy a :: items }
    else none

end Level

/-- A group whose end has not been reached. -/
structure OpenGroup where
  kind : GroupKind
  /-- What was read around the group. -/
  outer : Level
  /-- Whether the pattern is verbose around the group. -/
  verbose : Bool
  deriving Repr

structure Draft where
  level : Level
  /-- The open groups, innermost first. -/
  opened : List OpenGroup
  verbose : Bool
  captures : Nat
  /-- The group names so far. -/
  names : List String
  deriving Repr

namespace Draft

def start (verbose : Bool) : Draft :=
  { level := .empty, opened := [], verbose, captures := 0, names := [] }

/-- Opens a group; a name is used once in a pattern. -/
def openGroup (d : Draft) : GroupStart → Option Draft
  | .capture none =>
    some { d with
      level := .empty
      opened := ⟨.capture (d.captures + 1) none, d.level, d.verbose⟩ :: d.opened
      captures := d.captures + 1 }
  | .capture (some name) =>
    if d.names.contains name then none
    else some { d with
      level := .empty
      opened := ⟨.capture (d.captures + 1) (some name), d.level, d.verbose⟩ :: d.opened
      captures := d.captures + 1
      names := name :: d.names }
  | .plain changes =>
    some { d with
      level := .empty
      opened := ⟨.plain changes, d.level, d.verbose⟩ :: d.opened
      verbose := (changes.value? .verbose).getD d.verbose }

/-- Adds a token. -/
def add (d : Draft) : Token → Option Draft
  | .openGroup start => d.openGroup start
  | .flags changes =>
    some { d with
      level := d.level.push (.flags changes)
      verbose := (changes.value? .verbose).getD d.verbose }
  | .closeGroup =>
    match d.opened with
    | [] => none
    | g :: opened =>
      some { d with
        level := g.outer.push (.group g.kind d.level.content)
        opened
        verbose := g.verbose }
  | .bar => some { d with level := d.level.bar }
  | .repetition least most greedy =>
    (d.level.repeatLast least most greedy).map fun level => { d with level }
  | .atom a => some { d with level := d.level.push a }

/-- Adds the tokens of a text. -/
def addText (d : Draft) (cs : List Char) : Option Draft :=
  match hs : skipBlanks d.verbose cs with
  | [] => some d
  | c :: cs' =>
    match h : Token.read d.verbose (c :: cs') with
    | none => none
    | some (token, rest) =>
      have : rest.length < cs.length := by
        have h₁ := Token.length_read_lt h
        have h₂ := length_skipBlanks_le d.verbose cs
        rw [hs] at h₂
        omega
      match d.add token with
      | none => none
      | some d => d.addText rest
termination_by cs.length

/-- The finished pattern, if no group is open. -/
def finish (d : Draft) : Option Ast :=
  if d.opened.isEmpty then some d.level.content else none

end Draft

namespace Ast

/-- The deepest nesting that a pattern may have. -/
def heightLimit : Nat := 250

/-- Reads a pattern. -/
def read (verbose : Bool) (pattern : String) : Option Ast := do
  let d ← (Draft.start verbose).addText pattern.toList
  let a ← d.finish
  if a.height ≤ heightLimit then some a else none

end Ast
end Gazetteer.Regex

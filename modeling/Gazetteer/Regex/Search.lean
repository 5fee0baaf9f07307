import Gazetteer.Regex.Thread

/-! Regexes and where they match.

A search looks for the least place at which the pattern matches and takes the preferred match
there. All matches of a text are found by searching again from the end of each match; a match
of the empty text right at the end of the match before it is passed over. -/
namespace Gazetteer

/-- A pattern ready to be searched for. -/
structure Regex where
  node : Regex.Node
  /-- The name of each group, the whole match being group zero. Groups that can never take part
  keep their index but not their name. -/
  groups : List (Option String)

namespace Regex

/-- The flags that a pattern is compiled under. -/
structure Options where
  caseInsensitive : Bool
  multiLine : Bool
  dotMatchesNewLine : Bool
  verbose : Bool
  deriving Repr, DecidableEq

namespace Options

def mode (o : Options) : Mode where
  caseInsensitive := o.caseInsensitive
  multiLine := o.multiLine
  dotMatchesNewLine := o.dotMatchesNewLine
  swapGreed := false
  unicode := true
  crlf := false

end Options

/-- The names of groups by index, up to the last group that takes part. -/
def groupList (n : Node) (names : List (Nat × String)) : List (Option String) :=
  let present := n.captures
  let last := present.foldl max 0
  (List.range (last + 1)).map fun i =>
    if present.contains i then (names.find? (·.1 == i)).map (·.2) else none

/-- Compiles a pattern; a pattern that is not well formed has no regex.

How large the compiled pattern grows is not measured. The engine bounds it at ten mebibytes by
default, so that it refuses some well-formed patterns that have a regex here, such as
`\w{1000}`: what is concluded about acceptance is about patterns below that bound. -/
def ofPattern? (o : Options) (pattern : String) : Option Regex := do
  let a ← Ast.read o.verbose pattern
  let (node, _) ← Node.ofAst o.mode a
  return { node, groups := groupList node a.groupNames }

/-! ### Matches -/

/-- A match: its extent in the text, and the extents of the groups that took part. -/
structure Match where
  extent : Extent
  groups : List (Option Extent)
  deriving Repr, DecidableEq

namespace Match

/-- The extent of a group, if it took part. -/
def group? (m : Match) (index : Nat) : Option Extent :=
  (m.groups[index]?).join

end Match

/-- The match that a thread stands for when it leaves the pattern. -/
def matchOf (r : Regex) (start : Nat) (t : Thread) : Match :=
  let whole : Extent := ⟨start, t.place.offset⟩
  { extent := whole
    groups := (List.range r.groups.length).map fun i =>
      if i == 0 then some whole else t.captured? i }

/-- The preferred match that starts at a place. -/
def matchAt (r : Regex) (p : Cursor) : Option Match :=
  (r.node.ends [] (Thread.start p)).head?.map (r.matchOf p.offset)

/-- The first match at or after a place. -/
def find (r : Regex) (p : Cursor) : Option Match :=
  match p with
  | ⟨offset, before, rest⟩ => go offset before rest
where
  go (offset : Nat) (before : Option Char) (rest : List Char) : Option Match :=
    match r.matchAt ⟨offset, before, rest⟩ with
    | some m => some m
    | none =>
      match rest with
      | [] => none
      | c :: rest => go (offset + c.utf8Size) (some c) rest

/-- The matches at or after a place, with `resume` the offset from which matches may start and
`last` the end of the match before. -/
def matchesFrom (r : Regex) (resume : Nat) (last : Option Nat) (offset : Nat)
    (before : Option Char) (rest : List Char) : List Match :=
  let found :=
    if offset < resume then none
    else match r.matchAt ⟨offset, before, rest⟩ with
      | none => none
      | some m => if m.extent.stop == offset && last == some offset then none else some m
  let (resume, last) := match found with
    | none => (resume, last)
    | some m => (m.extent.stop, some m.extent.stop)
  let later := match rest with
    | [] => []
    | c :: rest => matchesFrom r resume last (offset + c.utf8Size) (some c) rest
  match found with
  | none => later
  | some m => m :: later

/-- All matches in a text, from left to right. -/
def matchesIn (r : Regex) (text : String) : List Match :=
  r.matchesFrom 0 none 0 none text.toList

end Regex
end Gazetteer

import Gazetteer.Regex.Draft
import Gazetteer.Regex.Mode

/-! What a pattern matches.

A node is a pattern with its flags resolved: sets of characters, conditions on a position,
sequence, ordered choice and repetition. Counted repetitions are written out, so the only loops
are `star` and `plus`, and every other form of repetition is built from them and from choice. -/
namespace Gazetteer.Regex

/-- Conditions on a position, with line ends and word characters settled. -/
inductive Look
  | start
  | finish
  | lineStart (crlf : Bool)
  | lineEnd (crlf : Bool)
  | boundary (unicode : Bool)
  | notBoundary (unicode : Bool)
  | wordStart (unicode : Bool)
  | wordEnd (unicode : Bool)
  | wordStartHalf (unicode : Bool)
  | wordEndHalf (unicode : Bool)
  deriving Repr, DecidableEq

inductive Node
  | empty
  | set (s : CharSet)
  | look (l : Look)
  | capture (index : Nat) (inner : Node)
  | cat (first second : Node)
  /-- Prefers the first. -/
  | alt (first second : Node)
  /-- Any number of turns, each of which takes a character. -/
  | star (greedy : Bool) (inner : Node)
  /-- One turn or more. -/
  | plus (greedy : Bool) (inner : Node)

namespace Node

/-! ### Repetition -/

/-- At most one turn. -/
def optional (greedy : Bool) (n : Node) : Node :=
  if greedy then .alt n .empty else .alt .empty n

/-- Whether the empty text can match. -/
def isNullable : Node → Bool
  | .empty | .look _ => true
  | .set _ => false
  | .capture _ n => n.isNullable
  | .cat a b => a.isNullable && b.isNullable
  | .alt a b => a.isNullable || b.isNullable
  | .star _ _ => true
  | .plus _ n => n.isNullable

/-- Any number of turns. A loop whose turns can be empty is entered by a choice of its own. -/
def anyTurns (greedy : Bool) (n : Node) : Node :=
  if n.isNullable then optional greedy (.plus greedy n) else .star greedy n

/-- One turn, then the given number of turns more. -/
def turns (n : Node) : Nat → Node
  | 0 => n
  | k + 1 => .cat (turns n k) n

/-- At most the given number of turns, few of them preferred. -/
def fewUpTo (n : Node) : Nat → Node
  | 0 => .empty
  | k + 1 => optional false (.cat n (fewUpTo n k))

/-- One turn that may be left out, then the given number of turns more that may be. When many
turns are preferred, it does not matter which of them are left out. -/
def manyUpTo (n : Node) : Nat → Node
  | 0 => optional true n
  | k + 1 => .cat (manyUpTo n k) (optional true n)

/-- At most the given number of turns. -/
def upTo (greedy : Bool) (n : Node) : Nat → Node
  | 0 => .empty
  | k + 1 => if greedy then manyUpTo n k else fewUpTo n (k + 1)

/-- Whether only the empty text can match. -/
def isEmptyOnly : Node → Bool
  | .empty | .look _ => true
  | .set _ => false
  | .capture _ n => n.isEmptyOnly
  | .cat a b => a.isEmptyOnly && b.isEmptyOnly
  | .alt a b => a.isEmptyOnly && b.isEmptyOnly
  | .star _ n => n.isEmptyOnly
  | .plus _ n => n.isEmptyOnly

/-- Between `least` and `most` turns. What matches only the empty text does not gain by a
second turn, so it gets one at most. -/
def repetition (least : Nat) (most : Option Nat) (greedy : Bool) (n : Node) : Node :=
  if n.isEmptyOnly then
    if most == some 0 then .empty else if least == 0 then optional greedy n else n
  else match least, most with
    | 0, some most => upTo greedy n most
    | k + 1, some most =>
      if most ≤ k + 1 then turns n k else .cat (turns n k) (upTo greedy n (most - (k + 1)))
    | 0, none => anyTurns greedy n
    | 1, none => .plus greedy n
    | k + 2, none => .cat (turns n k) (.plus greedy n)

/-! ### From patterns -/

/-- Any character, but not the end of a line unless that is asked for. -/
def anyChar (m : Mode) : CharSet := fun c =>
  m.dotMatchesNewLine || (c != '\n' && !(m.crlf && c == '\r'))

def ofAssertion (m : Mode) : Assertion → Look
  | .startLine => if m.multiLine then .lineStart m.crlf else .start
  | .endLine => if m.multiLine then .lineEnd m.crlf else .finish
  | .startText => .start
  | .endText => .finish
  | .wordBoundary => .boundary m.unicode
  | .notWordBoundary => .notBoundary m.unicode
  | .wordStart => .wordStart m.unicode
  | .wordEnd => .wordEnd m.unicode
  | .wordStartHalf => .wordStartHalf m.unicode
  | .wordEndHalf => .wordEndHalf m.unicode

/-- A character and its variants. Without the Unicode flag a code above 127 stands for a byte
that is no character. -/
def ofLiteral (m : Mode) (c : Char) (byte : Bool) : Option Node :=
  if byte && !m.unicode && !Unicode.isAscii c then none
  else
    let variants := m.variants c
    some (.set fun d => variants.contains d)

mutual
/-- The node of a pattern under the flags in force, with the flags in force after it. Flags
set in a group last to its end, across its bars. -/
def ofAst (m : Mode) : Ast → Option (Node × Mode)
  | .empty => some (.empty, m)
  | .flags changes => some (.empty, m.switch changes)
  | .literal c byte => (ofLiteral m c byte).map fun n => (n, m)
  | .dot => if m.unicode then some (.set (anyChar m), m) else none
  | .assertion a => some (.look (ofAssertion m a), m)
  | .set s => (s.charSet? m).map fun s => (.set s, m)
  | .repetition least most greedy inner =>
    (ofAst m inner).map fun (n, m) => (repetition least most (greedy != m.swapGreed) n, m)
  | .group (.capture index _) inner => (ofAst m inner).map fun (n, _) => (.capture index n, m)
  | .group (.plain changes) inner =>
    (ofAst (m.switch changes) inner).map fun (n, _) => (n, m)
  | .alternation branches => ofBranches m branches
  | .concat items => ofItems m items

/-- The items in sequence. -/
def ofItems (m : Mode) : List Ast → Option (Node × Mode)
  | [] => some (.empty, m)
  | a :: items => do
    let (first, m) ← ofAst m a
    ofItemsAfter first m items

/-- The items in sequence after a node. -/
def ofItemsAfter (first : Node) (m : Mode) : List Ast → Option (Node × Mode)
  | [] => some (first, m)
  | a :: items => do
    let (second, m) ← ofAst m a
    ofItemsAfter (.cat first second) m items

/-- The branches as an ordered choice. -/
def ofBranches (m : Mode) : List Ast → Option (Node × Mode)
  | [] => some (.set fun _ => false, m)
  | [a] => ofAst m a
  | a :: branches => do
    let (first, m) ← ofAst m a
    let (second, m) ← ofBranches m branches
    return (.alt first second, m)
end

/-- The indices of the groups that take part, in the order in which they stand. -/
def captures : Node → List Nat
  | .empty | .set _ | .look _ => []
  | .capture index n => index :: n.captures
  | .cat a b => a.captures ++ b.captures
  | .alt a b => a.captures ++ b.captures
  | .star _ n => n.captures
  | .plus _ n => n.captures

end Node

namespace Ast

mutual
/-- The named groups of a pattern, by index. -/
def groupNames : Ast → List (Nat × String)
  | .repetition _ _ _ inner => inner.groupNames
  | .group (.capture index (some name)) inner => (index, name) :: inner.groupNames
  | .group _ inner => inner.groupNames
  | .alternation branches => groupNamesOf branches
  | .concat items => groupNamesOf items
  | _ => []

/-- The named groups of the parts. -/
def groupNamesOf : List Ast → List (Nat × String)
  | [] => []
  | part :: parts => part.groupNames ++ groupNamesOf parts
end

end Ast
end Gazetteer.Regex

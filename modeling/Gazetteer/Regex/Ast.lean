/-! Patterns as they are written.

An `Ast` keeps what the text of a pattern says and decides nothing: a flag is a flag
item, a class is the expression between its brackets. What a pattern means under the flags in
force is `Node`. -/
namespace Gazetteer.Regex

/-! ### Flags -/

/-- The flags a pattern can set for itself. -/
inductive Flag
  | caseInsensitive
  | multiLine
  | dotMatchesNewLine
  | swapGreed
  | unicode
  | crlf
  | verbose
  deriving Repr, DecidableEq

/-- Flags to switch, each with its new value. -/
abbrev FlagChanges := List (Flag × Bool)

namespace FlagChanges

/-- The value given to a flag, if it is switched. -/
def value? (changes : FlagChanges) (flag : Flag) : Option Bool :=
  (changes.find? (·.1 == flag)).map (·.2)

end FlagChanges

/-! ### Character classes -/

/-- Classes with a one-letter escape. -/
inductive EscapeClass
  | digit
  | space
  | word
  deriving Repr, DecidableEq

/-- Classes written as a name between colons. -/
inductive AsciiClass
  | alnum | alpha | ascii | blank | cntrl | digit | graph | lower | print | punct | space
  | upper | word | xdigit
  deriving Repr, DecidableEq

/-- A reference to a property of characters. -/
inductive PropertyQuery
  | named (name : String)
  | valued (property value : String)
  deriving Repr, DecidableEq

inductive ClassOp
  | intersection
  | difference
  | symmetricDifference
  deriving Repr, DecidableEq

/-- A class expression. -/
inductive ClassSet
  | empty
  | literal (c : Char)
  | range (first last : Char)
  | escape (k : EscapeClass) (negated : Bool)
  | ascii (k : AsciiClass) (negated : Bool)
  | property (q : PropertyQuery) (negated : Bool)
  | bracketed (negated : Bool) (inner : ClassSet)
  | union (items : List ClassSet)
  | binary (op : ClassOp) (left right : ClassSet)
  deriving Repr

namespace ClassSet

/-- Members side by side; one member stands for itself. -/
def ofItems : List ClassSet → ClassSet
  | [] => .empty
  | [item] => item
  | items => .union items

mutual
/-- The levels of nesting in a class expression. -/
def height : ClassSet → Nat
  | .bracketed _ inner => inner.height + 1
  | .union items => heights items + 1
  | .binary _ left right => max left.height right.height + 1
  | _ => 0

/-- The greatest height among members. -/
def heights : List ClassSet → Nat
  | [] => 0
  | item :: items => max item.height (heights items)
end

end ClassSet

/-! ### Patterns -/

/-- Conditions on a position. -/
inductive Assertion
  | startLine
  | endLine
  | startText
  | endText
  | wordBoundary
  | notWordBoundary
  | wordStart
  | wordEnd
  | wordStartHalf
  | wordEndHalf
  deriving Repr, DecidableEq

inductive GroupKind
  | capture (index : Nat) (name : Option String)
  | plain (changes : FlagChanges)
  deriving Repr, DecidableEq

inductive Ast
  | empty
  | flags (changes : FlagChanges)
  /-- A character; `byte` when it was written as a two-digit code. -/
  | literal (c : Char) (byte : Bool)
  | dot
  | assertion (a : Assertion)
  | set (s : ClassSet)
  | repetition (least : Nat) (most : Option Nat) (greedy : Bool) (inner : Ast)
  | group (kind : GroupKind) (inner : Ast)
  | alternation (branches : List Ast)
  | concat (items : List Ast)
  deriving Repr

namespace Ast

/-- Items in sequence; one item stands for itself. -/
def ofItems : List Ast → Ast
  | [] => .empty
  | [item] => item
  | items => .concat items

/-- Alternatives; one alternative stands for itself. -/
def ofBranches : List Ast → Ast
  | [branch] => branch
  | branches => .alternation branches

mutual
/-- The levels of nesting in a pattern. -/
def height : Ast → Nat
  | .set s => s.height
  | .repetition _ _ _ inner => inner.height + 1
  | .group _ inner => inner.height + 1
  | .alternation branches => heights branches + 1
  | .concat items => heights items + 1
  | _ => 0

/-- The greatest height among parts. -/
def heights : List Ast → Nat
  | [] => 0
  | part :: parts => max part.height (heights parts)
end

/-- Whether a repetition operator can follow: flags and nothing at all cannot be repeated. -/
def isRepeatable : Ast → Bool
  | .empty | .flags _ => false
  | _ => true

end Ast
end Gazetteer.Regex

import Gazetteer.Decimal.Shortest

/-! Configuration trees.

Whatever the format of a configuration, its text stands for a tree of mappings, lists and
scalars. Mappings keep the order of their entries, and no two keys of a mapping are the same. -/
namespace Gazetteer

inductive Tree
  | null
  | bool (b : Bool)
  | int (n : Int)
  | float (f : Float)
  | string (s : String)
  | list (items : List Tree)
  | mapping (entries : List (Tree × Tree))
  /-- A value that its text marks as being of a type of its own. -/
  | tagged (tag : String) (value : Tree)
  deriving Repr

namespace Tree

/-- What the value is called in messages. -/
def kind : Tree → String
  | .null => "null"
  | .bool _ => "boolean"
  | .int _ => "number"
  | .float _ => "number"
  | .string _ => "string"
  | .list _ => "list"
  | .mapping _ => "mapping"
  | .tagged _ _ => "tagged value"

/-- Whether an integer fits in 64 bits of which one is for the sign. -/
def isSigned64 (n : Int) : Bool :=
  if n < 0 then n.natAbs ≤ Nat.pow 2 63 else n.natAbs < Nat.pow 2 63

/-! ### Sameness -/

/-- Whether two numbers are the same; one that is not a number is the same as another. -/
def sameFloat (f g : Float) : Bool := f == g || (f.isNaN && g.isNaN)

/-- A tag without the exclamation mark in front of it, which does not tell tags apart. -/
def bareTag (tag : String) : String :=
  match tag.toList with
  | '!' :: c :: cs => .ofList (c :: cs)
  | _ => tag

mutual
/-- Whether two values are the same. The order of the entries of a mapping does not count, and
an integer is not the same as a float. -/
def same : Tree → Tree → Bool
  | .null, .null => true
  | .bool a, .bool b => a == b
  | .int m, .int n => m == n
  | .float f, .float g => sameFloat f g
  | .string s, .string t => s == t
  | .list a, .list b => sameItems a b
  | .mapping a, .mapping b => a.length == b.length && sameEntries a b
  | .tagged s a, .tagged t b => bareTag s == bareTag t && same a b
  | _, _ => false

def sameItems : List Tree → List Tree → Bool
  | [], [] => true
  | v :: a, w :: b => same v w && sameItems a b
  | _, _ => false

/-- Whether every entry of the first mapping is in the second. -/
def sameEntries : List (Tree × Tree) → List (Tree × Tree) → Bool
  | [], _ => true
  | (k, v) :: a, b => b.any (fun e => same k e.1 && same v e.2) && sameEntries a b
end

/-- Whether a mapping has a key. -/
def hasKey (key : Tree) (entries : List (Tree × Tree)) : Bool :=
  entries.any fun e => same e.1 key

/-- Adds an entry at the end of a mapping, unless its key is taken. -/
def addEntry (entries : List (Tree × Tree)) (key value : Tree) : Option (List (Tree × Tree)) :=
  if hasKey key entries then none else some (entries ++ [(key, value)])

/-! ### Names -/

/-- How exponents are written in names. -/
def nameStyle : Decimal.Style := ⟨"", 1⟩

def floatName (f : Float) : String :=
  if f.isNaN then ".nan"
  else if f.isInf then (if f < 0 then "-.inf" else ".inf")
  else Decimal.floatText nameStyle f

/-- The name that a key stands for. -/
def name? : Tree → Option String
  | .string s => some s
  | .int n => some (toString n)
  | .float f => some (floatName f)
  | .bool b => some (toString b)
  | _ => none

end Tree
end Gazetteer

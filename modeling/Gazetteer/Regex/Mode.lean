import Gazetteer.Regex.Ast
import Gazetteer.Unicode.CaseFold
import Gazetteer.Unicode.Named

/-! Character classes under the flags in force.

A class expression stands for a set of characters once the flags are known. Without the
Unicode flag a class is a set of ASCII characters: it may not name anything else, nor be a
complement, because that would hold bytes that are no characters. -/
namespace Gazetteer.Regex

/-- The flags in force that decide what a pattern matches. -/
structure Mode where
  caseInsensitive : Bool
  multiLine : Bool
  dotMatchesNewLine : Bool
  swapGreed : Bool
  unicode : Bool
  crlf : Bool
  deriving Repr, DecidableEq

namespace Mode

/-- The flags after some are switched. -/
def switch (m : Mode) (changes : FlagChanges) : Mode where
  caseInsensitive := (changes.value? .caseInsensitive).getD m.caseInsensitive
  multiLine := (changes.value? .multiLine).getD m.multiLine
  dotMatchesNewLine := (changes.value? .dotMatchesNewLine).getD m.dotMatchesNewLine
  swapGreed := (changes.value? .swapGreed).getD m.swapGreed
  unicode := (changes.value? .unicode).getD m.unicode
  crlf := (changes.value? .crlf).getD m.crlf

/-- The characters that count as equal to a character. -/
def variants (m : Mode) (c : Char) : List Char :=
  if !m.caseInsensitive then [c]
  else if m.unicode then Unicode.CaseFold.orbit c
  else Unicode.CaseFold.asciiOrbit c

end Mode

/-- A set of characters. -/
abbrev CharSet := Char → Bool

namespace CharSet

def singleton (c : Char) : CharSet := fun d => d == c
def range (first last : Char) : CharSet := fun c => first ≤ c && c ≤ last
def union (s t : CharSet) : CharSet := fun c => s c || t c
def complement (s : CharSet) : CharSet := fun c => !s c

/-- The characters that have a variant in the set. -/
def fold (m : Mode) (s : CharSet) : CharSet := fun c => (m.variants c).any s

/-- Two sets joined by an operator. -/
def join (op : ClassOp) (s t : CharSet) : CharSet := fun c =>
  match op with
  | .intersection => s c && t c
  | .difference => s c && !t c
  | .symmetricDifference => s c != t c

end CharSet

namespace EscapeClass

def charSet (k : EscapeClass) (unicode : Bool) : CharSet :=
  match k with
  | .digit => if unicode then Unicode.isDigit else Unicode.isAsciiDigit
  | .space => if unicode then Unicode.isSpace else Unicode.isAsciiSpace
  | .word => if unicode then Unicode.isWord else Unicode.isAsciiWord

end EscapeClass

namespace AsciiClass

def charSet (k : AsciiClass) : CharSet := fun c =>
  match k with
  | .alnum => c.isAlphanum
  | .alpha => c.isAlpha
  | .ascii => Unicode.isAscii c
  | .blank => c == '\t' || c == ' '
  | .cntrl => c.toNat < 32 || c.toNat == 127
  | .digit => c.isDigit
  | .graph => 33 ≤ c.toNat && c.toNat ≤ 126
  | .lower => c.isLower
  | .print => 32 ≤ c.toNat && c.toNat ≤ 126
  | .punct => 33 ≤ c.toNat && c.toNat ≤ 126 && !c.isAlphanum
  | .space => Unicode.isAsciiSpace c
  | .upper => c.isUpper
  | .word => Unicode.isAsciiWord c
  | .xdigit => c.isDigit || ('a' ≤ c && c ≤ 'f') || ('A' ≤ c && c ≤ 'F')

end AsciiClass

namespace PropertyQuery

def charSet? : PropertyQuery → Option CharSet
  | .named name => Unicode.Named.find? name
  | .valued property value => Unicode.Named.findValue? property value

end PropertyQuery

namespace ClassSet

/-- A set or its complement. A complement needs the Unicode flag. -/
def negateIf (m : Mode) (negated : Bool) (s : CharSet) : Option CharSet :=
  if !negated then some s
  else if m.unicode then some s.complement
  else none

mutual
/-- The set that a class expression stands for. Variants are added before a complement is
taken and before an operator is applied; the one-letter classes have none to add. -/
def charSet? (m : Mode) : ClassSet → Option CharSet
  | .empty => some fun _ => false
  | .literal c => if m.unicode || Unicode.isAscii c then some (.singleton c) else none
  | .range first last =>
    if m.unicode || Unicode.isAscii last then some (.range first last) else none
  | .escape k negated => negateIf m negated (k.charSet m.unicode)
  | .ascii k negated => negateIf m negated (CharSet.fold m k.charSet)
  | .property q negated =>
    if m.unicode then (q.charSet?).bind fun s => negateIf m negated (CharSet.fold m s) else none
  | .bracketed negated inner =>
    (charSet? m inner).bind fun s => negateIf m negated (CharSet.fold m s)
  | .union items => charSets? m items
  | .binary op left right => do
    let s ← charSet? m left
    let t ← charSet? m right
    return CharSet.join op (CharSet.fold m s) (CharSet.fold m t)

/-- The union of the sets of all members. -/
def charSets? (m : Mode) : List ClassSet → Option CharSet
  | [] => some fun _ => false
  | item :: items => do
    let s ← charSet? m item
    let t ← charSets? m items
    return s.union t
end

end ClassSet
end Gazetteer.Regex

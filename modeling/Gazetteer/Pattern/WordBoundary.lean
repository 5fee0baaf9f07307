import Gazetteer.Pattern.Outline

/-! Patterns narrowed to whole words and to ASCII.

Both changes are made in the text of a pattern, under the guidance of its outline. Whole words
are asked for by an anchor on both sides of every alternative of the whole pattern.
ASCII is asked for by spelling out the classes that would otherwise range over all scripts. -/
namespace Gazetteer.Pattern

/-! ### Whole words -/

/-- The condition that a word starts or ends. -/
inductive Anchor
  /-- Word characters of every script count. -/
  | unicode
  /-- Only ASCII word characters count. -/
  | ascii
  deriving Repr, DecidableEq

namespace Anchor

def text : Anchor → List Char
  | .unicode => ['\\', 'b']
  | .ascii => ['(', '?', '-', 'u', ':', '\\', 'b', ')']

end Anchor

/-- The text with the anchor on both sides of every separator. -/
def anchorSeparators (anchor : Anchor) (marks : List (Char × Option Nat)) : List Char :=
  marks.flatMap fun mark =>
    if Outline.isSeparator mark then anchor.text ++ '|' :: anchor.text else [mark.1]

/-- The pattern with the anchor on both sides of every alternative. The last anchor of a
verbose pattern stands on a line of its own, where no comment can swallow it. -/
def bounded (anchor : Anchor) (verbose : Bool) (pattern : List Char) : List Char :=
  anchor.text ++ anchorSeparators anchor (Outline.start.marks verbose pattern) ++
    (if verbose then ['\n'] else []) ++ anchor.text

/-! ### ASCII -/

/-- What an escape is spelled out as, outside brackets and as a member of a class. -/
def asciiSpelling : Char → Option (String × String)
  | 'w' => some ("[0-9A-Za-z_]", "0-9A-Za-z_")
  | 'W' => some ("[^0-9A-Za-z_]", "[^0-9A-Za-z_]")
  | 'd' => some ("[0-9]", "0-9")
  | 'D' => some ("[^0-9]", "[^0-9]")
  | 's' => some ("[\\t\\n\\x0B\\x0C\\r\\x20]", "\\t\\n\\x0B\\x0C\\r\\x20")
  | 'S' => some ("[^\\t\\n\\x0B\\x0C\\r\\x20]", "[^\\t\\n\\x0B\\x0C\\r\\x20]")
  | 'b' => some ("(?-u:\\b)", "\\b")
  | _ => none

/-- The text of an escape once it is narrowed. -/
def asciiEscape (inBrackets : Bool) (c : Char) : List Char :=
  match asciiSpelling c with
  | some (bare, member) => (if inBrackets then member else bare).toList
  | none => ['\\', c]

/-- The text from a place in a scan onwards with its escapes narrowed. -/
def asciiFrom (verbose : Bool) (s : Outline) : List Char → List Char
  | [] => []
  | [c] => [c]
  | c :: e :: cs =>
    if c == '\\' && !s.escaped && !s.inComment then
      let s' := (s.next verbose c).1
      asciiEscape (s.brackets > 0) e ++ asciiFrom verbose (s'.next verbose e).1 cs
    else c :: asciiFrom verbose (s.next verbose c).1 (e :: cs)

/-- The pattern with its word, digit and blank classes and its word boundaries narrowed to
ASCII. -/
def asciiOnly (verbose : Bool) (pattern : List Char) : List Char :=
  asciiFrom verbose .start pattern

end Gazetteer.Pattern

/-! Byte offsets in a text.

Offsets count UTF-8 bytes, and an offset inside a character is no place in the text. Texts
are taken as lists of characters, so that an offset is found by walking them. -/
namespace Gazetteer.Text

/-- The number of bytes of a text. -/
def byteLength (cs : List Char) : Nat :=
  cs.foldr (fun c n => c.utf8Size + n) 0

@[simp] theorem byteLength_nil : byteLength [] = 0 := rfl

@[simp] theorem byteLength_cons (c : Char) (cs : List Char) :
    byteLength (c :: cs) = c.utf8Size + byteLength cs := rfl

@[simp] theorem byteLength_append (a b : List Char) :
    byteLength (a ++ b) = byteLength a + byteLength b := by
  induction a with
  | nil => simp
  | cons c a ih => simp [ih, Nat.add_assoc]

/-- The number of characters before an offset, if the offset is a place in the text. -/
def charIndex? : List Char → Nat → Option Nat
  | _, 0 => some 0
  | [], _ + 1 => none
  | c :: cs, n + 1 =>
    if n + 1 < c.utf8Size then none else (charIndex? cs (n + 1 - c.utf8Size)).map (· + 1)

/-- The text between two offsets, if both are places and in order. -/
def slice? (cs : List Char) (start stop : Nat) : Option (List Char) := do
  let first ← charIndex? cs start
  let last ← charIndex? cs stop
  if start ≤ stop then some ((cs.drop first).take (last - first)) else none

/-- The text between two offsets; nothing if there is none. -/
def slice (text : String) (start stop : Nat) : String :=
  .ofList ((slice? text.toList start stop).getD [])

end Gazetteer.Text

import Gazetteer.Json.Token
import Gazetteer.Yaml.Cursor

/-! YAML tags and directives.

A tag is a handle with a suffix. Directives before a document say which version it is written
for and what handles stand for. -/
namespace Gazetteer.Yaml

/-- A tag as it is written. The handle is empty if the suffix is the whole tag. -/
structure Tag where
  handle : List Char
  suffix : List Char
  deriving Repr, DecidableEq

inductive Directive
  | version (major minor : Nat)
  /-- What a handle stands for. -/
  | handle (name target : List Char)
  deriving Repr, DecidableEq

/-! ### Escaped bytes -/

/-- The byte of an escape with two hexadecimal digits. -/
def escapedByte? : List Char → Option (Nat × List Char)
  | '%' :: a :: b :: cs => do
    return (16 * (← Json.Token.hexDigit? a) + (← Json.Token.hexDigit? b), cs)
  | _ => none

/-- The number of bytes of a character with the given first byte. -/
def widthOf? (byte : Nat) : Option Nat :=
  if byte < 0x80 then some 1
  else if byte / 32 == 6 then some 2
  else if byte / 16 == 14 then some 3
  else if byte / 8 == 30 then some 4
  else none

/-- Reads the given number of bytes that continue a character with the given bits. -/
def continuedChar? : Nat → Nat → List Char → Option (Nat × List Char)
  | 0, code, cs => some (code, cs)
  | n + 1, code, cs => do
    let (byte, cs) ← escapedByte? cs
    if byte / 64 == 2 then continuedChar? n (64 * code + byte % 64) cs else none

/-- Reads a character whose bytes are escaped. -/
def escapedChar? (cs : List Char) : Option (Char × List Char) := do
  let (byte, cs) ← escapedByte? cs
  let width ← widthOf? byte
  let bits := if width == 1 then byte else byte % Nat.pow 2 (7 - width)
  let (code, cs) ← continuedChar? (width - 1) bits cs
  return (.ofNat code, cs)

/-! ### Addresses -/

/-- The characters of suffixes and targets. -/
def isAddressChar (c : Char) : Bool :=
  isNameChar c || [';', '/', '?', ':', '@', '&', '=', '+', '$', '.', '%', '!', '~', '*', '\'', '(',
    ')'].contains c

/-- The characters that only unabridged tags and targets may have as well. -/
def isListChar (c : Char) : Bool := c == ',' || c == '[' || c == ']'

/-- Reads as much of an address as there is. -/
def readAddress (unabridged : Bool) : Nat → List Char → Option (List Char × List Char)
  | 0, _ => none
  | _ + 1, [] => some ([], [])
  | fuel + 1, c :: cs =>
    if c == '%' then do
      let (x, cs) ← escapedChar? (c :: cs)
      let (address, rest) ← readAddress unabridged fuel cs
      return (x :: address, rest)
    else if isAddressChar c || (unabridged && isListChar c) then do
      let (address, rest) ← readAddress unabridged fuel cs
      return (c :: address, rest)
    else some ([], c :: cs)

/-- Passes an address, which must not be empty. -/
def address (unabridged : Bool) (c : Cursor) : Option (List Char × Cursor) := do
  let (address, rest) ← readAddress unabridged (c.rest.length + 1) c.rest
  let length := c.rest.length - rest.length
  if length == 0 then none else some (address, c.advance length)

/-! ### Tags -/

/-- The handle that begins here: an exclamation mark, a name, and a second mark if there is
one. -/
def handleAt? (c : Cursor) : Option (List Char) :=
  match c.rest with
  | '!' :: cs =>
    let name := cs.takeWhile isNameChar
    some ('!' :: name ++ (if cs[name.length]? == some '!' then ['!'] else []))
  | _ => none

/-- Whether a handle has both its marks. -/
def isClosedHandle (handle : List Char) : Bool :=
  1 < handle.length && handle.getLast? == some '!'

/-- Reads a tag up to the character that ends it. -/
def readTagText (c : Cursor) : Option (Tag × Cursor) :=
  if c.ahead? 1 == some '<' then do
    let (suffix, c) ← address true (c.advance 2)
    if c.sees '>' then return (⟨[], suffix⟩, c.advance 1) else none
  else do
    let handle ← handleAt? c
    let c := c.advance handle.length
    if isClosedHandle handle then
      let (suffix, c) ← address false c
      return (⟨handle, suffix⟩, c)
    else
      let (more, rest) ← readAddress false (c.rest.length + 1) c.rest
      let c := c.advance (c.rest.length - rest.length)
      let suffix := handle.drop 1 ++ more
      return (if suffix.isEmpty then ⟨[], ['!']⟩ else ⟨['!'], suffix⟩, c)

/-- Reads a tag. White space ends it, and so does a comma in a flow collection. -/
def readTag (inFlow : Bool) (c : Cursor) : Option (Tag × Cursor) := do
  let (tag, c) ← readTagText c
  if endsWord c.head? || (inFlow && c.sees ',') then return (tag, c) else none

/-! ### Names -/

/-- The characters that may follow the name of a node. -/
def nameEnds : List Char := ['?', ':', ',', ']', '}', '%', '@', '\x60']

/-- Reads the name of a node after its indicator. -/
def readName (c : Cursor) : Option (String × Cursor) :=
  let name := c.rest.takeWhile isNameChar
  let c := c.advance name.length
  if name.isEmpty then none
  else if endsWord c.head? || c.head?.any nameEnds.contains then some (.ofList name, c)
  else none

/-! ### Directives -/

/-- Reads a number of at most nine digits. -/
def readVersionPart (c : Cursor) : Option (Nat × Cursor) :=
  let digits := c.rest.takeWhile Char.isDigit
  if digits.isEmpty || 9 < digits.length then none
  else some (Decimal.digitsValue digits, c.advance digits.length)

def readVersion (c : Cursor) : Option (Directive × Cursor) := do
  let (major, c) ← readVersionPart (c.skipWhile isBlank)
  if !c.sees '.' then none
  let (minor, c) ← readVersionPart (c.advance 1)
  return (.version major minor, c)

def readHandle (c : Cursor) : Option (Directive × Cursor) := do
  let c := c.skipWhile isBlank
  let name ← handleAt? c
  if !(isClosedHandle name || name == ['!']) then none
  let c := c.advance name.length
  if !c.head?.any isBlank then none
  let (target, c) ← address true (c.skipWhile isBlank)
  if !endsWord c.head? then none
  return (.handle name target, c)

/-- Reads a directive with the rest of its line. -/
def readDirective (c : Cursor) : Option (Directive × Cursor) := do
  let name := (c.advance 1).rest.takeWhile isNameChar
  let c := c.advance (1 + name.length)
  if !endsWord c.head? then none
  let (d, c) ← match String.ofList name with
    | "YAML" => readVersion c
    | "TAG" => readHandle c
    | _ => none
  let c := (c.skipWhile isBlank).skipComment
  if !endsLine c.head? then none
  return (d, if c.rest.isEmpty then c else c.nextLine)

end Gazetteer.Yaml

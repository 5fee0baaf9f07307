import Gazetteer.Yaml.Scalar
import Gazetteer.Yaml.Tag

/-! YAML tokens.

Indentation opens and closes block collections, so tokens are taken from the text together with
the layout around them. A colon may turn out to end a key that was read before; the token
of the key, and that of the mapping it begins, are then put in front of what was read. -/
namespace Gazetteer.Yaml

inductive Token
  | directive (d : Directive)
  | documentStart
  | documentEnd
  | blockSequenceStart
  | blockMappingStart
  | blockEnd
  | flowSequenceStart
  | flowSequenceEnd
  | flowMappingStart
  | flowMappingEnd
  | blockEntry
  | flowEntry
  | key
  | value
  /-- A node that was named before. -/
  | reference (name : String)
  | name (name : String)
  | tag (t : Tag)
  | scalar (isPlain : Bool) (text : String)
  deriving Repr, DecidableEq

/-- A place where the key of a mapping may have begun. -/
structure KeyPlace where
  /-- The number of tokens before it. -/
  position : Nat
  index : Nat
  line : Nat
  column : Nat
  /-- Whether nothing but a key can stand there. -/
  required : Bool
  deriving Repr, DecidableEq

/-- The tokens so far and the layout they left. -/
structure Layout where
  cursor : Cursor
  /-- The tokens, last first. -/
  tokens : List Token
  /-- The column of the innermost block collection, -1 outside all of them. -/
  indent : Int
  /-- The columns of the collections around it. -/
  indents : List Int
  /-- Whether a key may begin at the next token. -/
  keyAllowed : Bool
  /-- Where a key may have begun, at this level of flow collections. -/
  keyPlace : Option KeyPlace
  /-- The same for the levels around it. -/
  outerPlaces : List (Option KeyPlace)
  deriving Repr, DecidableEq

namespace Layout

def start (cs : List Char) : Layout where
  cursor := .start cs
  tokens := []
  indent := -1
  indents := []
  keyAllowed := true
  keyPlace := none
  outerPlaces := []

def inFlow (l : Layout) : Bool := !l.outerPlaces.isEmpty

def push (l : Layout) (t : Token) : Layout := { l with tokens := t :: l.tokens }

/-- Puts a token behind the given number of tokens. -/
def insertAt (l : Layout) (position : Nat) (t : Token) : Layout :=
  { l with tokens := l.tokens.insertIdx (l.tokens.length - position) t }

/-- Passes characters of a line and adds a token. -/
def take (l : Layout) (length : Nat) (t : Token) : Layout :=
  { l with cursor := l.cursor.advance length, tokens := t :: l.tokens }

/-! ### White space -/

/-- Passes white space and comments. Tabs do not count where a key may begin; a line break makes
room for a key outside flow collections. -/
def skipSpace : Nat → Layout → Layout
  | 0, l => l
  | fuel + 1, l =>
    let c := l.cursor
    let c := if c.column == 0 && c.sees byteOrderMark then c.advance 1 else c
    let tabs := l.inFlow || !l.keyAllowed
    let c := (c.skipWhile fun x => x == ' ' || (tabs && x == '\t')).skipComment
    if c.head?.any isBreak then
      skipSpace fuel { l with cursor := c.nextLine, keyAllowed := l.keyAllowed || !l.inFlow }
    else { l with cursor := c }

/-! ### Keys -/

/-- Whether a key can no longer end: keys stand on one line and have at most 1024 characters. -/
def isStale (c : Cursor) (k : KeyPlace) : Bool := k.line < c.line || k.index + 1024 < c.index

/-- Gives up a place, unless a key is required there. -/
def giveUp (place : Option KeyPlace) : Option (Option KeyPlace) :=
  if place.any KeyPlace.required then none else some none

def refresh (c : Cursor) (place : Option KeyPlace) : Option (Option KeyPlace) :=
  if place.any (isStale c) then giveUp place else some place

/-- Gives up all places where a key can no longer end. -/
def dropStale (l : Layout) : Option Layout := do
  let place ← refresh l.cursor l.keyPlace
  let outer ← l.outerPlaces.mapM (refresh l.cursor)
  return { l with keyPlace := place, outerPlaces := outer }

/-- Gives up the place at this level. -/
def dropKey (l : Layout) : Option Layout := do
  return { l with keyPlace := ← giveUp l.keyPlace }

/-- Notes that a key may begin here, if it is allowed. -/
def noteKey (l : Layout) : Option Layout :=
  if !l.keyAllowed then some l
  else do
    let l ← l.dropKey
    let c := l.cursor
    return { l with keyPlace := some {
      position := l.tokens.length, index := c.index, line := c.line, column := c.column
      required := !l.inFlow && l.indent == c.column } }

/-! ### Indentation -/

/-- Closes the block collections that are indented more than the given column. -/
def closeTo (column : Int) : List Int → Layout → Layout
  | [], l => l
  | outer :: indents, l =>
    if column < l.indent then
      closeTo column indents { l.push .blockEnd with indent := outer, indents := indents }
    else l

/-- Closes block collections; flow collections do not mind indentation. -/
def unroll (l : Layout) (column : Int) : Layout :=
  if l.inFlow then l else closeTo column l.indents l

/-- Opens a block collection at a column, unless one is open there. Its token goes behind the given
number of tokens. -/
def roll (l : Layout) (column position : Nat) (t : Token) : Layout :=
  if !l.inFlow && l.indent < column then
    { l.insertAt position t with indent := column, indents := l.indent :: l.indents }
  else l

/-- Opens a block collection here. -/
def rollHere (l : Layout) (t : Token) : Layout := l.roll l.cursor.column l.tokens.length t

/-! ### Tokens -/

/-- Adds a directive or a mark of a document, which closes everything. -/
def betweenDocuments (l : Layout) (read : Cursor → Option (Token × Cursor)) : Option Layout := do
  let l ← (l.unroll (-1)).dropKey
  let (t, c) ← read l.cursor
  return { l.push t with cursor := c, keyAllowed := false }

def openFlow (l : Layout) (t : Token) : Option Layout := do
  let l ← l.noteKey
  return { l.take 1 t with
    keyAllowed := true, keyPlace := none, outerPlaces := l.keyPlace :: l.outerPlaces }

def closeFlow (l : Layout) (t : Token) : Option Layout := do
  let l ← l.dropKey
  let (place, outer) := match l.outerPlaces with
    | [] => (l.keyPlace, [])
    | place :: outer => (place, outer)
  return { l.take 1 t with keyAllowed := false, keyPlace := place, outerPlaces := outer }

def flowEntry (l : Layout) : Option Layout := do
  let l ← l.dropKey
  return { l.take 1 .flowEntry with keyAllowed := true }

def blockEntry (l : Layout) : Option Layout := do
  if !l.inFlow && !l.keyAllowed then none
  let l ← (l.rollHere .blockSequenceStart).dropKey
  return { l.take 1 .blockEntry with keyAllowed := true }

/-- Adds the indicator of a key. -/
def keyIndicator (l : Layout) : Option Layout := do
  if !l.inFlow && !l.keyAllowed then none
  let l ← (l.rollHere .blockMappingStart).dropKey
  return { l.take 1 .key with keyAllowed := !l.inFlow }

/-- Adds the indicator of a value. If a key can have begun before, it did. -/
def valueIndicator (l : Layout) : Option Layout :=
  match l.keyPlace with
  | some k =>
    let l := (l.insertAt k.position .key).roll k.column k.position .blockMappingStart
    some { l.take 1 .value with keyAllowed := false, keyPlace := none }
  | none =>
    if !l.inFlow && !l.keyAllowed then none
    else
      let l := l.rollHere .blockMappingStart
      some { l.take 1 .value with keyAllowed := !l.inFlow }

/-- Adds a token that may begin a key. -/
def node (l : Layout) (read : Cursor → Option (Token × Cursor)) : Option Layout := do
  let l ← l.noteKey
  let (t, c) ← read l.cursor
  return { l.push t with cursor := c, keyAllowed := false }

def blockScalar (l : Layout) (isLiteral : Bool) : Option Layout := do
  let l ← l.dropKey
  let (text, c) ← readBlock isLiteral l.indent (l.cursor.advance 1)
  return { l.push (.scalar false (.ofList text)) with cursor := c, keyAllowed := true }

def quotedScalar (l : Layout) (quote : Char) : Option Layout :=
  l.node fun c => do
    let (text, c) ← readQuoted quote (c.rest.length + 1) [] (c.advance 1)
    return (.scalar false (.ofList text), c)

def plainScalar (l : Layout) : Option Layout := do
  let l ← l.noteKey
  let plain ← readPlain l.inFlow (l.indent + 1).toNat (l.cursor.rest.length + 1) [] .empty l.cursor
  return { l.push (.scalar true (.ofList plain.text)) with
    cursor := plain.rest, keyAllowed := plain.startsLine }

/-- The characters that cannot begin a plain scalar, white space apart. -/
def indicators : List Char :=
  ['-', '?', ':', ',', '[', ']', '{', '}', '#', '&', '*', '!', '|', '>', '\'', '"', '%', '@',
    '\x60']

/-- Whether a plain scalar begins with a character, followed by another. A dash, and outside flow
collections a question mark or colon, do if no white space follows. -/
def beginsPlain (inFlow : Bool) (x : Char) (following : Option Char) : Bool :=
  !(isSpace x || indicators.contains x) || (x == '-' && !following.any isBlank) ||
    (!inFlow && (x == '?' || x == ':') && !endsWord following)

/-- Adds the tokens that begin with the given character at the cursor. -/
def takeToken (l : Layout) (x : Char) : Option Layout :=
  let c := l.cursor
  let loose := l.inFlow || endsWord (c.ahead? 1)
  if c.column == 0 && x == '%' then
    l.betweenDocuments fun c => (readDirective c).map fun (d, c) => (.directive d, c)
  else if c.atMark '-' then l.betweenDocuments fun c => some (.documentStart, c.advance 3)
  else if c.atMark '.' then l.betweenDocuments fun c => some (.documentEnd, c.advance 3)
  else if x == '[' then l.openFlow .flowSequenceStart
  else if x == '{' then l.openFlow .flowMappingStart
  else if x == ']' then l.closeFlow .flowSequenceEnd
  else if x == '}' then l.closeFlow .flowMappingEnd
  else if x == ',' then l.flowEntry
  else if x == '-' && endsWord (c.ahead? 1) then l.blockEntry
  else if x == '?' && loose then l.keyIndicator
  else if x == ':' && loose then l.valueIndicator
  else if x == '*' then
    l.node fun c => (readName (c.advance 1)).map fun (name, c) => (.reference name, c)
  else if x == '&' then
    l.node fun c => (readName (c.advance 1)).map fun (name, c) => (.name name, c)
  else if x == '!' then
    let inFlow := l.inFlow
    l.node fun c => (readTag inFlow c).map fun (t, c) => (.tag t, c)
  else if x == '|' && !l.inFlow then l.blockScalar true
  else if x == '>' && !l.inFlow then l.blockScalar false
  else if x == '\'' || x == '"' then l.quotedScalar x
  else if beginsPlain l.inFlow x (c.ahead? 1) then l.plainScalar
  else none

/-- Closes everything at the end of the text. -/
def finish (l : Layout) : Option (List Token) := do
  let l ← (l.unroll (-1)).dropKey
  return l.tokens.reverse

/-- Takes tokens up to the end of the text. -/
def takeTokens : Nat → Layout → Option (List Token)
  | 0, _ => none
  | fuel + 1, l => do
    let l ← (l.skipSpace (l.cursor.rest.length + 1)).dropStale
    let l := l.unroll l.cursor.column
    match l.cursor.head? with
    | none => l.finish
    | some x => takeTokens fuel (← l.takeToken x)

end Layout

namespace Token

/-- The tokens of a text. -/
def ofText (text : String) : Option (List Token) :=
  let cs := text.toList
  if cs.all isAllowed then (Layout.start cs).takeTokens (cs.length + 2) else none

end Token
end Gazetteer.Yaml

import Gazetteer.Json.Token
import Gazetteer.Yaml.Cursor

/-! The text of YAML scalars.

A scalar that is plain or in quotes may run over several lines; the white space between its parts
is then folded. A block scalar keeps its lines or folds them, as its header asks. -/
namespace Gazetteer.Yaml

/-! ### White space inside a scalar -/

/-- White space between two parts of a scalar. -/
structure Gap where
  /-- The blanks before the first line break. -/
  blanks : List Char
  /-- The line breaks. -/
  breaks : List Char
  /-- Whether a line break before these was escaped. -/
  escaped : Bool
  deriving Repr, DecidableEq

namespace Gap

def empty : Gap := ⟨[], [], false⟩

def afterEscape : Gap := ⟨[], [], true⟩

/-- Whether the text that follows stands on a line of its own. -/
def startsLine (g : Gap) : Bool := g.escaped || !g.breaks.isEmpty

/-- What the gap leaves in the scalar. One line break becomes a space; of several the first is
dropped. -/
def folded (g : Gap) : List Char :=
  if g.escaped then g.breaks
  else match g.breaks with
    | [] => g.blanks
    | ['\n'] => [' ']
    | '\n' :: more => more
    | breaks => breaks

/-- Reads a gap. No tab may stand before the given column. -/
def read (indent : Nat) : Nat → Gap → Cursor → Option (Gap × Cursor)
  | 0, _, _ => none
  | fuel + 1, g, c =>
    match c.head? with
    | none => some (g, c)
    | some x =>
      if isBreak x then read indent fuel { g with breaks := g.breaks ++ [breakText x] } c.nextLine
      else if !isBlank x then some (g, c)
      else if !g.startsLine then
        read indent fuel { g with blanks := g.blanks ++ [x] } (c.advance 1)
      else if x == '\t' && c.column < indent then none
      else read indent fuel g (c.advance 1)

end Gap

/-! ### Plain scalars -/

/-- The characters that end a plain scalar in a flow collection. -/
def flowIndicators : List Char := [',', '[', ']', '{', '}']

/-- Reads a part of a plain scalar, up to white space or an indicator. -/
def plainPart (inFlow : Bool) : List Char → Option (List Char)
  | [] => some []
  | x :: cs =>
    if isSpace x then some []
    else if x == ':' && inFlow && cs.head?.any (fun y => y == '?' || flowIndicators.contains y) then
      none
    else if x == ':' && endsWord cs.head? then some []
    else if inFlow && flowIndicators.contains x then some []
    else (plainPart inFlow cs).map (x :: ·)

/-- A plain scalar that was read. -/
structure Plain where
  text : List Char
  /-- Whether what follows stands on a line of its own. -/
  startsLine : Bool
  rest : Cursor
  deriving Repr, DecidableEq

/-- Reads on after the given text and gap. Outside flow collections a line that is indented less
than given is no part of the scalar. -/
def readPlain (inFlow : Bool) (indent : Nat) : Nat → List Char → Gap → Cursor → Option Plain
  | 0, _, _, _ => none
  | fuel + 1, text, gap, c =>
    if c.atDocumentMark || c.sees '#' then some ⟨text, gap.startsLine, c⟩
    else do
      let part ← plainPart inFlow c.rest
      if part.isEmpty then return ⟨text, gap.startsLine, c⟩
      let text := text ++ gap.folded ++ part
      let c := c.advance part.length
      if !c.head?.any isSpace then return ⟨text, false, c⟩
      let (gap, c) ← Gap.read indent (c.rest.length + 1) .empty c
      if !inFlow && c.column < indent then return ⟨text, gap.startsLine, c⟩
      readPlain inFlow indent fuel text gap c

/-! ### Quoted scalars -/

/-- A part of a quoted scalar: its text, the length of what was read, and whether a line break was
escaped at its end. -/
structure QuotedPart where
  text : List Char
  length : Nat
  escapedBreak : Bool
  deriving Repr, DecidableEq

namespace QuotedPart

def ending : QuotedPart := ⟨[], 0, false⟩

/-- Puts a character in front that was read from the given number of characters. -/
def cons (x : Char) (length : Nat) (p : QuotedPart) : QuotedPart :=
  ⟨x :: p.text, length + p.length, p.escapedBreak⟩

end QuotedPart

/-- Reads a part of a scalar in single quotes, up to white space or the closing quote. -/
def singlePart : List Char → QuotedPart
  | [] => .ending
  | ['\''] => .ending
  | '\'' :: x :: cs => if x == '\'' then (singlePart cs).cons '\'' 2 else .ending
  | x :: cs => if isSpace x then .ending else (singlePart cs).cons x 1

/-- The character of an escape with one letter. -/
def escaped? : Char → Option Char
  | '0' => some '\x00'
  | 'a' => some '\x07'
  | 'b' => some '\x08'
  | 't' => some '\t'
  | '\t' => some '\t'
  | 'n' => some '\n'
  | 'v' => some '\x0b'
  | 'f' => some '\x0c'
  | 'r' => some '\r'
  | 'e' => some '\x1b'
  | ' ' => some ' '
  | '"' => some '"'
  | '/' => some '/'
  | '\\' => some '\\'
  | 'N' => some '\x85'
  | '_' => some '\xa0'
  | 'L' => some '\u2028'
  | 'P' => some '\u2029'
  | _ => none

/-- The number of digits of an escape that gives the code of a character. -/
def codeLength? : Char → Option Nat
  | 'x' => some 2
  | 'u' => some 4
  | 'U' => some 8
  | _ => none

/-- The character with the code that hexadecimal digits give. -/
def charOfDigits? (digits : List Char) : Option Char := do
  let code ← digits.foldlM (fun n d => (Json.Token.hexDigit? d).map (16 * n + ·)) 0
  if h : code.isValidChar then some (.ofNatAux code h) else none

/-- Reads the given number of characters of a part of a scalar in double quotes, up to white
space or the closing quote. -/
def doublePart : Nat → List Char → Option QuotedPart
  | 0, _ => none
  | _ + 1, [] => some .ending
  | fuel + 1, x :: cs =>
    if isSpace x || x == '"' then some .ending
    else if x != '\\' then (doublePart fuel cs).map (·.cons x 1)
    else match cs with
      | [] => none
      | e :: cs =>
        if isBreak e then some ⟨[], 1, true⟩
        else match codeLength? e with
          | some n => do
            let digits := cs.take n
            if digits.length < n then none
            else
              let c ← charOfDigits? digits
              return (← doublePart fuel (cs.drop n)).cons c (2 + n)
          | none => do
            let c ← escaped? e
            return (← doublePart fuel cs).cons c 2

/-- Reads on in a quoted scalar after the given text. -/
def readQuoted (quote : Char) : Nat → List Char → Cursor → Option (List Char × Cursor)
  | 0, _, _ => none
  | fuel + 1, text, c =>
    if c.atDocumentMark || c.rest.isEmpty then none
    else do
      let part ← if quote == '"' then doublePart (c.rest.length + 1) c.rest
        else some (singlePart c.rest)
      let text := text ++ part.text
      let c := c.advance part.length
      let (gap, c) := if part.escapedBreak then (Gap.afterEscape, c.nextLine) else (.empty, c)
      if c.sees quote then return (text, c.advance 1)
      let (gap, c) ← Gap.read 0 (c.rest.length + 1) gap c
      readQuoted quote fuel (text ++ gap.folded) c

/-! ### Block scalars -/

/-- What becomes of the line breaks at the end of a block scalar. -/
inductive Chomping
  /-- All are dropped. -/
  | strip
  /-- The first is kept. -/
  | clip
  /-- All are kept. -/
  | keep
  deriving Repr, DecidableEq

def chompingOf? : Option Char → Option Chomping
  | some '-' => some .strip
  | some '+' => some .keep
  | _ => none

/-- The indentation that a digit asks for; zero is none. -/
def incrementOf? : Option Char → Option Nat
  | some d => if d.isDigit then some (d.toNat - '0'.toNat) else none
  | none => none

/-- The header of a block scalar. -/
structure BlockHeader where
  chomping : Chomping
  /-- The indentation of the content, if it is given. -/
  increment : Option Nat
  deriving Repr, DecidableEq

namespace BlockHeader

/-- Reads the indicators of a header, in either order. -/
def read (c : Cursor) : BlockHeader × Cursor :=
  match chompingOf? c.head? with
  | some chomping =>
    let c := c.advance 1
    match incrementOf? c.head? with
    | some n => (⟨chomping, some n⟩, c.advance 1)
    | none => (⟨chomping, none⟩, c)
  | none =>
    match incrementOf? c.head? with
    | some n =>
      let c := c.advance 1
      match chompingOf? c.head? with
      | some chomping => (⟨chomping, some n⟩, c.advance 1)
      | none => (⟨.clip, some n⟩, c)
    | none => (⟨.clip, none⟩, c)

end BlockHeader

/-- The lines without content before a line of a block scalar. -/
structure BlockBreaks where
  breaks : List Char
  /-- The greatest column reached. -/
  widest : Nat
  rest : Cursor
  deriving Repr, DecidableEq

/-- Reads lines without content and the indentation of the line after them. An indentation of
zero is not known yet. -/
def readBlockBreaks (indent : Nat) : Nat → BlockBreaks → Option BlockBreaks
  | 0, _ => none
  | fuel + 1, b =>
    let spaces := (b.rest.rest.takeWhile (· == ' ')).length
    let c := b.rest.advance (if indent == 0 then spaces else min spaces (indent - b.rest.column))
    let widest := max b.widest c.column
    if (indent == 0 || c.column < indent) && c.sees '\t' then none
    else match c.head? with
      | none => some ⟨b.breaks, widest, c⟩
      | some x =>
        if isBreak x then
          readBlockBreaks indent fuel ⟨b.breaks ++ [breakText x], widest, c.nextLine⟩
        else some ⟨b.breaks, widest, c⟩

/-- A block scalar that is being read. -/
structure Block where
  text : List Char
  /-- The break at the end of the last line. -/
  lead : List Char
  /-- The breaks of the lines without content after it. -/
  breaks : List Char
  /-- Whether the last line began with a blank; such lines are not folded. -/
  afterBlank : Bool
  rest : Cursor
  deriving Repr, DecidableEq

namespace Block

/-- Adds the line that begins at the cursor. -/
def addLine (isLiteral : Bool) (indent : Nat) (b : Block) : Option Block := do
  let blank := b.rest.head?.any isBlank
  let joint :=
    if !isLiteral && b.lead == ['\n'] && !b.afterBlank && !blank then
      (if b.breaks.isEmpty then [' '] else [])
    else b.lead
  let line := b.rest.rest.takeWhile fun x => !isBreak x
  let c := b.rest.advance line.length
  let (lead, c) := match c.head? with
    | some x => ([breakText x], c.nextLine)
    | none => ([], c)
  let gap ← readBlockBreaks indent (c.rest.length + 1) ⟨[], 0, c⟩
  return ⟨b.text ++ joint ++ b.breaks ++ line, lead, gap.breaks, blank, gap.rest⟩

/-- Adds lines as long as they are indented as given. -/
def addLines (isLiteral : Bool) (indent : Nat) : Nat → Block → Option Block
  | 0, _ => none
  | fuel + 1, b =>
    if b.rest.column == indent && !b.rest.rest.isEmpty then do
      addLines isLiteral indent fuel (← b.addLine isLiteral indent)
    else some b

/-- The text once the breaks at the end are dropped or kept. -/
def finish (chomping : Chomping) (b : Block) : List Char :=
  match chomping with
  | .strip => b.text
  | .clip => b.text ++ b.lead
  | .keep => b.text ++ b.lead ++ b.breaks

end Block

/-- Reads a block scalar after its indicator. The collection around it is indented as given, by
-1 if there is none. -/
def readBlock (isLiteral : Bool) (around : Int) (c : Cursor) : Option (List Char × Cursor) := do
  let (header, c) := BlockHeader.read c
  if header.increment == some 0 then none
  let c := (c.skipWhile isBlank).skipComment
  if !endsLine c.head? then none
  let c := if c.rest.isEmpty then c else c.nextLine
  let given := match header.increment with
    | some n => (if 0 ≤ around then around.toNat + n else n)
    | none => 0
  let first ← readBlockBreaks given (c.rest.length + 1) ⟨[], 0, c⟩
  let indent := if given == 0 then max (max first.widest (around + 1).toNat) 1 else given
  let block ← Block.addLines isLiteral indent (c.rest.length + 1)
    ⟨[], [], first.breaks, false, first.rest⟩
  return (block.finish header.chomping, block.rest)

end Gazetteer.Yaml

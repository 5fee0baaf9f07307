import Gazetteer.Json.Token

/-! White space, strings and keys in TOML.

What is read comes back with the text that follows it. -/
namespace Gazetteer.Toml

/-! ### White space -/

def isBlank (c : Char) : Bool := c == ' ' || c == '\t'

/-- The characters of comments and of all text between quotes. -/
def isText (c : Char) : Bool := c == '\t' || (' ' ≤ c && c != '\x7f')

def skipBlanks (cs : List Char) : List Char := cs.dropWhile isBlank

/-- Passes a line break. -/
def lineBreak? : List Char → Option (List Char)
  | '\n' :: cs => some cs
  | '\r' :: '\n' :: cs => some cs
  | _ => none

def skipComment : List Char → List Char
  | '#' :: cs => cs.dropWhile isText
  | cs => cs

/-- Passes the rest of a line that holds nothing but a comment. -/
def endLine (cs : List Char) : Option (List Char) :=
  match skipComment (skipBlanks cs) with
  | [] => some []
  | cs => lineBreak? cs

/-- Passes white space and line breaks, and comments where they are allowed. -/
def skipLines (comments : Bool) : Nat → List Char → List Char
  | 0, cs => cs
  | fuel + 1, cs =>
    let rest := if comments then skipComment (skipBlanks cs) else skipBlanks cs
    match lineBreak? rest with
    | some rest => skipLines comments fuel rest
    | none => rest

/-! ### Strings -/

/-- The character with the code that a number of hexadecimal digits give. -/
def charOfDigits? (count : Nat) (cs : List Char) : Option (Char × List Char) := do
  let digits := cs.take count
  if digits.length < count then none
  else
    let code ← digits.foldlM (fun n d => (Json.Token.hexDigit? d).map (16 * n + ·)) 0
    if h : code.isValidChar then some (.ofNatAux code h, cs.drop count) else none

/-- Reads an escape after its backslash. -/
def readEscape : List Char → Option (Char × List Char)
  | 'b' :: cs => some ('\x08', cs)
  | 'f' :: cs => some ('\x0c', cs)
  | 'n' :: cs => some ('\n', cs)
  | 'r' :: cs => some ('\r', cs)
  | 't' :: cs => some ('\t', cs)
  | '"' :: cs => some ('"', cs)
  | '\\' :: cs => some ('\\', cs)
  | 'u' :: cs => charOfDigits? 4 cs
  | 'U' :: cs => charOfDigits? 8 cs
  | _ => none

/-- Puts a character in front of a text that was read. -/
def prepend (c : Char) (r : Option (List Char × List Char)) : Option (List Char × List Char) :=
  r.map fun (text, rest) => (c :: text, rest)

/-- Reads the rest of a string in double quotes. -/
def readBasic : Nat → List Char → Option (List Char × List Char)
  | 0, _ => none
  | fuel + 1, cs =>
    match cs with
    | '"' :: cs => some ([], cs)
    | '\\' :: cs => do
      let (c, cs) ← readEscape cs
      prepend c (readBasic fuel cs)
    | c :: cs => if isText c then prepend c (readBasic fuel cs) else none
    | [] => none

/-- Reads the rest of a string in single quotes, which has no escapes. -/
def readLiteral : List Char → Option (List Char × List Char)
  | '\'' :: cs => some ([], cs)
  | c :: cs => if isText c then prepend c (readLiteral cs) else none
  | [] => none

/-- Reads on after three closing quotes. One or two more quotes belong to the text. -/
def closeLong (quote : Char) (cs : List Char) : Option (List Char × List Char) :=
  let more := cs.takeWhile (· == quote)
  if more.length ≤ 2 then some (more, cs.drop more.length) else none

/-- Reads the rest of a string of several lines in double quotes. A backslash at the end of a line
joins it to the next text. -/
def readLongBasic : Nat → List Char → Option (List Char × List Char)
  | 0, _ => none
  | fuel + 1, cs =>
    match cs with
    | '"' :: '"' :: '"' :: cs => closeLong '"' cs
    | '\\' :: cs =>
      match lineBreak? (skipBlanks cs) with
      | some rest => readLongBasic fuel (skipLines false (rest.length + 1) rest)
      | none => do
        let (c, cs) ← readEscape cs
        prepend c (readLongBasic fuel cs)
    | c :: cs =>
      match lineBreak? (c :: cs) with
      | some rest => prepend '\n' (readLongBasic fuel rest)
      | none => if isText c then prepend c (readLongBasic fuel cs) else none
    | [] => none

/-- Reads the rest of a string of several lines in single quotes. -/
def readLongLiteral : Nat → List Char → Option (List Char × List Char)
  | 0, _ => none
  | fuel + 1, cs =>
    match cs with
    | '\'' :: '\'' :: '\'' :: cs => closeLong '\'' cs
    | c :: cs =>
      match lineBreak? (c :: cs) with
      | some rest => prepend '\n' (readLongLiteral fuel rest)
      | none => if isText c then prepend c (readLongLiteral fuel cs) else none
    | [] => none

/-- Passes the line break that may follow the opening quotes of a string of several lines. -/
def skipFirstBreak (cs : List Char) : List Char := (lineBreak? cs).getD cs

/-- Reads a string of one line. -/
def readShort (cs : List Char) : Option (List Char × List Char) :=
  match cs with
  | '"' :: rest => readBasic (rest.length + 1) rest
  | '\'' :: rest => readLiteral rest
  | _ => none

/-- Reads a string. -/
def readString (cs : List Char) : Option (List Char × List Char) :=
  match cs with
  | '"' :: '"' :: '"' :: rest =>
    let rest := skipFirstBreak rest
    readLongBasic (rest.length + 1) rest
  | '\'' :: '\'' :: '\'' :: rest =>
    let rest := skipFirstBreak rest
    readLongLiteral (rest.length + 1) rest
  | cs => readShort cs

/-! ### Keys -/

/-- The characters of keys without quotes. -/
def isBareKeyChar (c : Char) : Bool := c.isAlphanum || c == '_' || c == '-'

/-- Reads a part of a key, with the blanks around it. -/
def readKeyPart (cs : List Char) : Option (String × List Char) := do
  let cs := skipBlanks cs
  let (text, rest) ← match cs.head? with
    | some '"' => readShort cs
    | some '\'' => readShort cs
    | _ =>
      let bare := cs.takeWhile isBareKeyChar
      if bare.isEmpty then none else some (bare, cs.drop bare.length)
  return (.ofList text, skipBlanks rest)

/-- Reads the parts of a key, which dots separate. -/
def readKeyParts : Nat → List Char → Option (List String × List Char)
  | 0, _ => none
  | fuel + 1, cs => do
    let (part, rest) ← readKeyPart cs
    match rest with
    | '.' :: rest =>
      let (parts, rest) ← readKeyParts fuel rest
      return (part :: parts, rest)
    | rest => return ([part], rest)

/-- How deep keys and values may nest. -/
def depthLimit : Nat := 79

/-- Reads a key. -/
def readKey (cs : List Char) : Option (List String × List Char) := readKeyParts depthLimit cs

end Gazetteer.Toml

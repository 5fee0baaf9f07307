import Gazetteer.Toml.Moment
import Gazetteer.Toml.Number
import Gazetteer.Toml.Table
import Gazetteer.Toml.Text

/-! Values in TOML. -/
namespace Gazetteer.Toml

/-- Reads a value. -/
abbrev ValueReader := List Char → Option (Tree × List Char)

/-- Reads a date, a time or a number. -/
def readNumeric : ValueReader := fun cs =>
  match readMoment cs with
  | some r => some r
  | none =>
    match readFloat cs with
    | some r => some r
    | none => readInteger cs

/-- Reads a value that holds no others. -/
def readScalar : ValueReader := fun cs =>
  match cs with
  | 't' :: 'r' :: 'u' :: 'e' :: rest => some (.bool true, rest)
  | 'f' :: 'a' :: 'l' :: 's' :: 'e' :: rest => some (.bool false, rest)
  | c :: _ =>
    if c == '"' || c == '\'' then (readString cs).map fun (s, rest) => (.string (.ofList s), rest)
    else readNumeric cs
  | [] => none

/-! ### Arrays -/

def skipSpace (cs : List Char) : List Char := skipLines true (cs.length + 1) cs

/-- Reads the items of an array that are left. A comma may follow the last. -/
def readItems (value : ValueReader) : Nat → List Char → Option (List Tree × List Char)
  | 0, _ => none
  | fuel + 1, cs =>
    match skipSpace cs with
    | ']' :: rest => some ([], rest)
    | cs => do
      let (v, rest) ← value cs
      match skipSpace rest with
      | ',' :: rest => do
        let (items, rest) ← readItems value fuel rest
        return (v :: items, rest)
      | ']' :: rest => return ([v], rest)
      | _ => none

/-! ### Tables on one line -/

/-- Reads a key with its value. -/
def readEntry (value : ValueReader) (cs : List Char) :
    Option ((List String × Tree) × List Char) := do
  let (key, rest) ← readKey cs
  match rest with
  | '=' :: rest =>
    let (v, rest) ← value (skipBlanks rest)
    return ((key, v), rest)
  | _ => none

/-- Reads the entries of a table that are left. No comma follows the last. -/
def readEntries (value : ValueReader) : Nat → Table → List Char → Option (Table × List Char)
  | 0, _, _ => none
  | fuel + 1, t, cs => do
    let ((key, v), rest) ← readEntry value cs
    let (path, last) ← splitKey? key
    let t ← t.addValue path last v
    match skipBlanks rest with
    | ',' :: rest => readEntries value fuel t rest
    | '}' :: rest => return (t, rest)
    | _ => none

/-- Reads the rest of a table on one line. -/
def readInline (value : ValueReader) (cs : List Char) : Option (Tree × List Char) :=
  match skipBlanks cs with
  | '}' :: rest => some (Table.toTree [], rest)
  | cs => (readEntries value (cs.length + 1) [] cs).map fun (t, rest) => (t.toTree, rest)

/-- Reads a value in which others may nest to the given depth. -/
def readTo : Nat → ValueReader
  | 0 => fun cs =>
    if cs.head? == some '[' || cs.head? == some '{' then none else readScalar cs
  | depth + 1 => fun cs =>
    match cs with
    | '[' :: rest => (readItems (readTo depth) (rest.length + 1) rest).map fun (items, rest) =>
        (.list items, rest)
    | '{' :: rest => readInline (readTo depth) rest
    | cs => readScalar cs

/-- Reads a value. -/
def readValue : ValueReader := readTo depthLimit

end Gazetteer.Toml

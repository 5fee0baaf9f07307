import Gazetteer.Toml.Value

/-! Configuration trees from TOML.

The lines of a text add values to the table of the header above them. A table enters the document
when the next header, or the end of the text, closes it. -/
namespace Gazetteer.Toml

/-- A document that is being read. -/
structure Draft where
  /-- The tables that are closed. -/
  root : Table
  /-- The table that values are added to. -/
  current : Table
  /-- The header of the current table; the first table has none. -/
  path : List String
  /-- Whether the header may repeat. -/
  repeats : Bool
  deriving Repr

namespace Draft

def start : Draft := ⟨[], [], [], false⟩

/-- The document with the current table in it. -/
def close (d : Draft) : Option Table :=
  match splitKey? d.path with
  | none => some d.current
  | some (path, last) =>
    d.root.changeAt false (fun _ parent =>
      if d.repeats then
        match parent.get? last with
        | some (.tables tables) => some (parent.set last (.tables (tables ++ [d.current])))
        | _ => none
      else some (parent.set last (.table .header d.current))) path .header

/-- Begins the table of a header. A table that was only implied is taken out of the document and
goes on as the current one. -/
def openTable (d : Draft) (key : List String) : Option Draft := do
  let root ← d.close
  let (path, last) ← splitKey? key
  match (root.follow? path).bind (·.get? last) with
  | none =>
    let root ← root.changeAt false (fun _ parent => some parent) path .header
    return { root, current := [], path := key, repeats := false }
  | some (.table .implied current) =>
    let root ← root.changeAt false (fun _ parent => some (parent.erase last)) path .header
    return { root, current, path := key, repeats := false }
  | some _ => none

/-- Begins a table of a header that may repeat. -/
def openRepeated (d : Draft) (key : List String) : Option Draft := do
  let root ← d.close
  let (path, last) ← splitKey? key
  let root ← root.changeAt false (fun _ parent =>
    match parent.get? last with
    | none => some (parent.set last (.tables []))
    | some (.tables _) => some parent
    | some _ => none) path .header
  return { root, current := [], path := key, repeats := true }

/-- Adds a value to the current table. -/
def addValue (d : Draft) (key : List String) (v : Tree) : Option Draft := do
  let (path, last) ← splitKey? key
  return { d with current := ← d.current.addValue path last v }

end Draft

/-! ### Lines -/

/-- Reads a header after its first bracket. -/
def readHeader (d : Draft) : List Char → Option (Draft × List Char)
  | '[' :: cs => do
    let (key, rest) ← readKey cs
    match rest with
    | ']' :: ']' :: rest => return (← d.openRepeated key, rest)
    | _ => none
  | cs => do
    let (key, rest) ← readKey cs
    match rest with
    | ']' :: rest => return (← d.openTable key, rest)
    | _ => none

/-- Reads what a line holds, comments apart. -/
def readContent (d : Draft) (cs : List Char) : Option (Draft × List Char) :=
  match cs with
  | '[' :: rest => readHeader d rest
  | cs => do
    let ((key, v), rest) ← readEntry readValue cs
    return (← d.addValue key v, rest)

/-- Reads the lines that are left. -/
def readLines : Nat → Draft → List Char → Option Draft
  | 0, _, _ => none
  | fuel + 1, d, cs =>
    match skipSpace cs with
    | [] => some d
    | cs => do
      let (d, rest) ← readContent d cs
      readLines fuel d (← endLine rest)

/-- The mark of byte order, which may begin a text. -/
def byteOrderMark : Char := '\uFEFF'

/-- Reads a tree from TOML text. -/
def read (text : String) : Option Tree := do
  let cs := match text.toList with
    | [] => []
    | c :: cs => if c == byteOrderMark then cs else c :: cs
  let d ← readLines (cs.length + 1) .start cs
  return (← d.close).toTree

end Gazetteer.Toml

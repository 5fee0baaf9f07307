import Gazetteer.Tree.Basic

/-! Tables in TOML.

Tables are put together from headers and keys all over a text. What may still be added to a
table depends on how it came to be. -/
namespace Gazetteer.Toml

/-- How a table came to be. -/
inductive Origin
  /-- By a header of its own. -/
  | header
  /-- On the way to a table whose header names it. -/
  | implied
  /-- By a key with dots. -/
  | dotted
  deriving Repr, DecidableEq

inductive Item
  | value (v : Tree)
  | table (origin : Origin) (entries : List (String × Item))
  /-- The tables of the headers that repeat a name, in order. -/
  | tables (tables : List (List (String × Item)))
  deriving Repr

abbrev Table := List (String × Item)

namespace Table

def get? (t : Table) (key : String) : Option Item := (t.find? (·.1 == key)).map (·.2)

/-- Replaces an item in place, or adds it at the end. -/
def set (key : String) (item : Item) : Table → Table
  | [] => [(key, item)]
  | e :: t => if e.1 == key then (key, item) :: t else e :: set key item t

def erase (t : Table) (key : String) : Table := t.filter (·.1 != key)

/-- Changes the table at a path, which is made if it is missing. A path of a key with dots does
not lead into tables that have a header. -/
def changeAt (isDotted : Bool) (change : Origin → Table → Option Table) :
    List String → Origin → Table → Option Table
  | [], origin, t => change origin t
  | key :: path, _, t =>
    match t.get? key with
    | none => do
      let origin := if isDotted then .dotted else .implied
      let sub ← changeAt isDotted change path origin []
      return t.set key (.table origin sub)
    | some (.value _) => none
    | some (.table origin sub) =>
      if isDotted && origin == .header then none
      else do return t.set key (.table origin (← changeAt isDotted change path origin sub))
    | some (.tables tables) => do
      let last ← changeAt isDotted change path .header (← tables.getLast?)
      return t.set key (.tables (tables.dropLast ++ [last]))

/-- The table at a path, if it is there. -/
def follow? : List String → Table → Option Table
  | [], t => some t
  | key :: path, t =>
    match t.get? key with
    | some (.table _ sub) => follow? path sub
    | some (.tables tables) => tables.getLast?.bind (follow? path)
    | _ => none

/-- Adds a value under a key. A key with dots ends in a table that such keys made. -/
def addValue (t : Table) (path : List String) (key : String) (v : Tree) : Option Table :=
  changeAt true (fun origin sub =>
    if (path.isEmpty || origin == .dotted) && (sub.get? key).isNone then
      some (sub.set key (.value v))
    else none) path .header t

end Table

/-- A key without its last part, and the last part. -/
def splitKey? (key : List String) : Option (List String × String) :=
  key.getLast?.map fun last => (key.dropLast, last)

/-! ### Trees -/

mutual
def Item.toTree : Item → Tree
  | .value v => v
  | .table _ entries => .mapping (treeEntries entries)
  | .tables tables => .list (treeTables tables)

def treeEntries : List (String × Item) → List (Tree × Tree)
  | [] => []
  | (key, item) :: t => (.string key, item.toTree) :: treeEntries t

def treeTables : List (List (String × Item)) → List Tree
  | [] => []
  | t :: tables => .mapping (treeEntries t) :: treeTables tables
end

/-- The tree of a table. -/
def Table.toTree (t : Table) : Tree := .mapping (treeEntries t)

end Gazetteer.Toml

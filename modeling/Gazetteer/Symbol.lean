import Std.Data.TreeMap

/-! Capture symbols of terms.

Terms have free names; groups of a pattern are named by plain symbols. Each term gets the
symbol made from its name, and no two terms of a group may get the same one. -/
namespace Gazetteer.Symbol

def isSymbolChar (c : Char) : Bool := c.isAlphanum || c == '_'

/-- The symbol made from a name: characters other than ASCII letters, digits and `_` become
`_`, and one more `_` is put in front of what is empty or starts with a digit. -/
def ofName (name : String) : String :=
  let cs := name.toList.map fun c => if isSymbolChar c then c else '_'
  match cs with
  | [] => "_"
  | c :: _ => if c.isDigit then .ofList ('_' :: cs) else .ofList cs

end Gazetteer.Symbol

namespace Gazetteer

/-- Two names with the same symbol, in the order in which they were declared. -/
structure SymbolCollision where
  first : String
  second : String
  symbol : String
  deriving Repr, DecidableEq

/-- Names with their symbols. The entries keep the order of declaration, and the two maps lead from
names and from symbols to places in it. -/
structure SymbolTable where
  entries : List (String × String)
  byName : Std.TreeMap String Nat
  bySymbol : Std.TreeMap String Nat

namespace SymbolTable

def empty : SymbolTable := ⟨[], ∅, ∅⟩

/-- The name that a symbol was made from. -/
def name? (t : SymbolTable) (symbol : String) : Option String :=
  t.bySymbol[symbol]?.bind fun i => t.entries[i]?.map (·.1)

/-- The symbol of a name. -/
def symbol? (t : SymbolTable) (name : String) : Option String :=
  t.byName[name]?.bind fun i => t.entries[i]?.map (·.2)

/-- The place of a name in the order of declaration. -/
def position? (t : SymbolTable) (name : String) : Option Nat := t.byName[name]?

def names (t : SymbolTable) : List String := t.entries.map (·.1)
def symbols (t : SymbolTable) : List String := t.entries.map (·.2)

/-- Adds a name at the end, unless an earlier one has its symbol. -/
def insert (t : SymbolTable) (name : String) : Except SymbolCollision SymbolTable :=
  let symbol := Symbol.ofName name
  match t.name? symbol with
  | some first => .error { first, second := name, symbol }
  | none => .ok {
      entries := t.entries ++ [(name, symbol)]
      byName := t.byName.insert name t.entries.length
      bySymbol := t.bySymbol.insert symbol t.entries.length }

/-- The table of the names, unless two of them share a symbol. -/
def ofNames (names : List String) : Except SymbolCollision SymbolTable :=
  names.foldlM insert empty

end SymbolTable
end Gazetteer

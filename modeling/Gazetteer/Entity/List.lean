import Gazetteer.Entity.Decode
import Gazetteer.Json.Reader

/-! Lists of entities.

A list keeps the order in which entities were added. A step that is given something that is no
entity changes nothing. -/
namespace Gazetteer

abbrev EntityList := List NamedEntity

namespace EntityList

/-! ### Adding -/

/-- A step changes a list in place and may fail, with what was found instead of an entity. What it
has done to the list before it fails stays done. -/
abbrev Step := ExceptT String (StateM EntityList) Unit

namespace Step

def append (e : NamedEntity) : Step := modify (· ++ [e])

/-- Appends the entities of another list. -/
def extend (es : EntityList) : Step := modify (· ++ es)

/-- Appends an untyped value. -/
def appendUntyped (v : Json) : Step := do
  append (← NamedEntity.ofUntyped v)

/-- The entities of untyped values; the first value that is none is reported. -/
def ofUntyped : List Json → Except String EntityList
  | [] => .ok []
  | v :: vs => do
    let e ← NamedEntity.ofUntyped v
    let es ← ofUntyped vs
    return e :: es

/-- Appends untyped values, all of them or none. -/
def extendUntyped (vs : List Json) : Step := do
  extend (← ofUntyped vs)

/-- How a step ends, and the list it leaves. -/
def change (step : Step) (l : EntityList) : Except String Unit × EntityList := (step.run.run l).run

end Step

/-- The list that a step leaves, unless it fails. -/
def after (l : EntityList) (step : Step) : Except String EntityList :=
  let (ending, l') := step.change l
  ending.map fun _ => l'

def appendUntyped (l : EntityList) (v : Json) : Except String EntityList :=
  l.after (.appendUntyped v)

def extendUntyped (l : EntityList) (vs : List Json) : Except String EntityList :=
  l.after (.extendUntyped vs)

/-! ### Parts -/

/-- The entities at the positions from `start` up to `stop`. -/
def slice? (l : EntityList) (start stop : Nat) : Option EntityList :=
  if start ≤ stop ∧ stop ≤ l.length then some ((l.take stop).drop start) else none

/-- The entities at the given positions, in the given order. -/
def select? (l : EntityList) (indices : List Nat) : Option EntityList :=
  indices.mapM fun i => l[i]?

/-- The entities of one group. -/
def ofGroup (l : EntityList) (entity : String) : EntityList :=
  l.filter (·.entity == entity)

/-- Puts a name into a sorted list of names, unless it is there. -/
def insertName (name : String) : List String → List String
  | [] => [name]
  | n :: names =>
    if name < n then name :: n :: names
    else if name == n then n :: names
    else n :: insertName name names

/-- The names in a list, each once and in order. -/
def distinct (names : List String) : List String :=
  names.foldl (fun done name => insertName name done) []

def uniqueEntities (l : EntityList) : List String := distinct (l.map NamedEntity.entity)
def uniqueNames (l : EntityList) : List String := distinct (l.map NamedEntity.name)

/-! ### Order -/

/-- Sorts by a key, ascending or descending. Entities with equal keys keep their order either
way. -/
def sortBy {κ : Type} [Ord κ] (key : NamedEntity → κ) (descending : Bool) (l : EntityList) :
    EntityList :=
  l.mergeSort fun a b =>
    if descending then (compare (key b) (key a)).isLE else (compare (key a) (key b)).isLE

/-! ### Text -/

/-- The entries of a listing, numbered from the given position. -/
def entries (position : Nat) : EntityList → List String
  | [] => []
  | e :: l =>
    ("    [" ++ toString position ++ "] " ++ e.display ++ "\n") :: entries (position + 1) l

def display (l : EntityList) : String :=
  if l.isEmpty then "NamedEntityList([])"
  else "NamedEntityList(\n" ++ String.join (entries 0 l) ++ ")"

def toJson (l : EntityList) : Json := .array (l.map NamedEntity.toJson)

def render (l : EntityList) : String := l.toJson.render

/-- The list that a value stands for. -/
def ofJson? : Json → Option EntityList
  | .array items => items.mapM fun v => (NamedEntity.ofJson v).toOption
  | _ => none

/-- Reads a list from its JSON text. -/
def read? (text : String) : Option EntityList := (Json.read text).bind ofJson?

end EntityList
end Gazetteer

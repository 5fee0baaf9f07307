import Gazetteer.Yaml.Event
import Gazetteer.Yaml.Plain

/-! Configuration trees from YAML.

A reference stands for the node that its name was given to. Collections may be open 128 deep, and
a document may follow its references a hundred times for each of its events, so that no document
stands for a tree without bounds. -/
namespace Gazetteer.Yaml

/-! ### References -/

/-- The names given so far. A name gets the number of names known when it is given, and a number
points to the last node that got it. -/
structure Names where
  numbers : List (String × Nat)
  positions : List (Nat × Nat)
  deriving Repr, DecidableEq

namespace Names

def empty : Names := ⟨[], []⟩

/-- Gives a name to the node whose first event is at a position. -/
def give (ns : Names) (position : Nat) (p : Properties) : Names :=
  match p.name with
  | none => ns
  | some name =>
    let number := ns.numbers.length
    { numbers := (name, number) :: ns.numbers.filter (·.1 != name)
      positions := (number, position) :: ns.positions.filter (·.1 != number) }

def number? (ns : Names) (name : String) : Option Nat :=
  (ns.numbers.find? (·.1 == name)).map (·.2)

end Names

/-- An event of a document; a reference has the number of what it refers to. -/
inductive Step
  | reference (number : Nat)
  | event (e : Event)
  deriving Repr, DecidableEq

/-- The events of a document with what their references point to. -/
structure Document where
  steps : Array Step
  positions : List (Nat × Nat)
  deriving Repr, DecidableEq

namespace Document

/-- Resolves references. A reference to a name that was not given before has no meaning. -/
def resolve (position : Nat) (ns : Names) : List Event → Option (List Step × Names)
  | [] => some ([], ns)
  | e :: es => do
    let step ← match e with
      | .reference name => (ns.number? name).map .reference
      | e => some (.event e)
    let ns := match e with
      | .scalar p _ _ => ns.give position p
      | .sequenceStart p => ns.give position p
      | .mappingStart p => ns.give position p
      | _ => ns
    let (steps, ns) ← resolve (position + 1) ns es
    return (step :: steps, ns)

def ofEvents (es : List Event) : Option Document := do
  let (steps, ns) ← resolve 0 .empty es
  return ⟨steps.toArray, ns.positions⟩

/-! ### Trees -/

/-- How far a document has been read. -/
structure Progress where
  position : Nat
  /-- The references followed so far. -/
  followed : Nat
  deriving Repr, DecidableEq

/-- Reads a node. -/
abbrev NodeReader := Progress → Option (Tree × Progress)

/-- The type of its own that a tag marks. -/
def ownType? (tag : Option String) : Option String :=
  match tag.map String.toList with
  | some ['!'] => some "!"
  | some ('!' :: name) => some (.ofList name)
  | _ => none

/-- A value with the type of its own that a tag marks. -/
def wrap (tag : Option String) (v : Tree) : Tree :=
  match ownType? tag with
  | some name => .tagged name v
  | none => v

/-- The value of a scalar. -/
def scalarValue (tag : Option String) (isPlain : Bool) (text : String) : Option Tree :=
  let own := (ownType? tag).isSome
  match (if own then none else tag) with
  | some tag => (ofKnownTag tag text).getD (some (.string text))
  | none => if isPlain then ofPlain text else some (.string text)

/-- Reads items up to the end of a sequence. -/
def readItems (d : Document) (node : NodeReader) : Nat → Progress → Option (List Tree × Progress)
  | 0, _ => none
  | fuel + 1, p =>
    match d.steps[p.position]? with
    | some (.event .sequenceEnd) => some ([], { p with position := p.position + 1 })
    | _ => do
      let (v, p) ← node p
      let (items, p) ← readItems d node fuel p
      return (v :: items, p)

/-- Reads entries up to the end of a mapping. -/
def readEntries (d : Document) (node : NodeReader) :
    Nat → List (Tree × Tree) → Progress → Option (List (Tree × Tree) × Progress)
  | 0, _, _ => none
  | fuel + 1, entries, p =>
    match d.steps[p.position]? with
    | some (.event .mappingEnd) => some (entries, { p with position := p.position + 1 })
    | _ => do
      let (key, p) ← node p
      let (value, p) ← node p
      readEntries d node fuel (← Tree.addEntry entries key value) p

/-- Reads the node whose first event is at the position. Its parts, if it has any, are read as
given. -/
def readHere (d : Document) (part : Option NodeReader) : NodeReader := fun p => do
  let p' : Progress := { p with position := p.position + 1 }
  match ← d.steps[p.position]? with
  | .event (.scalar props isPlain text) =>
    return (wrap props.tag (← scalarValue props.tag isPlain text), p')
  | .event (.sequenceStart props) =>
    let (items, p) ← readItems d (← part) (d.steps.size + 1) p'
    return (wrap props.tag (.list items), p)
  | .event (.mappingStart props) =>
    let (entries, p) ← readEntries d (← part) (d.steps.size + 1) [] p'
    return (wrap props.tag (.mapping entries), p)
  | _ => none

/-- Reads a node or what a reference stands for. -/
def readNode (d : Document) (part : Option NodeReader) : NodeReader := fun p =>
  match d.steps[p.position]? with
  | some (.reference number) => do
    let followed := p.followed + 1
    if 100 * d.steps.size < followed then none
    else
      let (_, target) ← d.positions.find? (·.1 == number)
      let (v, q) ← readHere d part ⟨target, followed⟩
      return (v, ⟨p.position + 1, q.followed⟩)
  | _ => readHere d part p

/-- Reads a node in which collections may be open to the given depth. -/
def readTo (d : Document) : Nat → NodeReader
  | 0 => readNode d none
  | depth + 1 => readNode d (some (readTo d depth))

/-- How many collections may be open at once. -/
def depthLimit : Nat := 128

/-- The tree of a document; one without events stands for null. -/
def tree? (d : Document) : Option Tree :=
  if d.steps.isEmpty then some .null else (readTo d depthLimit ⟨0, 0⟩).map (·.1)

end Document

/-- Reads a tree from YAML text. -/
def read (text : String) : Option Tree := do
  let tokens ← Token.ofText text
  let events ← Event.ofTokens tokens
  (← Document.ofEvents events).tree?

end Gazetteer.Yaml

import Gazetteer.Json.Token

/-! Reading JSON values.

The tokens of a value are taken one at a time. What has been read is a stack of the arrays and
objects that are open, with what may come next; a text is refused at the first token that has
no place. -/
namespace Gazetteer.Json

/-- An array or object whose end has not been reached. -/
inductive Frame
  /-- The items so far, last first. -/
  | array (items : List Json)
  /-- The members so far, last first, and the name whose value is due. -/
  | object (members : List (String × Json)) (name : String)
  deriving Repr

/-- What may come next. -/
inductive Due
  | value
  /-- A value or the end of an array without items. -/
  | itemOrEnd
  /-- A name or the end of an object without members. -/
  | nameOrEnd (outer : List Frame)
  | name (members : List (String × Json)) (outer : List Frame)
  | colon
  /-- A comma or the end of what is open, after a value. -/
  | next (v : Json)
  deriving Repr

/-- A value that is being read. -/
structure Partial where
  /-- The open arrays and objects, innermost first. -/
  frames : List Frame
  due : Due
  deriving Repr

namespace Partial

def start : Partial := ⟨[], .value⟩

/-- How many arrays and objects may be open at once. -/
def depthLimit : Nat := 127

/-- The value that closes an open array or object after its last item or member. -/
def close (frames : List Frame) (v : Json) : Token → Option Partial
  | .closeArray =>
    match frames with
    | .array items :: outer => some ⟨outer, .next (.array (v :: items).reverse)⟩
    | _ => none
  | .closeObject =>
    match frames with
    | .object members name :: outer =>
      some ⟨outer, .next (.object ((name, v) :: members).reverse)⟩
    | _ => none
  | .comma =>
    match frames with
    | .array items :: outer => some ⟨.array (v :: items) :: outer, .value⟩
    | .object members name :: outer => some ⟨outer, .name ((name, v) :: members) outer⟩
    | [] => none
  | _ => none

/-- Begins a value. -/
def begin (frames : List Frame) : Token → Option Partial
  | .scalar v => some ⟨frames, .next v⟩
  | .openArray =>
    if frames.length < depthLimit then some ⟨.array [] :: frames, .itemOrEnd⟩ else none
  | .openObject => if frames.length < depthLimit then some ⟨frames, .nameOrEnd frames⟩ else none
  | _ => none

/-- Takes a token. -/
def add (p : Partial) (t : Token) : Option Partial :=
  match p.due with
  | .value => begin p.frames t
  | .itemOrEnd =>
    match t, p.frames with
    | .closeArray, _ :: outer => some ⟨outer, .next (.array [])⟩
    | t, frames => begin frames t
  | .nameOrEnd outer =>
    match t with
    | .closeObject => some ⟨outer, .next (.object [])⟩
    | .scalar (.string name) => some ⟨.object [] name :: outer, .colon⟩
    | _ => none
  | .name members outer =>
    match t with
    | .scalar (.string name) => some ⟨.object members name :: outer, .colon⟩
    | _ => none
  | .colon =>
    match t with
    | .colon => some ⟨p.frames, .value⟩
    | _ => none
  | .next v => close p.frames v t

end Partial

/-- Reads a value from its text. -/
def read (text : String) : Option Json := do
  let tokens ← Token.ofText text.toList
  let p ← tokens.foldlM Partial.add Partial.start
  match p with
  | ⟨[], .next v⟩ => some v
  | _ => none

end Gazetteer.Json

import Gazetteer.Entity.Basic
import Gazetteer.Json.Sorted

/-! Entities from JSON.

An entity is an object with exactly its four members, or an array of the four values in the
order of declaration. A span is an object with two members, others being ignored, or an array
of two. The first fault in the order in which the values stand is reported; members that are missing
are reported last. -/
namespace Gazetteer

namespace Json

/-- How exponents are written in messages. -/
def messageStyle : Decimal.Style := ⟨"+", 2⟩

/-- A value as it is named where another was expected. -/
def found : Json → String
  | .null => "null"
  | .bool b => "boolean `" ++ toString b ++ "`"
  | .int n => "integer `" ++ toString n ++ "`"
  | .float f => "floating point `" ++ Decimal.floatText messageStyle f ++ "`"
  | .string s => "string " ++ Text.quoted s
  | .array _ => "sequence"
  | .object _ => "map"

def wrongType (v : Json) (expected : String) : String :=
  "invalid type: " ++ v.found ++ ", expected " ++ expected

def wrongLength (n : Nat) (expected : String) : String :=
  "invalid length " ++ toString n ++ ", expected " ++ expected

def missingField (name : String) : String := "missing field `" ++ name ++ "`"
def duplicateField (name : String) : String := "duplicate field `" ++ name ++ "`"

def asString : Json → Except String String
  | .string s => .ok s
  | v => .error (v.wrongType "a string")

/-- An offset: an integer that is not negative. -/
def asOffset : Json → Except String Nat
  | .int n =>
    if 0 ≤ n then .ok n.toNat
    else .error ("invalid value: " ++ (Json.int n).found ++ ", expected usize")
  | v => .error (v.wrongType "usize")

end Json

namespace Span

/-- The ends of a span as far as they are known. -/
structure Draft where
  start : Option Nat
  stop : Option Nat
  deriving Repr, DecidableEq

namespace Draft

def addMember (d : Draft) (name : String) (v : Json) : Except String Draft :=
  match name with
  | "start" =>
    if d.start.isSome then .error (Json.duplicateField name)
    else do return { d with start := some (← v.asOffset) }
  | "end" =>
    if d.stop.isSome then .error (Json.duplicateField name)
    else do return { d with stop := some (← v.asOffset) }
  | _ => .ok d

def finish (d : Draft) : Except String Span :=
  match d.start, d.stop with
  | none, _ => .error (Json.missingField "start")
  | some _, none => .error (Json.missingField "end")
  | some start, some stop => .ok ⟨start, stop⟩

end Draft

def ofJson : Json → Except String Span
  | .object members => do
    let d ← members.foldlM (fun d (name, v) => Draft.addMember d name v) ⟨none, none⟩
    d.finish
  | .array items =>
    match items with
    | [] => .error (Json.wrongLength 0 "struct Span with 2 elements")
    | [start] => do
      let _ ← start.asOffset
      .error (Json.wrongLength 1 "struct Span with 2 elements")
    | start :: stop :: more => do
      let start ← start.asOffset
      let stop ← stop.asOffset
      if more.isEmpty then .ok ⟨start, stop⟩
      else .error (Json.wrongLength items.length "fewer elements in array")
  | v => .error (v.wrongType "struct Span")

end Span

namespace NamedEntity

/-- Makes an entity if it is consistent. -/
def ofParts (name entity string : String) (span : Span) : Except String NamedEntity :=
  if span.start > span.stop then .error ("span " ++ span.display ++ " starts after it ends")
  else if span.length ≠ string.utf8ByteSize then
    .error ("span " ++ span.display ++ " does not cover " ++ toString string.utf8ByteSize ++
      " bytes of " ++ Text.quoted string)
  else .ok { name, entity, string, span }

/-- The parts of an entity as far as they are known. -/
structure Draft where
  name : Option String
  entity : Option String
  string : Option String
  span : Option Span
  deriving Repr, DecidableEq

namespace Draft

def addMember (d : Draft) (key : String) (v : Json) : Except String Draft :=
  match key with
  | "name" =>
    if d.name.isSome then .error (Json.duplicateField key)
    else do return { d with name := some (← v.asString) }
  | "entity" =>
    if d.entity.isSome then .error (Json.duplicateField key)
    else do return { d with entity := some (← v.asString) }
  | "string" =>
    if d.string.isSome then .error (Json.duplicateField key)
    else do return { d with string := some (← v.asString) }
  | "span" =>
    if d.span.isSome then .error (Json.duplicateField key)
    else do return { d with span := some (← Span.ofJson v) }
  | _ => .error ("unknown field `" ++ key ++
    "`, expected one of `name`, `entity`, `string`, `span`")

def finish (d : Draft) : Except String NamedEntity :=
  match d.name, d.entity, d.string, d.span with
  | none, _, _, _ => .error (Json.missingField "name")
  | some _, none, _, _ => .error (Json.missingField "entity")
  | some _, some _, none, _ => .error (Json.missingField "string")
  | some _, some _, some _, none => .error (Json.missingField "span")
  | some name, some entity, some string, some span => ofParts name entity string span

end Draft

/-- Reports that an array ended after the given number of values. -/
def tooFew (n : Nat) : Except String NamedEntity :=
  .error (Json.wrongLength n "struct RawEntity with 4 elements")

def ofItems (items : List Json) : Except String NamedEntity :=
  match items with
  | [] => tooFew 0
  | name :: items' => do
    let name ← name.asString
    match items' with
    | [] => tooFew 1
    | entity :: items' => do
      let entity ← entity.asString
      match items' with
      | [] => tooFew 2
      | string :: items' => do
        let string ← string.asString
        match items' with
        | [] => tooFew 3
        | span :: more => do
          let span ← Span.ofJson span
          if more.isEmpty then ofParts name entity string span
          else .error (Json.wrongLength items.length "fewer elements in array")

/-- The entity that a value stands for. -/
def ofJson : Json → Except String NamedEntity
  | .object members => do
    let d ← members.foldlM (fun d (key, v) => Draft.addMember d key v) ⟨none, none, none, none⟩
    d.finish
  | .array items => ofItems items
  | v => .error (v.wrongType "struct RawEntity")

/-- The entity that an untyped value stands for, or what was found instead. -/
def ofUntyped (v : Json) : Except String NamedEntity :=
  match ofJson v.sorted with
  | .ok e => .ok e
  | .error reason => .error (v.kind ++ " (" ++ reason ++ ")")

end NamedEntity
end Gazetteer

import Gazetteer.Json.Printer
import Gazetteer.Span
import Gazetteer.Text.Quoted

/-! Named entities: which term of which group was found, and where. -/
namespace Gazetteer

structure NamedEntity where
  /-- The term. -/
  name : String
  /-- The group. -/
  entity : String
  /-- The text that was found. -/
  string : String
  /-- Where it was found, in bytes. -/
  span : Span
  deriving Repr, DecidableEq

namespace Span

def toJson (s : Span) : Json := .object [("start", .int s.start), ("end", .int s.stop)]

end Span

namespace NamedEntity

/-- What holds of every entity: its span is in order and as long as its text. -/
def IsConsistent (e : NamedEntity) : Prop :=
  e.span.start ≤ e.span.stop ∧ e.span.length = e.string.utf8ByteSize

instance (e : NamedEntity) : Decidable e.IsConsistent := by
  unfold IsConsistent
  infer_instance

def toJson (e : NamedEntity) : Json :=
  .object [("name", .string e.name), ("entity", .string e.entity), ("string", .string e.string),
    ("span", e.span.toJson)]

def display (e : NamedEntity) : String :=
  "NamedEntity(name=" ++ Text.quoted e.name ++ ", entity=" ++ Text.quoted e.entity ++
    ", string=" ++ Text.quoted e.string ++ ", span=(" ++ toString e.span.start ++ ", " ++
    toString e.span.stop ++ "))"

end NamedEntity
end Gazetteer

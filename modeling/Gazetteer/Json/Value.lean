/-! JSON values.

Objects keep their members in the order in which they were written, and two members may have
the same name; what that means is up to the reader of the object. -/
namespace Gazetteer

inductive Json
  | null
  | bool (b : Bool)
  /-- A number written without a fraction or exponent, in the range of 64 bits. -/
  | int (n : Int)
  | float (f : Float)
  | string (s : String)
  | array (items : List Json)
  | object (members : List (String × Json))
  deriving Repr

namespace Json

/-- What the value is called in messages. -/
def kind : Json → String
  | .null => "null"
  | .bool _ => "boolean"
  | .int _ => "number"
  | .float _ => "number"
  | .string _ => "string"
  | .array _ => "array"
  | .object _ => "object"

/-- The value of the last member of a name. -/
def member? (name : String) : Json → Option Json
  | .object members => (members.reverse.find? (·.1 == name)).map (·.2)
  | _ => none

end Json
end Gazetteer

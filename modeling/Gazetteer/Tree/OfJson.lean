import Gazetteer.Json.Reader
import Gazetteer.Tree.Basic

/-! Configuration trees from JSON. -/
namespace Gazetteer.Tree

mutual
/-- The tree of a JSON value; an object with a repeated name has none. -/
def ofJson? : Json → Option Tree
  | .null => some .null
  | .bool b => some (.bool b)
  | .int n => some (.int n)
  | .float f => some (.float f)
  | .string s => some (.string s)
  | .array items => (ofJsonItems? items).map .list
  | .object members => (ofJsonMembers? [] members).map .mapping

def ofJsonItems? : List Json → Option (List Tree)
  | [] => some []
  | v :: items => do
    let first ← ofJson? v
    let others ← ofJsonItems? items
    return first :: others

/-- Adds the members of an object to the entries of a mapping. -/
def ofJsonMembers? (entries : List (Tree × Tree)) :
    List (String × Json) → Option (List (Tree × Tree))
  | [] => some entries
  | (name, v) :: members => do
    let value ← ofJson? v
    ofJsonMembers? (← addEntry entries (.string name) value) members
end

/-- Reads a tree from JSON text. -/
def readJson (text : String) : Option Tree := (Json.read text).bind ofJson?

end Gazetteer.Tree

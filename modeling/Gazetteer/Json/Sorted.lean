import Gazetteer.Json.Value

/-! Objects with sorted members.

A value whose objects are looked up by name does not depend on the order of their members. Its
sorted form lists them by name, each name once; a name that was given twice has its last
value. -/
namespace Gazetteer.Json

/-- Puts a member into a list sorted by name, in the place of a member of the same name. -/
def insertMember (name : String) (v : Json) : List (String × Json) → List (String × Json)
  | [] => [(name, v)]
  | m :: members =>
    if name < m.1 then (name, v) :: m :: members
    else if name == m.1 then (name, v) :: members
    else m :: insertMember name v members

mutual
def sorted : Json → Json
  | .array items => .array (sortedItems items)
  | .object members => .object (sortedMembers [] members)
  | v => v

def sortedItems : List Json → List Json
  | [] => []
  | v :: items => v.sorted :: sortedItems items

/-- Adds members to a list sorted by name. -/
def sortedMembers (done : List (String × Json)) : List (String × Json) → List (String × Json)
  | [] => done
  | (name, v) :: members => sortedMembers (insertMember name v.sorted done) members
end

end Gazetteer.Json

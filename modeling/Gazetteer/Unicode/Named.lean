import Gazetteer.Unicode.Age
import Gazetteer.Unicode.Break
import Gazetteer.Unicode.CharClass

/-! Character classes by name.

A class is named by a property, a general category or a script, alone or as the value of a
property. An age and a place at a boundary of graphemes, words or sentences are named as
values only. Names are compared loosely: case, blanks, hyphens, underscores and a leading
`is` do not count. -/
namespace Gazetteer.Unicode.Named

/-- A name reduced to what is compared. Characters outside ASCII are dropped. The name `isc`
stays whole, so that it is not taken for the category `c`. -/
def reduce (name : String) : String :=
  let body (cs : List Char) : List Char :=
    (cs.filter fun c => isAscii c && c != ' ' && c != '_' && c != '-').map Char.toLower
  match name.toList with
  | a :: b :: rest =>
    if a.toLower == 'i' && b.toLower == 's' then
      let reduced := body rest
      .ofList (if reduced == ['c'] then ['i', 's', 'c'] else reduced)
    else .ofList (body (a :: b :: rest))
  | cs => .ofList (body cs)

/-- The class that one of the rows gives the name. -/
def lookup? (rows : List (List String × (Char → Bool))) (name : String) : Option (Char → Bool) :=
  (rows.find? (·.1.contains name)).map (·.2)

def property? (name : String) : Option (Char → Bool) := lookup? Property.named name

/-- The general categories and their groups, and the three sets that go with them. -/
def category? (name : String) : Option (Char → Bool) :=
  match name with
  | "any" => some fun _ => true
  | "assigned" => some fun c => !Category.unassigned.contains c
  | "ascii" => some isAscii
  | _ => (Category.names.find? (·.1.contains name)).map fun row => Category.anyContains row.2

def script? (name : String) : Option (Char → Bool) :=
  (Script.all.find? (·.names.contains name)).map fun s c => s.members.contains c.toNat

def scriptExtensions? (name : String) : Option (Char → Bool) :=
  (Script.all.find? (·.names.contains name)).map Script.usedWith

/-- The class of a name that stands alone: a property, a category or a script. -/
def find? (name : String) : Option (Char → Bool) :=
  let key := reduce name
  property? key <|> category? key <|> script? key

/-- The class of the characters whose property has the given value. -/
def findValue? (property value : String) : Option (Char → Bool) :=
  let value := reduce value
  match reduce property with
  | "gc" | "generalcategory" => category? value
  | "sc" | "script" => script? value
  | "scx" | "scriptextensions" => scriptExtensions? value
  | "age" => Release.find? value
  | "gcb" | "graphemeclusterbreak" => lookup? GraphemeBreak.values value
  | "wb" | "wordbreak" => lookup? WordBreak.values value
  | "sb" | "sentencebreak" => lookup? SentenceBreak.values value
  | _ => none

end Gazetteer.Unicode.Named

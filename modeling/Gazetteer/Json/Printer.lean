import Gazetteer.Decimal.Shortest
import Gazetteer.Json.Value
import Gazetteer.Text.Quoted

/-! JSON text.

The compact form has no white space. The indented form puts every member and item on a line
of its own, two spaces deeper than what holds it, and leaves nothing between the brackets of
what is empty. -/
namespace Gazetteer.Json

/-- A character as it stands in a JSON string. -/
def escapeChar (c : Char) : List Char :=
  match c with
  | '"' => ['\\', '"']
  | '\\' => ['\\', '\\']
  | '\x08' => ['\\', 'b']
  | '\x0c' => ['\\', 'f']
  | '\n' => ['\\', 'n']
  | '\r' => ['\\', 'r']
  | '\t' => ['\\', 't']
  | c =>
    if c.toNat < 32 then
      ['\\', 'u', '0', '0', Text.hexDigit (c.toNat / 16), Text.hexDigit (c.toNat % 16)]
    else [c]

/-- A JSON string. -/
def quote (s : String) : List Char :=
  '"' :: s.toList.flatMap escapeChar ++ ['"']

/-- How exponents are written in JSON numbers. -/
def numberStyle : Decimal.Style := ⟨"+", 2⟩

/-- The text of a value that holds no others. -/
def scalarText : Json → List Char
  | .bool true => "true".toList
  | .bool false => "false".toList
  | .int n => (toString n).toList
  | .float f => (Decimal.floatText numberStyle f).toList
  | .string s => quote s
  | _ => "null".toList

/-! ### Compact -/

mutual
def compact : Json → List Char
  | .array items => '[' :: compactItems items
  | .object members => '{' :: compactMembers members
  | v => scalarText v

/-- The items after an opening bracket, with the closing one. -/
def compactItems : List Json → List Char
  | [] => [']']
  | [v] => v.compact ++ [']']
  | v :: items => v.compact ++ ',' :: compactItems items

/-- The members after an opening brace, with the closing one. -/
def compactMembers : List (String × Json) → List Char
  | [] => ['}']
  | [(name, v)] => quote name ++ ':' :: v.compact ++ ['}']
  | (name, v) :: members => quote name ++ ':' :: v.compact ++ ',' :: compactMembers members
end

def render (v : Json) : String := .ofList v.compact

/-! ### Indented -/

/-- A new line at a depth. -/
def newline (depth : Nat) : List Char := '\n' :: List.replicate (2 * depth) ' '

mutual
def indented (depth : Nat) : Json → List Char
  | .array [] => ['[', ']']
  | .array items => '[' :: newline (depth + 1) ++ indentedItems depth items
  | .object [] => ['{', '}']
  | .object members => '{' :: newline (depth + 1) ++ indentedMembers depth members
  | v => scalarText v

/-- The items after the first line break, with the closing bracket. -/
def indentedItems (depth : Nat) : List Json → List Char
  | [] => newline depth ++ [']']
  | [v] => v.indented (depth + 1) ++ newline depth ++ [']']
  | v :: items =>
    v.indented (depth + 1) ++ ',' :: newline (depth + 1) ++ indentedItems depth items

/-- The members after the first line break, with the closing brace. -/
def indentedMembers (depth : Nat) : List (String × Json) → List Char
  | [] => newline depth ++ ['}']
  | [(name, v)] =>
    quote name ++ [':', ' '] ++ v.indented (depth + 1) ++ newline depth ++ ['}']
  | (name, v) :: members =>
    quote name ++ [':', ' '] ++ v.indented (depth + 1) ++ ',' :: newline (depth + 1) ++
      indentedMembers depth members
end

def renderIndented (v : Json) : String := .ofList (v.indented 0)

end Gazetteer.Json

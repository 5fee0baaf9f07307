import Gazetteer.Decimal.Nearest
import Gazetteer.Json.Token
import Gazetteer.Tree.Basic

/-! The values of YAML scalars.

A plain scalar is a null, a boolean or a number if it is written like one, and a string
otherwise. Integers are read in decimal, and in hexadecimal, octal and binary after `0x`, `0o`
and `0b`; those beyond 64 bits are refused as long as they fit in 128, and are floats beyond. -/
namespace Gazetteer.Yaml

/-! ### Integers -/

/-- The number that digits stand for in a base of at most 16. -/
def valueInBase? (base : Nat) (digits : List Char) : Option Nat :=
  if digits.isEmpty then none
  else digits.foldlM (fun n c => do
    let d ← Json.Token.hexDigit? c
    if d < base then some (base * n + d) else none) 0

/-- The base that a mark stands for. -/
def baseOf? : Char → Option Nat
  | 'x' => some 16
  | 'o' => some 8
  | 'b' => some 2
  | _ => none

/-- The number after its sign. Zeros in front of decimal digits make no number. -/
def magnitude? (cs : List Char) : Option Nat :=
  match cs with
  | ['0'] => some 0
  | '0' :: mark :: digits => do valueInBase? (← baseOf? mark) digits
  | cs => valueInBase? 10 cs

/-- The integer that a scalar is written like. -/
def integer? : List Char → Option Int
  | '-' :: cs => (magnitude? cs).map fun n => -(n : Int)
  | '+' :: cs => (magnitude? cs).map fun n => (n : Int)
  | cs => (magnitude? cs).map fun n => (n : Int)

/-- Whether an integer fits in the given number of bits, with a sign if it is negative. -/
def fits (bits : Nat) (n : Int) : Bool :=
  if n < 0 then n.natAbs ≤ Nat.pow 2 (bits - 1) else n.natAbs < Nat.pow 2 bits

/-! ### Floats -/

/-- Whether a scalar has zeros in front of decimal digits and nothing else. -/
def hasLeadingZero (cs : List Char) : Bool :=
  let digits := match cs with
    | '-' :: cs => cs
    | '+' :: cs => cs
    | cs => cs
  match digits with
  | '0' :: c :: cs => (c :: cs).all Char.isDigit
  | _ => false

/-- The float that a scalar is written like. Numbers too large for one are not. -/
def float? (cs : List Char) : Option Float :=
  let text := String.ofList cs
  let unsigned := match cs with
    | '+' :: cs => String.ofList cs
    | _ => text
  if [".inf", ".Inf", ".INF"].contains unsigned then some (1 / 0)
  else if ["-.inf", "-.Inf", "-.INF"].contains text then some (-1 / 0)
  else if [".nan", ".NaN", ".NAN"].contains text then some (0 / 0)
  else (Decimal.read cs).filter Float.isFinite

/-! ### Scalars -/

def isNull (s : String) : Bool := s == "" || ["null", "Null", "NULL", "~"].contains s

def bool? (s : String) : Option Bool :=
  if ["true", "True", "TRUE"].contains s then some true
  else if ["false", "False", "FALSE"].contains s then some false
  else none

/-- The value of an integer that fits in 64 bits. -/
def ofInteger (n : Int) : Option Tree := if fits 64 n then some (.int n) else none

/-- The value of a plain scalar. -/
def ofPlain (s : String) : Option Tree :=
  if isNull s then some .null
  else match bool? s with
    | some b => some (.bool b)
    | none =>
      match (integer? s.toList).filter (fits 128) with
      | some n => ofInteger n
      | none =>
        if hasLeadingZero s.toList then some (.string s)
        else match float? s.toList with
          | some f => some (.float f)
          | none => some (.string s)

/-- The value of a scalar with the tag of a type that every text may use, if it is such a tag. -/
def ofKnownTag (tag : String) (s : String) : Option (Option Tree) :=
  match tag with
  | "tag:yaml.org,2002:bool" => some ((bool? s).map .bool)
  | "tag:yaml.org,2002:int" => some (((integer? s.toList).filter (fits 128)).bind ofInteger)
  | "tag:yaml.org,2002:float" => some ((float? s.toList).map .float)
  | "tag:yaml.org,2002:null" =>
    some (if isNull s && s != "" then some .null else none)
  | _ => none

end Gazetteer.Yaml

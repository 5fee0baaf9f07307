import Gazetteer.Decimal.Nearest
import Gazetteer.Json.Token
import Gazetteer.Tree.Basic

/-! Numbers in TOML.

Underscores may stand between digits. Decimal integers have no zeros in front, hexadecimal, octal
and binary ones no sign, and all fit in 64 bits with a sign. -/
namespace Gazetteer.Toml

/-- Reads the digits after the first of a number. -/
def moreDigits (isDigit : Char → Bool) : List Char → Option (List Char × List Char)
  | [] => some ([], [])
  | ['_'] => none
  | '_' :: c :: cs =>
    if isDigit c then (moreDigits isDigit cs).map fun (ds, rest) => (c :: ds, rest) else none
  | c :: cs =>
    if isDigit c then (moreDigits isDigit cs).map fun (ds, rest) => (c :: ds, rest)
    else some ([], c :: cs)

/-- Reads digits, which begin with one. -/
def readDigits (isDigit : Char → Bool) : List Char → Option (List Char × List Char)
  | c :: cs =>
    if isDigit c then (moreDigits isDigit cs).map fun (ds, rest) => (c :: ds, rest) else none
  | [] => none

/-- Reads a sign, if there is one, and whether it is negative. -/
def readSign : List Char → Bool × List Char
  | '-' :: cs => (true, cs)
  | '+' :: cs => (false, cs)
  | cs => (false, cs)

/-- Reads the digits of a decimal integer. A zero stands alone. -/
def readWhole : List Char → Option (List Char × List Char)
  | '0' :: cs => some (['0'], cs)
  | cs => readDigits Char.isDigit cs

/-! ### Floats -/

/-- Reads an exponent with its letter. -/
def readExponent : List Char → Option (Int × List Char)
  | c :: cs =>
    if c == 'e' || c == 'E' then do
      let (negative, cs) := readSign cs
      let (digits, rest) ← readDigits Char.isDigit cs
      let size : Int := Decimal.digitsValue digits
      return (if negative then -size else size, rest)
    else none
  | [] => none

/-- Reads the part of a float after its whole digits, of which there is at least one. -/
def readFraction : List Char → Option ((List Char × Int) × List Char)
  | '.' :: cs => do
    let (digits, rest) ← readDigits Char.isDigit cs
    match rest with
    | 'e' :: _ => (readExponent rest).map fun (e, rest) => ((digits, e), rest)
    | 'E' :: _ => (readExponent rest).map fun (e, rest) => ((digits, e), rest)
    | rest => return ((digits, 0), rest)
  | cs => (readExponent cs).map fun (e, rest) => (([], e), rest)

/-- Reads infinity or the value that is no number, after its sign. -/
def readSpecial : List Char → Option (Float × List Char)
  | 'i' :: 'n' :: 'f' :: cs => some (1 / 0, cs)
  | 'n' :: 'a' :: 'n' :: cs => some (0 / 0, cs)
  | _ => none

/-- Reads a float. A positive one must not be too large for a float. -/
def readFloat (cs : List Char) : Option (Tree × List Char) := do
  let (negative, cs) := readSign cs
  let signed (f : Float) : Float := if negative then -f else f
  match readSpecial cs with
  | some (f, rest) => return (.float (signed f), rest)
  | none =>
    let (whole, cs) ← readWhole cs
    let ((fraction, exponent), rest) ← readFraction cs
    let f := Decimal.nearest (Decimal.digitsValue (whole ++ fraction)) (exponent - fraction.length)
    if f.isInf && !negative then none
    else return (.float (signed f), rest)

/-! ### Integers -/

/-- The number that digits stand for in a base. -/
def valueInBase (base : Nat) (digits : List Char) : Nat :=
  digits.foldl (fun n c => base * n + (Json.Token.hexDigit? c).getD 0) 0

/-- Whether a character is a digit in a base. -/
def isDigitIn (base : Nat) (c : Char) : Bool := (Json.Token.hexDigit? c).any (· < base)

/-- The value of an integer of at most 64 bits. -/
def ofInteger (n : Int) : Option Tree := if Tree.isSigned64 n then some (.int n) else none

def readInBase (base : Nat) (cs : List Char) : Option (Tree × List Char) := do
  let (digits, rest) ← readDigits (isDigitIn base) cs
  return (← ofInteger (valueInBase base digits), rest)

/-- Reads an integer. -/
def readInteger : List Char → Option (Tree × List Char)
  | '0' :: 'x' :: cs => readInBase 16 cs
  | '0' :: 'o' :: cs => readInBase 8 cs
  | '0' :: 'b' :: cs => readInBase 2 cs
  | cs => do
    let (negative, cs) := readSign cs
    let (digits, rest) ← readWhole cs
    let size : Int := Decimal.digitsValue digits
    return (← ofInteger (if negative then -size else size), rest)

end Gazetteer.Toml

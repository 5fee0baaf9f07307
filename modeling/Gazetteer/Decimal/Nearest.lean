import Gazetteer.Decimal.Power

/-! The floating-point number nearest to a decimal.

A decimal stands for a quotient of two whole numbers. The nearest number is found in exact
arithmetic: the quotient is scaled so that its whole part has 53 binary digits, and rounded
there, a tie going to the even neighbour. -/
namespace Gazetteer.Decimal

/-- The quotient rounded to the nearest whole number, a tie to the even one. -/
def roundDiv (num den : Nat) : Nat :=
  let q := num / den
  let r := num % den
  if 2 * r < den then q
  else if den < 2 * r then q + 1
  else if q % 2 == 0 then q else q + 1

/-- The least exponent of a number's last binary digit. -/
def leastExponent : Int := -1074

/-- The bits of infinity. -/
def infinityBits : Nat := 2047 * power 2 52

/-- The power of two of the leading binary digit of a positive quotient. -/
def leadingExponent (num den : Nat) : Int :=
  let e : Int := (num.log2 : Int) - den.log2
  if num * power 2 (-e) < den * power 2 e then e - 1 else e

/-- The bits of the positive number nearest to a quotient. Quotients beyond the largest number
give the bits of infinity. -/
def nearestBits (num den : Nat) : Nat :=
  if num == 0 then 0
  else
    let last := max (leadingExponent num den - 52) leastExponent
    let q := roundDiv (num * power 2 (-last)) (den * power 2 last)
    min ((last - leastExponent).toNat * power 2 52 + q) infinityBits

/-- The number nearest to `digits * 10 ^ exponent`. Exponents far beyond the range of numbers
are settled without computing their power. -/
def nearest (digits : Nat) (exponent : Int) : Float :=
  let size : Int := (toString digits).length + exponent
  let bits :=
    if digits == 0 || size < -400 then 0
    else if 400 < size then infinityBits
    else nearestBits (digits * power 10 exponent) (power 10 (-exponent))
  Float.ofBits (.ofNat bits)

/-! ### Reading -/

/-- The number that a sequence of digits stands for. -/
def digitsValue (digits : List Char) : Nat :=
  digits.foldl (fun n c => 10 * n + (c.toNat - '0'.toNat)) 0

/-- Reads an exponent after its letter: digits, with or without a sign. -/
def readExponent (cs : List Char) : Option Int :=
  let (negative, digits) := match cs with
    | '-' :: cs => (true, cs)
    | '+' :: cs => (false, cs)
    | cs => (false, cs)
  if digits.isEmpty || !digits.all Char.isDigit then none
  else
    let size : Int := digitsValue digits
    some (if negative then -size else size)

/-- Reads a decimal without a sign: digits, at least one of them, with at most one point
among them or at an end, and possibly an exponent. -/
def readUnsigned (cs : List Char) : Option Float := do
  let whole := cs.takeWhile Char.isDigit
  let rest := cs.dropWhile Char.isDigit
  let (fraction, rest) := match rest with
    | '.' :: rest => (rest.takeWhile Char.isDigit, rest.dropWhile Char.isDigit)
    | rest => ([], rest)
  if whole.isEmpty && fraction.isEmpty then none
  else
    let exponent ← match rest with
      | [] => some 0
      | c :: rest => if c == 'e' || c == 'E' then readExponent rest else none
    return nearest (digitsValue (whole ++ fraction)) (exponent - fraction.length)

/-- Reads a decimal, with or without a sign. -/
def read : List Char → Option Float
  | '-' :: cs => (readUnsigned cs).map fun f => -f
  | '+' :: cs => readUnsigned cs
  | cs => readUnsigned cs

end Gazetteer.Decimal

import Gazetteer.Decimal.Power

/-! The shortest decimal of a floating-point number.

A finite number stands for all reals that round to it. Its shortest decimal is the one in that
interval with the fewest digits, and among those the nearest to the number. The search walks
down the powers of ten: on the first grid with a point in the interval one of the two
neighbours of the number is such a point. All arithmetic is on whole numbers. -/
namespace Gazetteer.Decimal

/-- The decimal `digits * 10 ^ exponent`. -/
structure Scaled where
  digits : Nat
  exponent : Int
  deriving Repr, DecidableEq

/-- A positive binary number `mantissa * 2 ^ exponent`, with what bounds its interval. -/
structure Binary where
  mantissa : Nat
  exponent : Int
  /-- Whether the number below is only half as far away as the number above. -/
  narrowBelow : Bool
  deriving Repr, DecidableEq

namespace Binary

/-- The magnitude of a number with the given bits. -/
def ofBits (bits : Nat) : Binary :=
  let fraction : Nat := bits % power 2 52
  let field : Nat := bits / power 2 52 % power 2 11
  if field == 0 then ⟨fraction, -1074, false⟩
  else ⟨power 2 52 + fraction, (field : Int) - 1075, fraction == 0 && 1 < field⟩

/-- A point of the grid of multiples of `10 ^ k` in the interval, the nearer one if there are
two, the even one if both are equally near. -/
def onGrid (b : Binary) (k : Int) : Option Nat :=
  let scale := power 2 (b.exponent - 2) * power 10 (-k)
  let unit := power 2 (2 - b.exponent) * power 10 k
  let middle := 4 * b.mantissa * scale
  let low := (4 * b.mantissa - (if b.narrowBelow then 1 else 2)) * scale
  let high := (4 * b.mantissa + 2) * scale
  let isEven := b.mantissa % 2 == 0
  let inside (d : Nat) : Bool :=
    0 < d && (low < d * unit || (isEven && low == d * unit)) &&
      (d * unit < high || (isEven && d * unit == high))
  let below := middle / unit
  let above := below + 1
  match inside below, inside above with
  | true, true =>
    let toBelow := middle - below * unit
    let toAbove := above * unit - middle
    some (if toBelow < toAbove || (toBelow == toAbove && below % 2 == 0) then below else above)
  | true, false => some below
  | false, true => some above
  | false, false => none

/-- Tries the grids from `10 ^ k` downwards. -/
def search (b : Binary) : Nat → Int → Scaled
  | 0, k => ⟨b.mantissa, k⟩
  | fuel + 1, k =>
    match b.onGrid k with
    | some digits => ⟨digits, k⟩
    | none => search b fuel (k - 1)

def shortest (b : Binary) : Scaled := b.search 650 310

end Binary

/-! ### Text -/

/-- How an exponent is written where one is needed. -/
structure Style where
  /-- What stands before an exponent that is not negative. -/
  plus : String
  /-- The least number of digits of an exponent. -/
  width : Nat
  deriving Repr, DecidableEq

/-- A positive decimal as text. Exponents from -5 to 15 are written out, and a decimal point
always shows that the number is no integer. -/
def Scaled.text (style : Style) (s : Scaled) : String :=
  let digits := toString s.digits
  let count : Int := digits.length
  let point := s.exponent + count
  let zeros (n : Int) : String := .ofList (List.replicate n.toNat '0')
  if 0 ≤ s.exponent && point ≤ 16 then digits ++ zeros s.exponent ++ ".0"
  else if 0 < point && point ≤ 16 then
    .ofList (digits.toList.take point.toNat) ++ "." ++ .ofList (digits.toList.drop point.toNat)
  else if -5 < point && point ≤ 0 then "0." ++ zeros (-point) ++ digits
  else
    let exponent := point - 1
    let size := toString exponent.natAbs
    let mantissa := if count == 1 then digits
      else .ofList (digits.toList.take 1) ++ "." ++ .ofList (digits.toList.drop 1)
    mantissa ++ "e" ++ (if exponent < 0 then "-" else style.plus) ++
      zeros (style.width - size.length) ++ size

/-- A finite number as text. -/
def floatText (style : Style) (f : Float) : String :=
  let bits := f.toBits.toNat
  let sign := if bits / power 2 63 == 1 then "-" else ""
  let b := Binary.ofBits bits
  if b.mantissa == 0 then sign ++ "0.0" else sign ++ b.shortest.text style

end Gazetteer.Decimal

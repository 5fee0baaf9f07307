/-! Powers with whole exponents of either sign.

A factor `base ^ e` of a quotient is a power above the line or, for a negative exponent, one
below it. Both are taken every time; the one that is not needed is one. -/
namespace Gazetteer.Decimal

/-- The power, or one if the exponent is negative. -/
def power (base : Nat) (exponent : Int) : Nat := Nat.pow base exponent.toNat

@[simp] theorem power_zero (base : Nat) : power base 0 = 1 := rfl

@[simp] theorem power_natCast (base n : Nat) : power base n = Nat.pow base n := rfl

end Gazetteer.Decimal

set_option autoImplicit false

/-! The exact rational number that a binary floating-point number stands for. -/
namespace JourneyPlanner.Number

/-- The fraction times two to the exponent, signed. -/
def scaled (negative : Bool) (fraction : Nat) (exponent : Int) : Rat :=
  let size : Rat :=
    if exponent < 0 then mkRat fraction (Nat.pow 2 exponent.natAbs)
    else (fraction * Nat.pow 2 exponent.natAbs : Nat)
  if negative then -size else size

theorem scaled_zero (exponent : Int) : scaled false 0 exponent = 0 := by
  unfold scaled
  split <;> simp

/-- The weight of the bit that holds the sign. -/
def signBit : Nat := 9223372036854775808

/-- One more than the greatest fraction of fifty-two bits. -/
def fractions : Nat := 4503599627370496

/-- Infinities and the undefined number stand for no rational number. -/
def rational? (x : Float) : Option Rat :=
  let bits := x.toBits.toNat
  let negative := bits / signBit == 1
  let exponent : Nat := bits / fractions % 2048
  let fraction : Nat := bits % fractions
  if exponent = 2047 then none
  else if exponent = 0 then some (scaled negative fraction (-1074))
  else some (scaled negative (fractions + fraction) ((exponent : Int) - 1075))

end JourneyPlanner.Number

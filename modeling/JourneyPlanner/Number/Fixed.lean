import JourneyPlanner.Text.Digits

set_option autoImplicit false

/-! Numbers written with a fixed count of decimal places. -/
namespace JourneyPlanner.Number

/-- The quotient rounded to the nearest whole number; a tie goes to the even neighbour. -/
def roundHalfEven (numerator denominator : Nat) : Nat :=
  let quotient := numerator / denominator
  let twice := 2 * (numerator % denominator)
  if twice < denominator then quotient
  else if denominator < twice then quotient + 1
  else quotient + quotient % 2

/-- The quotient by ten rounded to the nearest whole number; a half goes away from zero. -/
def tenthRounded (n : Int) : Int :=
  if n < 0 then -(((n.natAbs + 5) / 10 : Nat) : Int) else (((n.natAbs + 5) / 10 : Nat) : Int)

/-- `units` parts of which ten to the power `places` make one. -/
def placed (places : Nat) (negative : Bool) (units : Nat) : String :=
  let whole := Text.digits (units / Nat.pow 10 places)
  let part := Text.paddedDigits places (units % Nat.pow 10 places)
  String.ofList ((if negative then ['-'] else []) ++ whole ++ '.' :: part)

/-- A rational number to the nearest of the numbers with that many places. -/
def fixed (places : Nat) (value : Rat) : String :=
  placed places (value < 0) (roundHalfEven (value.num.natAbs * Nat.pow 10 places) value.den)

end JourneyPlanner.Number

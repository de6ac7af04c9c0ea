set_option autoImplicit false

/-! Sets of characters given by the ranges of their code points. -/
namespace JourneyPlanner.Text

/-- Each pair holds the first and the last code point of a range. -/
abbrev CharRanges := List (Nat × Nat)

def CharRanges.contains (ranges : CharRanges) (c : Char) : Bool :=
  ranges.any fun range => range.1 ≤ c.toNat && c.toNat ≤ range.2

end JourneyPlanner.Text

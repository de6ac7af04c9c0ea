import JourneyPlanner.Selection

set_option autoImplicit false

/-! What values feed to a hash function, one after the other. -/
namespace JourneyPlanner

inductive HashInput where
  /-- Which of several alternatives a value is. -/
  | choice (number : Nat)
  | number (value : Int)
  | text (value : String)
  deriving DecidableEq, Repr

namespace HashInput

/-- A value of a listed kind feeds its place in the list. -/
def ofListed {α : Type} [DecidableEq α] [Listed α] (a : α) : HashInput :=
  .choice ((Listed.all : List α).idxOf a)

/-- What may be absent feeds whether it is there, and then itself. -/
def ofOptional {α : Type} (inputs : α → List HashInput) : Option α → List HashInput
  | none => [.choice 0]
  | some a => .choice 1 :: inputs a

end HashInput

end JourneyPlanner

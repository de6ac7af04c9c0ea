import JourneyPlanner.Trip.Basic

set_option autoImplicit false

/-!
Trips repaired by delay: a way of one's own that would begin before the leg ahead of it has arrived
begins when that leg arrives, and takes as long as before. Rides stay as they are.
-/
namespace JourneyPlanner

namespace Leg

/-- The leg, not before `ready`. There is no result where the delay leaves the calendar. -/
def delayedTo? (ready : Instant) : Leg → Option Leg
  | .own leg =>
      if leg.departureTime < ready then (leg.movedTo? ready).map .own else some (.own leg)
  | .ride leg => some (.ride leg)

/-- The legs after one that arrives at `ready`, each after the one before. -/
def delayedFrom? (ready : Instant) : List Leg → Option (List Leg)
  | [] => some []
  | leg :: rest => do
      let moved ← leg.delayedTo? ready
      let others ← delayedFrom? moved.arrivalTime rest
      return moved :: others

end Leg

namespace Trip

/-- The trip with every way of one's own after the first leg delayed as far as it must be. -/
def repaired? (t : Trip) : Option Trip :=
  match t.legs with
  | [] => none
  | first :: rest =>
      (Leg.delayedFrom? first.arrivalTime rest).map fun others =>
        { t with legs := first :: others, nonempty := by simp }

end Trip

end JourneyPlanner

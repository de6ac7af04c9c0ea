import Mathlib
import JourneyPlanner.Proofs.Search.Journey
import JourneyPlanner.Proofs.Trip.Keys

set_option autoImplicit false

/-!
The keys of the legs that show a journey. The key of a ride tells its stations and seconds where no
dash stands in the keys of the stations.
-/
namespace JourneyPlanner

namespace Leg

variable {leg other : PublicLeg} {r q : Ride}

theorem plan?_of_tells (tells : leg.Tells r) :
    (ride leg).plan? = some
      { departure := some r.board.departure
        arrival := some r.alight.arrival
        product := r.service.line.product
        label := r.service.line.label } := by
  change some (RidePlan.mk leg.departureStop.departure.planned leg.arrivalStop.arrival.planned
    leg.line.product leg.line.label) = _
  rw [tells.departureStop, tells.arrivalStop, tells.line]
  rfl

theorem bar_not_mem_key_of_tells (tells : leg.Tells r)
    (board : '|' ∉ r.board.station.location.key.toList)
    (alight : '|' ∉ r.alight.station.location.key.toList)
    (label : '|' ∉ (r.service.line.label.getD "").toList) : '|' ∉ (ride leg).key.toList := by
  apply bar_not_mem_key
  · rw [tells.departure]
    exact board
  · rw [tells.arrival]
    exact alight
  · intro plan known
    rw [plan?_of_tells tells] at known
    cases known
    exact label

theorem bar_not_mem_key_of_walk {walk : IndividualLeg}
    (departure : '|' ∉ walk.departure.key.toList) (arrival : '|' ∉ walk.arrival.key.toList) :
    '|' ∉ (own walk).key.toList := by
  have label : ∀ plan ∈ (own walk).plan?, '|' ∉ (plan.label.getD "").toList := by
    intro plan known
    cases known
  exact bar_not_mem_key departure arrival label

/-- Rides of one key run between stations of the same keys, within the same seconds. -/
theorem eq_of_ride_keys (tells : leg.Tells r) (tellsToo : other.Tells q)
    (same : (ride leg).key = (ride other).key)
    (board : '-' ∉ r.board.station.location.key.toList)
    (boardToo : '-' ∉ q.board.station.location.key.toList)
    (alight : '-' ∉ r.alight.station.location.key.toList)
    (alightToo : '-' ∉ q.alight.station.location.key.toList) :
    r.board.station.location.key = q.board.station.location.key ∧
      r.alight.station.location.key = q.alight.station.location.key ∧
      r.board.departure.second = q.board.departure.second ∧
      r.alight.arrival.second = q.alight.arrival.second := by
  have boards := Text.apart_of_dashless board boardToo
  have alights := Text.apart_of_dashless alight alightToo
  rw [← tells.departure, ← tellsToo.departure] at boards
  rw [← tells.arrival, ← tellsToo.arrival] at alights
  have outlines := outline_eq_of_key boards alights same
  have plans : (ride leg).plan?.map RidePlan.written = (ride other).plan?.map RidePlan.written :=
    congrArg Outline.plan outlines
  rw [plan?_of_tells tells, plan?_of_tells tellsToo] at plans
  have seconds : [r.board.departure.second, r.alight.arrival.second] =
      [q.board.departure.second, q.alight.arrival.second] :=
    congrArg WrittenPlan.seconds (Option.some.inj plans)
  rw [← tells.departure, ← tellsToo.departure, ← tells.arrival, ← tellsToo.arrival]
  exact ⟨congrArg Outline.departure outlines, congrArg Outline.arrival outlines,
    (List.cons.inj seconds).1, (List.cons.inj (List.cons.inj seconds).2).1⟩

end Leg

end JourneyPlanner

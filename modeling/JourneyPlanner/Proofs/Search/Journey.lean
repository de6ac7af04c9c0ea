import Mathlib.Data.List.Chain
import JourneyPlanner.Proofs.Search.Feasible
import JourneyPlanner.Proofs.Time.Shifting
import JourneyPlanner.Timetable.Connection

set_option autoImplicit false

/-!
What makes a trip a journey over a timetable: each ride is a stretch of a service, each walk takes
its time, and every leg goes on from where the one before it ended. Such trips can be travelled.
-/
namespace JourneyPlanner

/-- The leg shows a ride as it is planned, with the calls in between as its stops. -/
structure PublicLeg.Tells (leg : PublicLeg) (r : Ride) : Prop where
  line : leg.line = r.service.line
  destination : leg.destination = r.service.destination
  departureStop : leg.departureStop = Ride.stopAt r.board false true
  arrivalStop : leg.arrivalStop = Ride.stopAt r.alight true false
  intermediateStops : leg.intermediateStops = r.between.map fun call => Ride.stopAt call true true
  departs : leg.departureTime false = r.board.departure
  arrives : leg.arrivalTime false = r.alight.arrival

/-- A walk takes the time that its metres take at the speed chosen. Measured as a duration it may be
a second shorter where it begins or ends in a leap second. -/
structure Search.Lasts (s : Search) (walk : IndividualLeg) : Prop where
  kind : walk.kind = .walk
  moved : walk.departureTime.shift? (s.walkSpeed.walkTime walk.meters) = some walk.arrivalTime ∨
    walk.arrivalTime.shift? (-(s.walkSpeed.walkTime walk.meters)) = some walk.departureTime
  duration : walk.duration = s.walkSpeed.walkTime walk.meters ∨
    (walk.departureTime.isLeap = true ∨ walk.arrivalTime.isLeap = true) ∧
      walk.duration = s.walkSpeed.walkTime walk.meters - 1000000000

/-- The second time leaves what a change takes at least after the first. Measured as a span this
holds where neither lies in a leap second. -/
structure Timetable.AllowsChange (tt : Timetable) (arrival departure : Instant) : Prop where
  inTime : ∃ ready, arrival.shift? tt.minChange = some ready ∧ ready ≤ departure
  span : arrival.isLeap = false → departure.isLeap = false →
    tt.minChange ≤ arrival.spanTo departure

/-- A leg goes on where the one before it ended: with time for the change between two rides, and at
once between a ride and a walk. -/
def Leg.GoesOn (tt : Timetable) (before after : Leg) : Prop :=
  before.arrival = after.departure ∧
    match before, after with
    | .ride _, .ride _ => tt.AllowsChange before.arrivalTime after.departureTime
    | _, _ => before.arrivalTime = after.departureTime

/-- A ride that may be used, or a walk. -/
def Leg.IsPartOf (s : Search) (tt : Timetable) : Leg → Prop
  | .ride leg => ∃ r : Ride, r.RunsIn tt ∧ s.usable r.service = true ∧ leg.Tells r
  | .own walk => s.Lasts walk

/-- A trip that can be made as it is shown. -/
structure Search.Journey (s : Search) (tt : Timetable) (t : Trip) : Prop where
  departs : t.firstLeg.departure = s.origin.location
  arrives : t.lastLeg.arrival = s.destination.location
  parts : ∀ leg ∈ t.legs, leg.IsPartOf s tt
  chained : t.legs.IsChain (Leg.GoesOn tt)
  changes : ∃ n, t.numChanges = some n ∧ t.rides.length = n.toNat + 1 ∧ n.toNat ≤ 1
  via : ∀ via, s.via = some via → ∃ leg r, Leg.ride leg ∈ t.legs ∧ r.RunsIn tt ∧ leg.Tells r ∧
    ∃ call ∈ r.calls, ∃ access ∈ via.accesses, call.station = access.station
  travelable : t.isTravelable = true

/-- What stands around the rides of a trip is none of them. -/
theorem Leg.filterMap_ride?_between {front back : List Leg} (before : front.filterMap ride? = [])
    (after : back.filterMap ride? = []) (legs : List PublicLeg) :
    (front ++ legs.map ride ++ back).filterMap ride? = legs := by
  rw [List.filterMap_append, List.filterMap_append, before, after, List.nil_append,
    List.append_nil, List.filterMap_map]
  exact List.filterMap_some

namespace PublicLeg.Tells

variable {leg : PublicLeg} {r : Ride}

theorem departure (tells : leg.Tells r) : (Leg.ride leg).departure = r.board.station.location := by
  change leg.departureStop.location = _
  rw [tells.departureStop]
  rfl

theorem arrival (tells : leg.Tells r) : (Leg.ride leg).arrival = r.alight.station.location := by
  change leg.arrivalStop.location = _
  rw [tells.arrivalStop]
  rfl

end PublicLeg.Tells

namespace Ride

/-- A ride that does not run back in time makes a leg. -/
theorem exists_leg {r : Ride} (forward : r.board.departure ≤ r.alight.arrival) :
    ∃ leg, r.leg = .ok leg ∧ leg.Tells r := by
  have departs : ((stopAt r.board false true).departure.time false).isSome = true := rfl
  have arrives : ((stopAt r.alight true false).arrival.time false).isSome = true := rfl
  have order : plansForward (stopAt r.board false true).departure.planned
      (stopAt r.alight true false).arrival.planned = true := decide_eq_true forward
  unfold leg PublicLeg.ofStops
  rw [dif_pos departs, dif_pos arrives, dif_pos order]
  exact ⟨_, rfl, rfl, rfl, rfl, rfl, rfl, rfl, rfl⟩

end Ride

namespace Search

variable {s : Search} {tt : Timetable}

theorem lasts_forth {walk : IndividualLeg} (kind : walk.kind = .walk)
    (moved : walk.departureTime.shift? (s.walkSpeed.walkTime walk.meters) =
      some walk.arrivalTime) : s.Lasts walk := by
  refine ⟨kind, .inl moved, ?_⟩
  rw [WalkSpeed.walkTime_eq] at moved ⊢
  exact (Instant.spanTo_of_shift? moved).imp id fun ⟨leap, span⟩ => ⟨.inl leap, span⟩

theorem lasts_back {walk : IndividualLeg} (kind : walk.kind = .walk)
    (moved : walk.arrivalTime.shift? (-(s.walkSpeed.walkTime walk.meters)) =
      some walk.departureTime) : s.Lasts walk := by
  refine ⟨kind, .inr moved, ?_⟩
  rw [WalkSpeed.walkTime_eq] at moved ⊢
  exact (Instant.spanTo_of_shift?_back moved).imp id fun ⟨leap, span⟩ => ⟨.inr leap, span⟩

theorem Lasts.forward {walk : IndividualLeg} (lasts : s.Lasts walk) :
    walk.departureTime ≤ walk.arrivalTime := by
  have nonneg := s.walkSpeed.walkTime_nonneg walk.meters
  rcases lasts.moved with forth | back
  · exact Instant.le_of_shift? forth nonneg
  · exact Instant.shift?_le back (by omega)

end Search

namespace Leg

variable {s : Search} {tt : Timetable} {a b : Leg}

theorem served_of_isPartOf (sound : tt.Sound) (part : a.IsPartOf s tt) :
    Trip.isServed a = true ∧ a.departureTime ≤ a.arrivalTime := by
  cases a with
  | ride leg =>
    obtain ⟨r, runs, -, tells⟩ := part
    refine ⟨?_, ?_⟩
    · rw [Trip.isServed, tells.departureStop, tells.arrivalStop]
      rfl
    · change leg.departureTime false ≤ leg.arrivalTime false
      rw [tells.departs, tells.arrives]
      exact runs.forward sound
  | own walk => exact ⟨rfl, Search.Lasts.forward part⟩

theorem GoesOn.inOrder (goesOn : a.GoesOn tt b) (sound : tt.Sound) :
    a.arrivalTime ≤ b.departureTime := by
  obtain ⟨-, times⟩ := goesOn
  cases a with
  | ride before =>
    cases b with
    | ride after =>
      obtain ⟨ready, shifted, inTime⟩ := times.inTime
      exact Instant.le_trans (Instant.le_of_shift? shifted sound.minChange_nonneg) inTime
    | own walk =>
      rw [times]
      exact Instant.le_refl _
  | own walk =>
    rw [times]
    exact Instant.le_refl _

end Leg

namespace Trip

variable {s : Search} {tt : Timetable}

/-- By induction on the legs, each of which is ready for what the next one needs. -/
theorem legsTravelable_of_chain (sound : tt.Sound) (legs : List Leg)
    (parts : ∀ leg ∈ legs, leg.IsPartOf s tt) (chained : legs.IsChain (Leg.GoesOn tt))
    (ready : Option Instant) (inTime : ∀ leg ∈ legs.head?, ready.all (· ≤ leg.departureTime)) :
    legsTravelable ready legs = true := by
  induction legs generalizing ready with
  | nil => rfl
  | cons leg rest ih =>
    obtain ⟨served, forward⟩ := Leg.served_of_isPartOf sound (parts leg List.mem_cons_self)
    obtain ⟨following, chained⟩ := List.isChain_cons.mp chained
    have onward := ih (fun other mem => parts other (List.mem_cons_of_mem leg mem)) chained
      (some leg.arrivalTime) fun other mem => by
        rw [Option.all_some, decide_eq_true_iff]
        exact (following other mem).inOrder sound
    rw [legsTravelable, served, inTime leg rfl, decide_eq_true forward, onward]
    rfl

end Trip

end JourneyPlanner

import JourneyPlanner.Proofs.Search.Explored

set_option autoImplicit false

/-!
Journeys that can be made over a timetable, whether or not the search finds them; what it finds is
among them.
-/
namespace JourneyPlanner

theorem Place.is_comm (p q : Place) : p.is q = q.is p := by
  rw [Place.is, Place.is, decide_eq_decide]
  exact eq_comm

namespace Endpoint

variable {e : Endpoint} {station : Place} {access : Access}

theorem mem_of_access? (found : e.access? station = some access) :
    access ∈ e.accesses ∧ access.station.is station = true :=
  List.mem_filter.mp (List.mem_of_mem_getLast? found)

theorem access?_isSome (mem : access ∈ e.accesses) (reached : station.is access.station = true) :
    (e.access? station).isSome = true := by
  have same : access.station.is station = true := by
    rw [Place.is_comm]
    exact reached
  have inside : access ∈ e.accesses.filter fun other => other.station.is station :=
    List.mem_filter.mpr ⟨mem, same⟩
  exact List.getLast?_isSome.mpr (List.ne_nil_of_mem inside)

end Endpoint

namespace Itinerary

variable {it : Itinerary} {second : Ride}

theorem lastRide_of_none (change : it.second = none) : it.lastRide = it.first := by
  rw [lastRide, change, Option.getD_none]

theorem lastRide_of_some (change : it.second = some second) : it.lastRide = second := by
  rw [lastRide, change, Option.getD_some]

end Itinerary

namespace Search

variable {s : Search} {tt : Timetable} {b : Boarding} {ride : Ride} {next : Ride × Access}

/-- The second ride goes on from where the first one ends, on another service and with time for the
change. -/
structure Connects (s : Search) (tt : Timetable) (first second : Ride) : Prop where
  runs : second.RunsIn tt
  usable : s.usable second.service = true
  other : second.service ≠ first.service
  station : second.board.station.is first.alight.station = true
  inTime : ∃ ready, first.alight.arrival.shift? tt.minChange = some ready ∧
    ready ≤ second.board.departure

/-- A journey that can be made: rides of the timetable from a station of the origin to one of the
destination, with the walks at both ends. -/
structure Feasible (s : Search) (tt : Timetable) (it : Itinerary) : Prop where
  start_mem : it.start ∈ s.origin.accesses
  finish_mem : it.finish ∈ s.destination.accesses
  runs : it.first.RunsIn tt
  usable : s.usable it.first.service = true
  boards : it.first.board.station.is it.start.station = true
  connects : ∀ second, it.second = some second → s.Connects tt it.first second
  alights : it.lastRide.alight.station.is it.finish.station = true
  departs : it.first.board.departure.shift? (-(s.walkSpeed.walkTime it.start.meters)) =
    some it.departure
  arrives : it.lastRide.alight.arrival.shift? (s.walkSpeed.walkTime it.finish.meters) =
    some it.arrival

theorem Feasible.lastRide_runs {it : Itinerary} (feasible : s.Feasible tt it) :
    it.lastRide.RunsIn tt := by
  cases change : it.second with
  | none =>
    rw [Itinerary.lastRide_of_none change]
    exact feasible.runs
  | some second =>
    rw [Itinerary.lastRide_of_some change]
    exact (feasible.connects second change).runs

theorem Feasible.made {it : Itinerary} (feasible : s.Feasible tt it) :
    s.itinerary? it.start it.first it.second it.finish = some it := by
  have departs := feasible.departs
  have arrives := feasible.arrives
  rw [Itinerary.lastRide] at arrives
  rw [itinerary?, departs, arrives]
  rfl

theorem feasible_of_direct {start finish : Access} {it : Itinerary}
    (begun : start ∈ s.origin.accesses) (ended : finish ∈ s.destination.accesses)
    (boarded : b ∈ tt.boardingsAt start.station) (usable : s.usable b.service = true)
    (rode : ride ∈ b.rides) (reached : ride.alight.station.is finish.station = true)
    (made : s.itinerary? start ride none finish = some it) : s.Feasible tt it := by
  obtain ⟨runs, owner, boards⟩ := Boarding.runsIn_of_mem_rides boarded rode
  obtain ⟨departure, arrival, departs, arrives, rfl⟩ := itinerary?_eq_some made
  refine ⟨begun, ended, runs, ?_, boards, fun second change => ?_, reached, departs, arrives⟩
  · rw [owner]
    exact usable
  · cases change

/-- The journeys without a change, whether or not the search finds them. -/
def directs (s : Search) (tt : Timetable) : List Itinerary :=
  s.origin.accesses.flatMap fun start =>
    ((tt.boardingsAt start.station).filter fun b => s.usable b.service).flatMap fun b =>
      b.rides.flatMap fun ride =>
        (s.destination.accesses.filter fun finish =>
          ride.alight.station.is finish.station).filterMap fun finish =>
            s.itinerary? start ride none finish

theorem feasible_of_mem_directs {it : Itinerary} (mem : it ∈ s.directs tt) : s.Feasible tt it := by
  obtain ⟨start, begun, mem⟩ := List.mem_flatMap.mp mem
  obtain ⟨b, boarded, mem⟩ := List.mem_flatMap.mp mem
  obtain ⟨ride, rode, mem⟩ := List.mem_flatMap.mp mem
  obtain ⟨finish, ended, made⟩ := List.mem_filterMap.mp mem
  obtain ⟨boarded, usable⟩ := List.mem_filter.mp boarded
  obtain ⟨ended, reached⟩ := List.mem_filter.mp ended
  exact feasible_of_direct begun ended boarded usable rode reached made

theorem directRide?_eq_some (rode : s.directRide? b = some next) :
    next.1 ∈ b.rides ∧ s.destination.access? next.1.alight.station = some next.2 := by
  obtain ⟨before, ride, after, split, reached, -⟩ := List.findSome?_eq_some_iff.mp rode
  obtain ⟨access, found, rfl⟩ := Option.map_eq_some_iff.mp reached
  refine ⟨?_, found⟩
  rw [split]
  exact List.mem_append_right before List.mem_cons_self

theorem mem_rides_of_mem_ridesBefore (rode : ride ∈ s.ridesBefore b) : ride ∈ b.rides :=
  (List.takeWhile_sublist _).subset rode

theorem connects_of_mem_connections {ready : Instant} {onward : Boarding}
    (arrived : ride.alight.arrival.shift? tt.minChange = some ready)
    (connected : onward ∈ s.connections tt ride ready) {second : Ride}
    (rode : second ∈ onward.rides) : s.Connects tt ride second := by
  obtain ⟨boarded, conditions⟩ := List.mem_filter.mp connected
  simp only [Bool.and_eq_true, decide_eq_true_eq] at conditions
  obtain ⟨⟨other, inTime⟩, usable⟩ := conditions
  obtain ⟨runs, owner, boards⟩ := Boarding.runsIn_of_mem_rides boarded rode
  obtain ⟨between, alight, after, -, shape⟩ := Boarding.mem_rides.mp rode
  refine ⟨runs, ?_, fun same => other ?_, boards, ready, arrived, ?_⟩
  · rw [owner]
    exact usable
  · rw [← owner, same]
  · rw [shape]
    exact inTime

/-- The search makes nothing that cannot be made. -/
theorem Explored.feasible {it : Itinerary} (explored : s.Explored tt it) : s.Feasible tt it := by
  cases explored with
  | direct begun boarded usable rode made =>
    obtain ⟨taken, reached⟩ := directRide?_eq_some rode
    obtain ⟨ended, there⟩ := Endpoint.mem_of_access? reached
    rw [Place.is_comm] at there
    exact feasible_of_direct begun ended boarded usable taken there made
  | changing begun boarded usable rode arrived connected rodeOn made =>
    obtain ⟨taken, reached⟩ := directRide?_eq_some rodeOn
    obtain ⟨ended, there⟩ := Endpoint.mem_of_access? reached
    rw [Place.is_comm] at there
    obtain ⟨runs, owner, boards⟩ :=
      Boarding.runsIn_of_mem_rides boarded (mem_rides_of_mem_ridesBefore rode)
    obtain ⟨departure, arrival, departs, arrives, rfl⟩ := itinerary?_eq_some made
    refine ⟨begun, ended, runs, ?_, boards, fun second change => ?_, there, departs, arrives⟩
    · rw [owner]
      exact usable
    · cases change
      exact connects_of_mem_connections arrived connected taken

end Search

end JourneyPlanner

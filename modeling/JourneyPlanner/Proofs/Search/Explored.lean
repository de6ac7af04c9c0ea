import JourneyPlanner.Proofs.Fallible
import JourneyPlanner.Proofs.Timetable.Riding

set_option autoImplicit false

/-!
Which itineraries a search explores. The nested loops of the search come to two kinds of
itineraries, direct ones and those with a change, and where there is a result each of them was made.
-/
namespace JourneyPlanner

namespace Search

variable {s : Search} {tt : Timetable} {start : Access} {b onward : Boarding} {ride : Ride}
  {next : Ride × Access} {ready : Instant} {it : Itinerary} {its : List Itinerary}

/-- What the search makes on its way: rides straight to where the destination is in reach, and rides
to a station before, from which another service goes there. -/
inductive Explored (s : Search) (tt : Timetable) : Itinerary → Prop where
  | direct {start : Access} {b : Boarding} {next : Ride × Access} {it : Itinerary}
      (begun : start ∈ s.origin.accesses) (boarded : b ∈ tt.boardingsAt start.station)
      (usable : s.usable b.service = true) (rode : s.directRide? b = some next)
      (made : s.itinerary? start next.1 none next.2 = some it) : Explored s tt it
  | changing {start : Access} {b onward : Boarding} {ride : Ride} {ready : Instant}
      {next : Ride × Access} {it : Itinerary}
      (begun : start ∈ s.origin.accesses) (boarded : b ∈ tt.boardingsAt start.station)
      (usable : s.usable b.service = true) (rode : ride ∈ s.ridesBefore b)
      (arrived : ride.alight.arrival.shift? tt.minChange = some ready)
      (connected : onward ∈ s.connections tt ride ready) (rodeOn : s.directRide? onward = some next)
      (made : s.itinerary? start ride (some next.1) next.2 = some it) : Explored s tt it

theorem changing?_eq_some (found : s.changing? tt start ride = some its) :
    ∃ ready, ride.alight.arrival.shift? tt.minChange = some ready ∧
      ((s.connections tt ride ready).filterMap s.directRide?).mapM
        (fun next => s.itinerary? start ride (some next.1) next.2) = some its :=
  Option.bind_eq_some_iff.mp found

theorem boarding?_eq_some (found : s.boarding? tt start b = some its) :
    ∃ changed direct, (s.ridesBefore b).mapM (s.changing? tt start) = some changed ∧
      (s.directRide? b).toList.mapM (fun next => s.itinerary? start next.1 none next.2) =
        some direct ∧ its = changed.flatten ++ direct := by
  obtain ⟨changed, first, found⟩ := Option.bind_eq_some_iff.mp found
  obtain ⟨direct, second, found⟩ := Option.bind_eq_some_iff.mp found
  cases found
  exact ⟨changed, direct, first, second, rfl⟩

theorem starting?_eq_some (found : s.starting? tt start = some its) :
    ∃ parts, ((tt.boardingsAt start.station).filter fun b => s.usable b.service).mapM
      (s.boarding? tt start) = some parts ∧ its = parts.flatten := by
  obtain ⟨parts, first, found⟩ := Option.bind_eq_some_iff.mp found
  cases found
  exact ⟨parts, first, rfl⟩

theorem itineraries?_eq_some (found : s.itineraries? tt = some its) :
    ∃ parts, s.origin.accesses.mapM (s.starting? tt) = some parts ∧
      its = parts.flatten.filter s.passesVia := by
  obtain ⟨parts, first, found⟩ := Option.bind_eq_some_iff.mp found
  cases found
  exact ⟨parts, first, rfl⟩

/-- Where the search has a result, so has all that begins at one boarding. -/
theorem exists_boarding? (found : s.itineraries? tt = some its) (begun : start ∈ s.origin.accesses)
    (boarded : b ∈ tt.boardingsAt start.station) (usable : s.usable b.service = true) :
    ∃ part, s.boarding? tt start b = some part ∧
      ∀ it ∈ part, s.passesVia it = true → it ∈ its := by
  obtain ⟨parts, started, rfl⟩ := itineraries?_eq_some found
  obtain ⟨part, partMem, begins⟩ := exists_of_mapM started begun
  obtain ⟨inner, boardings, rfl⟩ := starting?_eq_some begins
  obtain ⟨own, ownMem, here⟩ := exists_of_mapM boardings (List.mem_filter.mpr ⟨boarded, usable⟩)
  refine ⟨own, here, fun it mem passes => List.mem_filter.mpr ⟨?_, passes⟩⟩
  exact List.mem_flatten.mpr ⟨_, partMem, List.mem_flatten.mpr ⟨own, ownMem, mem⟩⟩

theorem exists_direct (found : s.itineraries? tt = some its) (begun : start ∈ s.origin.accesses)
    (boarded : b ∈ tt.boardingsAt start.station) (usable : s.usable b.service = true)
    (rode : s.directRide? b = some next) :
    ∃ it, s.itinerary? start next.1 none next.2 = some it ∧
      (s.passesVia it = true → it ∈ its) := by
  obtain ⟨part, here, inside⟩ := exists_boarding? found begun boarded usable
  obtain ⟨changed, direct, -, straight, rfl⟩ := boarding?_eq_some here
  obtain ⟨it, mem, made⟩ := exists_of_mapM straight (Option.mem_toList.mpr rode)
  exact ⟨it, made, inside it (List.mem_append_right _ mem)⟩

/-- Where the search has a result, so has each change that it looks at. -/
theorem exists_changing? (found : s.itineraries? tt = some its)
    (begun : start ∈ s.origin.accesses) (boarded : b ∈ tt.boardingsAt start.station)
    (usable : s.usable b.service = true) (rode : ride ∈ s.ridesBefore b) :
    ∃ part, s.changing? tt start ride = some part ∧
      ∀ it ∈ part, s.passesVia it = true → it ∈ its := by
  obtain ⟨part, here, inside⟩ := exists_boarding? found begun boarded usable
  obtain ⟨changed, direct, changes, -, rfl⟩ := boarding?_eq_some here
  obtain ⟨own, ownMem, changed⟩ := exists_of_mapM changes rode
  refine ⟨own, changed, fun it mem => inside it (List.mem_append_left _ ?_)⟩
  exact List.mem_flatten.mpr ⟨own, ownMem, mem⟩

theorem exists_changing (found : s.itineraries? tt = some its)
    (begun : start ∈ s.origin.accesses) (boarded : b ∈ tt.boardingsAt start.station)
    (usable : s.usable b.service = true) (rode : ride ∈ s.ridesBefore b)
    (arrived : ride.alight.arrival.shift? tt.minChange = some ready)
    (connected : onward ∈ s.connections tt ride ready) (rodeOn : s.directRide? onward = some next) :
    ∃ it, s.itinerary? start ride (some next.1) next.2 = some it ∧
      (s.passesVia it = true → it ∈ its) := by
  obtain ⟨part, changed, inside⟩ := exists_changing? found begun boarded usable rode
  obtain ⟨ready', arrived', connections⟩ := changing?_eq_some changed
  rw [arrived, Option.some.injEq] at arrived'
  subst arrived'
  obtain ⟨it, mem, made⟩ :=
    exists_of_mapM connections (List.mem_filterMap.mpr ⟨onward, connected, rodeOn⟩)
  exact ⟨it, made, inside it mem⟩

/-- All that the search finds was explored, and passes the place on the way. -/
theorem explored_of_mem (found : s.itineraries? tt = some its) (mem : it ∈ its) :
    s.Explored tt it ∧ s.passesVia it = true := by
  obtain ⟨parts, started, rfl⟩ := itineraries?_eq_some found
  obtain ⟨inside, passes⟩ := List.mem_filter.mp mem
  refine ⟨?_, passes⟩
  obtain ⟨part, partMem, inside⟩ := List.mem_flatten.mp inside
  obtain ⟨start, begun, begins⟩ := mem_of_mapM started partMem
  obtain ⟨inner, boardings, rfl⟩ := starting?_eq_some begins
  obtain ⟨own, ownMem, inside⟩ := List.mem_flatten.mp inside
  obtain ⟨b, boarded, here⟩ := mem_of_mapM boardings ownMem
  obtain ⟨boarded, usable⟩ := List.mem_filter.mp boarded
  obtain ⟨changed, direct, changes, straight, rfl⟩ := boarding?_eq_some here
  rcases List.mem_append.mp inside with changing | direct
  · obtain ⟨group, groupMem, inside⟩ := List.mem_flatten.mp changing
    obtain ⟨ride, rode, changed⟩ := mem_of_mapM changes groupMem
    obtain ⟨ready, arrived, connections⟩ := changing?_eq_some changed
    obtain ⟨next, nextMem, made⟩ := mem_of_mapM connections inside
    obtain ⟨onward, connected, rodeOn⟩ := List.mem_filterMap.mp nextMem
    exact .changing begun boarded usable rode arrived connected rodeOn made
  · obtain ⟨next, nextMem, made⟩ := mem_of_mapM straight direct
    exact .direct begun boarded usable (Option.mem_toList.mp nextMem) made

theorem itinerary?_eq_some {first : Ride} {second : Option Ride} {finish : Access}
    (made : s.itinerary? start first second finish = some it) :
    ∃ departure arrival,
      first.board.departure.shift? (-(s.walkSpeed.walkTime start.meters)) = some departure ∧
      (second.getD first).alight.arrival.shift? (s.walkSpeed.walkTime finish.meters) =
        some arrival ∧
      it = { start, first, second, finish, departure, arrival } := by
  obtain ⟨departure, departs, made⟩ := Option.bind_eq_some_iff.mp made
  obtain ⟨arrival, arrives, made⟩ := Option.bind_eq_some_iff.mp made
  cases made
  exact ⟨departure, arrival, departs, arrives, rfl⟩

end Search

end JourneyPlanner

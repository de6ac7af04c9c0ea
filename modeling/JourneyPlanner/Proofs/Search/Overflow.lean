import Mathlib
import JourneyPlanner.Proofs.Search.Soundness
import JourneyPlanner.Proofs.Time.Shifting

set_option autoImplicit false

/-!
When a search has no result: just when it meets a time beyond the calendar, where a change would be
ready or where a walk at one of the ends begins or ends. It looks at all rides from where it starts,
so one call too close to an end of the calendar is enough, shown or not.
-/
namespace JourneyPlanner

namespace Search

variable {s : Search} {tt : Timetable} {start finish : Access} {b : Boarding} {ride first : Ride}
  {second : Option Ride}

/-- A walk at one of the ends begins or ends beyond the calendar. -/
def WalksBeyond (s : Search) (start : Access) (first : Ride) (second : Option Ride)
    (finish : Access) : Prop :=
  first.board.departure.shift? (-(s.walkSpeed.walkTime start.meters)) = none ∨
    (second.getD first).alight.arrival.shift? (s.walkSpeed.walkTime finish.meters) = none

/-- The search meets a time beyond the calendar. -/
inductive Overflows (s : Search) (tt : Timetable) : Prop where
  | ready {start : Access} {b : Boarding} {ride : Ride} (begun : start ∈ s.origin.accesses)
      (boarded : b ∈ tt.boardingsAt start.station) (usable : s.usable b.service = true)
      (rode : ride ∈ s.ridesBefore b)
      (beyond : ride.alight.arrival.shift? tt.minChange = none)
  | direct {start : Access} {b : Boarding} {next : Ride × Access}
      (begun : start ∈ s.origin.accesses) (boarded : b ∈ tt.boardingsAt start.station)
      (usable : s.usable b.service = true) (rode : s.directRide? b = some next)
      (beyond : s.WalksBeyond start next.1 none next.2)
  | changing {start : Access} {b onward : Boarding} {ride : Ride} {ready : Instant}
      {next : Ride × Access} (begun : start ∈ s.origin.accesses)
      (boarded : b ∈ tt.boardingsAt start.station) (usable : s.usable b.service = true)
      (rode : ride ∈ s.ridesBefore b)
      (arrived : ride.alight.arrival.shift? tt.minChange = some ready)
      (connected : onward ∈ s.connections tt ride ready) (rodeOn : s.directRide? onward = some next)
      (beyond : s.WalksBeyond start ride (some next.1) next.2)

theorem itinerary?_eq_none_iff :
    s.itinerary? start first second finish = none ↔ s.WalksBeyond start first second finish := by
  rw [itinerary?, WalksBeyond]
  cases first.board.departure.shift? (-(s.walkSpeed.walkTime start.meters)) with
  | none => exact iff_of_true rfl (.inl rfl)
  | some departure =>
    cases (second.getD first).alight.arrival.shift? (s.walkSpeed.walkTime finish.meters) with
    | none => exact iff_of_true rfl (.inr rfl)
    | some arrival =>
      refine iff_of_false (Option.some_ne_none _) ?_
      rintro (beyond | beyond) <;> cases beyond

theorem changing?_eq_none_iff :
    s.changing? tt start ride = none ↔ ride.alight.arrival.shift? tt.minChange = none ∨
      ∃ ready, ride.alight.arrival.shift? tt.minChange = some ready ∧
        ∃ onward ∈ s.connections tt ride ready, ∃ next, s.directRide? onward = some next ∧
          s.WalksBeyond start ride (some next.1) next.2 := by
  rw [changing?]
  cases ride.alight.arrival.shift? tt.minChange with
  | none => exact iff_of_true rfl (.inl rfl)
  | some ready =>
    have inner : ((s.connections tt ride ready).filterMap s.directRide?).mapM
        (fun next => s.itinerary? start ride (some next.1) next.2) = none ↔
          ∃ onward ∈ s.connections tt ride ready, ∃ next, s.directRide? onward = some next ∧
            s.WalksBeyond start ride (some next.1) next.2 := by
      simp only [mapM_eq_none_iff, List.mem_filterMap, itinerary?_eq_none_iff]
      constructor
      · rintro ⟨next, ⟨onward, connected, rodeOn⟩, beyond⟩
        exact ⟨onward, connected, next, rodeOn, beyond⟩
      · rintro ⟨onward, connected, next, rodeOn, beyond⟩
        exact ⟨next, ⟨onward, connected, rodeOn⟩, beyond⟩
    refine inner.trans ⟨fun beyond => .inr ⟨ready, rfl, beyond⟩, ?_⟩
    rintro (none | ⟨other, same, beyond⟩)
    · cases none
    · cases same
      exact beyond

theorem boarding?_eq_none_iff :
    s.boarding? tt start b = none ↔ (∃ ride ∈ s.ridesBefore b, s.changing? tt start ride = none) ∨
      ∃ next, s.directRide? b = some next ∧ s.WalksBeyond start next.1 none next.2 := by
  have direct : (s.directRide? b).toList.mapM (fun next => s.itinerary? start next.1 none next.2) =
      none ↔ ∃ next, s.directRide? b = some next ∧ s.WalksBeyond start next.1 none next.2 := by
    simp only [mapM_eq_none_iff, Option.mem_toList, itinerary?_eq_none_iff]
  rw [← mapM_eq_none_iff, ← direct, boarding?]
  cases (s.ridesBefore b).mapM (s.changing? tt start) with
  | none => exact iff_of_true rfl (.inl rfl)
  | some changed =>
    cases (s.directRide? b).toList.mapM fun next => s.itinerary? start next.1 none next.2 with
    | none => exact iff_of_true rfl (.inr rfl)
    | some direct =>
      refine iff_of_false (Option.some_ne_none _) ?_
      rintro (beyond | beyond) <;> cases beyond

theorem starting?_eq_none_iff :
    s.starting? tt start = none ↔ ∃ b ∈ tt.boardingsAt start.station,
      s.usable b.service = true ∧ s.boarding? tt start b = none := by
  have inner : ((tt.boardingsAt start.station).filter fun b => s.usable b.service).mapM
      (s.boarding? tt start) = none ↔ ∃ b ∈ tt.boardingsAt start.station,
        s.usable b.service = true ∧ s.boarding? tt start b = none := by
    simp only [mapM_eq_none_iff, List.mem_filter, and_assoc]
  rw [← inner, starting?, bind_pure_comp]
  exact Option.map_eq_none_iff

/-- A search has no result just where it meets a time beyond the calendar. -/
theorem itineraries?_eq_none_iff : s.itineraries? tt = none ↔ s.Overflows tt := by
  have inner : s.itineraries? tt = none ↔
      ∃ start ∈ s.origin.accesses, s.starting? tt start = none := by
    rw [← mapM_eq_none_iff, itineraries?, bind_pure_comp]
    exact Option.map_eq_none_iff
  simp only [inner, starting?_eq_none_iff, boarding?_eq_none_iff, changing?_eq_none_iff]
  constructor
  · rintro ⟨start, begun, b, boarded, usable, ⟨ride, rode, beyond⟩ | ⟨next, rode, beyond⟩⟩
    · rcases beyond with beyond | ⟨ready, arrived, onward, connected, next, rodeOn, beyond⟩
      · exact .ready begun boarded usable rode beyond
      · exact .changing begun boarded usable rode arrived connected rodeOn beyond
    · exact .direct begun boarded usable rode beyond
  · rintro (⟨begun, boarded, usable, rode, beyond⟩ | ⟨begun, boarded, usable, rode, beyond⟩ |
      ⟨begun, boarded, usable, rode, arrived, connected, rodeOn, beyond⟩)
    · exact ⟨_, begun, _, boarded, usable, .inl ⟨_, rode, .inl beyond⟩⟩
    · exact ⟨_, begun, _, boarded, usable, .inr ⟨_, rode, beyond⟩⟩
    · exact ⟨_, begun, _, boarded, usable,
        .inl ⟨_, rode, .inr ⟨_, arrived, _, connected, _, rodeOn, beyond⟩⟩⟩

theorem trips?_eq_none_iff : s.trips? tt = none ↔ s.Overflows tt := by
  rw [← itineraries?_eq_none_iff, trips?, bind_pure_comp]
  exact Option.map_eq_none_iff

end Search

/-- The longest walk may end at the departure or begin at the arrival, and a change be ready after
it, all within the calendar. -/
@[mk_iff]
structure Call.HasLeeway (tt : Timetable) (call : Call) : Prop where
  before : call.departure.shift? (-(WalkSpeed.slow.walkTime tt.maxWalkMeters)) ≠ none
  after : call.arrival.shift? (WalkSpeed.slow.walkTime tt.maxWalkMeters) ≠ none
  change : call.arrival.shift? tt.minChange ≠ none

/-- No call lies too close to an end of the calendar. -/
def Timetable.HasLeeway (tt : Timetable) : Prop :=
  ∀ s ∈ tt.services, ∀ call ∈ s.calls, call.HasLeeway tt

instance (tt : Timetable) (call : Call) : Decidable (call.HasLeeway tt) :=
  decidable_of_iff _ (Call.hasLeeway_iff tt call).symm

instance (tt : Timetable) : Decidable tt.HasLeeway :=
  inferInstanceAs (Decidable (∀ s ∈ tt.services, ∀ call ∈ s.calls, call.HasLeeway tt))

theorem Ride.RunsIn.hasLeeway {tt : Timetable} {r : Ride} (runs : r.RunsIn tt)
    (leeway : tt.HasLeeway) : r.board.HasLeeway tt ∧ r.alight.HasLeeway tt := by
  obtain ⟨before, after, split⟩ := runs.stretch
  have calls := leeway r.service runs.scheduled
  rw [split] at calls
  exact ⟨calls r.board (by simp), calls r.alight (by simp)⟩

namespace Search

variable {s : Search} {tt : Timetable} {start finish : Access} {first : Ride} {second : Option Ride}

/-- Walks that are no longer than allowed stay within the calendar. -/
theorem not_walksBeyond (board : first.board.HasLeeway tt)
    (alight : (second.getD first).alight.HasLeeway tt) (near : start.meters ≤ tt.maxWalkMeters)
    (nearToo : finish.meters ≤ tt.maxWalkMeters) : ¬ s.WalksBeyond start first second finish := by
  have slowest : WalkSpeed.slow.metersPerMinute ≤ s.walkSpeed.metersPerMinute := by
    cases s.walkSpeed <;> decide
  have walk := WalkSpeed.walkTime_le slowest near
  have walkToo := WalkSpeed.walkTime_le slowest nearToo
  have nonneg := s.walkSpeed.walkTime_nonneg start.meters
  have nonnegToo := s.walkSpeed.walkTime_nonneg finish.meters
  rintro (beyond | beyond)
  · exact Instant.shift?_ne_none_of_between (by omega) board.before beyond
  · exact Instant.shift?_ne_none_of_between (by omega) alight.after beyond

/-- Where no call lies too close to an end of the calendar no search overflows. -/
theorem not_overflows {metric : Metric} (leeway : tt.HasLeeway) (resolved : s.Resolved metric tt) :
    ¬ s.Overflows tt := by
  obtain ⟨_, _, origin⟩ := resolved.origin
  obtain ⟨_, _, destination⟩ := resolved.destination
  have near {start : Access} (begun : start ∈ s.origin.accesses) :=
    Timetable.meters_le_of_resolve origin begun
  have nearToo {b : Boarding} {next : Ride × Access} (rode : s.directRide? b = some next) :=
    Timetable.meters_le_of_resolve destination
      (Endpoint.mem_of_access? (directRide?_eq_some rode).2).1
  have runs {b : Boarding} {p : Place} {ride : Ride} (boarded : b ∈ tt.boardingsAt p)
      (rode : ride ∈ b.rides) :=
    (Boarding.runsIn_of_mem_rides boarded rode).1.hasLeeway leeway
  rintro (⟨begun, boarded, -, rode, beyond⟩ | ⟨begun, boarded, -, rode, beyond⟩ |
    ⟨begun, boarded, -, rode, -, connected, rodeOn, beyond⟩)
  · exact (runs boarded (mem_rides_of_mem_ridesBefore rode)).2.change beyond
  · have ride := runs boarded (directRide?_eq_some rode).1
    exact absurd beyond (not_walksBeyond ride.1 ride.2 (near begun) (nearToo rode))
  · have ride := runs boarded (mem_rides_of_mem_ridesBefore rode)
    have onward := runs (List.mem_filter.mp connected).1 (directRide?_eq_some rodeOn).1
    exact absurd beyond (not_walksBeyond ride.1 onward.2 (near begun) (nearToo rodeOn))

end Search

end JourneyPlanner

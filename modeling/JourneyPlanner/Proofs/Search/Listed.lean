import JourneyPlanner.Proofs.Search.Front
import JourneyPlanner.Proofs.Search.Kept

set_option autoImplicit false

/-!
The trips that a search ends in, as they are listed. What is read off a trip is what its itinerary
has, with the walks at both ends, so that no trip is better than another one of the list, and none
departs and arrives with another one: of two such itineraries the one with fewer changes is kept.
-/
namespace JourneyPlanner

namespace Trip

/-- At least as good on departure, arrival and number of changes, and better on one of them. No
number comes before all numbers. -/
structure Beats (t u : Trip) : Prop where
  departure : u.firstDeparture ≤ t.firstDeparture
  arrival : t.lastArrival ≤ u.lastArrival
  changes : t.numChanges ≤ u.numChanges
  better : u.firstDeparture < t.firstDeparture ∨ t.lastArrival < u.lastArrival ∨
    t.numChanges < u.numChanges

/-- The trip departs and arrives with the other. -/
structure Coincides (t u : Trip) : Prop where
  departure : t.firstDeparture = u.firstDeparture
  arrival : t.lastArrival = u.lastArrival

end Trip

namespace Access

/-- The station is the place itself, or there is a walk from it to the place. -/
def Regular (a : Access) : Prop :=
  a = .atStation a.station ∨ a = .walking a.station a.meters

theorem regular_iff {a : Access} : a.Regular ↔ (a.onFoot = false → a.meters = 0) := by
  obtain ⟨station, meters, onFoot⟩ := a
  cases onFoot <;> simp [Regular, atStation, walking]

end Access

namespace Search

/-- The accesses on both sides are regular. -/
structure Regular (s : Search) : Prop where
  origin : ∀ a ∈ s.origin.accesses, a.Regular
  destination : ∀ a ∈ s.destination.accesses, a.Regular

/-- The trip is made of the itinerary, and what is read off it is what the itinerary has. It begins
before the first boarding and ends after the last alighting, by as much as the walks there take. -/
structure Reads (s : Search) (it : Itinerary) (t : Trip) : Prop extends s.Shows it t where
  before : it.first.board.departure.shift? (-(s.walkSpeed.walkTime it.start.meters)) =
    some t.firstDeparture
  after : it.lastRide.alight.arrival.shift? (s.walkSpeed.walkTime it.finish.meters) =
    some t.lastArrival
  changes : ∃ n, t.numChanges = some n ∧ n.toNat = it.changes
  rides : t.rides.length = it.changes + 1

variable {file : TimetableFile} {metric : Metric} {tt : Timetable} {s : Search}
  {its : List Itinerary} {trips : List Trip} {t u : Trip} {it other : Itinerary}

theorem regular_of_resolved (loaded : (Timetable.ofFile file).value = .ok tt)
    (resolved : s.Resolved metric tt) : s.Regular := by
  have grounded := grounded_of_resolved loaded resolved
  constructor
  · intro a mem
    exact Access.regular_iff.mpr (grounded.origin.uniform.riding a mem)
  · intro a mem
    exact Access.regular_iff.mpr (grounded.destination.uniform.riding a mem)

theorem Reads.numChanges_le_iff (reads : s.Reads it t) (readsToo : s.Reads other u) :
    t.numChanges ≤ u.numChanges ↔ it.changes ≤ other.changes := by
  obtain ⟨n, counted, changes⟩ := reads.changes
  obtain ⟨m, countedToo, changesToo⟩ := readsToo.changes
  rw [counted, countedToo, Option.some_le_some, UInt32.le_iff_toNat_le, changes, changesToo]

theorem Reads.numChanges_lt_iff (reads : s.Reads it t) (readsToo : s.Reads other u) :
    t.numChanges < u.numChanges ↔ it.changes < other.changes := by
  obtain ⟨n, counted, changes⟩ := reads.changes
  obtain ⟨m, countedToo, changesToo⟩ := readsToo.changes
  rw [counted, countedToo, Option.some_lt_some, UInt32.lt_iff_toNat_lt, changes, changesToo]

/-- A trip beats another just if its itinerary dominates that of the other. -/
theorem Reads.beats_iff (reads : s.Reads it t) (readsToo : s.Reads other u) :
    t.Beats u ↔ it.Dominates other := by
  constructor
  · rintro ⟨departure, arrival, changes, better⟩
    rw [reads.departure, readsToo.departure] at departure better
    rw [reads.arrival, readsToo.arrival] at arrival better
    rw [reads.numChanges_le_iff readsToo] at changes
    rw [reads.numChanges_lt_iff readsToo] at better
    exact ⟨⟨departure, arrival, changes⟩, better⟩
  · rintro ⟨⟨departure, arrival, changes⟩, better⟩
    rw [← reads.departure, ← readsToo.departure] at departure better
    rw [← reads.arrival, ← readsToo.arrival] at arrival better
    rw [← reads.numChanges_le_iff readsToo] at changes
    rw [← reads.numChanges_lt_iff readsToo] at better
    exact ⟨departure, arrival, changes, better⟩

theorem Parts.rides_eq {front back : List Leg} {legs : List PublicLeg}
    (parts : s.Parts tt it t front legs back) : t.rides = legs := by
  have before : front.filterMap Leg.ride? = [] := by
    rcases Itinerary.startLegs_eq_ok parts.start with ⟨-, rfl⟩ | ⟨-, walk, rfl, -⟩ <;> rfl
  have after : back.filterMap Leg.ride? = [] := by
    rcases Itinerary.finishLegs_eq_ok parts.finish with ⟨-, rfl⟩ | ⟨-, walk, rfl, -⟩ <;> rfl
  rw [Trip.rides, parts.shown]
  exact Leg.filterMap_ride?_between before after legs

/-- The trip of a kept itinerary reads as the itinerary does. -/
theorem reads_of_made (loaded : (Timetable.ofFile file).value = .ok tt) (regular : s.Regular)
    (feasible : s.Feasible tt it)
    (made : it.trip s.origin.location s.destination.location = .ok t) : s.Reads it t := by
  obtain ⟨front, legs, back, parts⟩ :=
    exists_parts (Timetable.sound_of_ofFile loaded) feasible made
  have departure : t.firstDeparture = it.departure := by
    apply parts.departure _ feasible
    intro a mem
    exact Access.regular_iff.mp (regular.origin a mem)
  have arrival : t.lastArrival = it.arrival := by
    apply parts.arrival _ feasible
    intro a mem
    exact Access.regular_iff.mp (regular.destination a mem)
  have counted := Itinerary.numChanges_of_trip made
  refine ⟨⟨made, departure, arrival⟩, ?_, ?_, ⟨_, counted, (toNat_changes it).1⟩, ?_⟩
  · rw [departure]
    exact feasible.departs
  · rw [arrival]
    exact feasible.arrives
  · rw [parts.rides_eq]
    exact parts.rides.length

theorem exists_reads (loaded : (Timetable.ofFile file).value = .ok tt) (regular : s.Regular)
    (found : s.itineraries? tt = some its) (mem : t ∈ Trip.inOrder (s.keptTrips its)) :
    ∃ it ∈ Itinerary.best its, s.Reads it t := by
  obtain ⟨it, kept, made⟩ := List.mem_filterMap.mp (Trip.mem_of_mem_inOrder mem)
  have feasible := feasible_of_mem_best found kept
  exact ⟨it, kept, reads_of_made loaded regular feasible (toOption_eq_some_iff.mp made)⟩

/-- Two kept itineraries of the same times are one, since of two the one with fewer changes would
dominate the other. -/
theorem Reads.eq_of_coincides (kept : it ∈ Itinerary.best its)
    (keptToo : other ∈ Itinerary.best its) (reads : s.Reads it t) (readsToo : s.Reads other u)
    (together : t.Coincides u) : t = u := by
  have departure : it.departure = other.departure := by
    rw [← reads.departure, together.departure, readsToo.departure]
  have arrival : it.arrival = other.arrival := by
    rw [← reads.arrival, together.arrival, readsToo.arrival]
  have apart : ∀ {a b : Itinerary}, a ∈ Itinerary.best its → b ∈ Itinerary.best its →
      a.departure = b.departure → a.arrival = b.arrival → ¬ a.changes < b.changes := by
    intro a b mem memToo departs arrives fewer
    have good : a.AtLeastAsGood b := {
      departure := departs ▸ Instant.le_refl _
      arrival := arrives ▸ Instant.le_refl _
      changes := Nat.le_of_lt fewer }
    exact Itinerary.best_undominated memToo (Itinerary.mem_of_mem_best mem)
      ⟨good, .inr (.inr fewer)⟩
  have notFewer := apart kept keptToo departure arrival
  have notMore := apart keptToo kept departure.symm arrival.symm
  have agree : it.Agrees other := ⟨departure, arrival, by omega⟩
  have same := Itinerary.eq_of_agrees kept keptToo agree
  have made := reads.made
  rw [same, readsToo.made] at made
  exact (Except.ok.inj made).symm

/-- The list of a search ascends strictly in the keys of its trips. No two of them depart and arrive
together, and none beats another one on departure, arrival and number of changes. What is read off
each of them is what an itinerary has that was kept. -/
theorem trips_listed (loaded : (Timetable.ofFile file).value = .ok tt) (regular : s.Regular)
    (found : s.trips? tt = some trips) :
    Trip.Ascending trips ∧ trips.Pairwise (fun t u => ¬ t.Coincides u) ∧
      (∀ t ∈ trips, ∀ u ∈ trips, ¬ u.Beats t) ∧
      ∃ its, s.itineraries? tt = some its ∧
        ∀ t ∈ trips, ∃ it ∈ Itinerary.best its, s.Reads it t := by
  have ascending := trips?_ascending found
  obtain ⟨its, explored, listed⟩ := Option.bind_eq_some_iff.mp found
  cases listed
  have read : ∀ t ∈ Trip.inOrder (s.keptTrips its), ∃ it ∈ Itinerary.best its, s.Reads it t :=
    fun t mem => exists_reads loaded regular explored mem
  refine ⟨ascending, ?_, ?_, its, explored, read⟩
  · apply ascending.imp_of_mem
    intro t u mem memToo before together
    obtain ⟨it, kept, reads⟩ := read t mem
    obtain ⟨other, keptToo, readsToo⟩ := read u memToo
    rw [reads.eq_of_coincides kept keptToo readsToo together, TripKey.precedes_irrefl] at before
    cases before
  · intro t mem u memToo beats
    obtain ⟨it, kept, reads⟩ := read t mem
    obtain ⟨other, keptToo, readsToo⟩ := read u memToo
    have dominates := (readsToo.beats_iff reads).mp beats
    exact Itinerary.best_undominated kept (Itinerary.mem_of_mem_best keptToo) dominates

end Search

/-! Two buses to a station, and a walk of a minute on from there. -/
namespace WalkOn

def file : TimetableFile :=
  Sample.file (Sample.morning 0) (Sample.morning 600)
    [Sample.station "A" 52000000, Sample.station "D" 52100000, Sample.poi "P" 52100050]
    [Sample.bus "1" [Sample.call "A" (Sample.morning 0), Sample.call "D" (Sample.morning 30)],
      Sample.bus "2" [Sample.call "A" (Sample.morning 10), Sample.call "D" (Sample.morning 40)]]

def query : TripQuery where
  origin := Sample.origin
  via := none
  destination := Sample.poiPlace "P" rfl
  time := Sample.morning 0
  departing := true
  preferences := .none

theorem trips_listed_walkOn :
    ∃ (tt : Timetable) (s : Search) (trips : List Trip),
      (Timetable.ofFile file).value = .ok tt ∧ s.Regular ∧ s.trips? tt = some trips ∧
      trips.map Trip.lastArrival = [Sample.morning 31, Sample.morning 41] ∧
      Trip.Ascending trips ∧ trips.Pairwise (fun t u => ¬ t.Coincides u) ∧
      (∀ t ∈ trips, ∀ u ∈ trips, ¬ u.Beats t) ∧
      ∃ its, s.itineraries? tt = some its ∧
        ∀ t ∈ trips, ∃ it ∈ Itinerary.best its, s.Reads it t := by
  have checked : ((Timetable.ofFile file).value.toOption.any fun tt =>
      (TimetableService.searchOf ⟨tt, 6, Sample.metric⟩ query).toOption.any fun s =>
        (s.trips? tt).any fun trips => decide (trips.map Trip.lastArrival =
          [Sample.morning 31, Sample.morning 41])) = true := by
    cbv
  obtain ⟨tt, loaded, checked⟩ := exists_ok_of_any checked
  obtain ⟨s, resolved, checked⟩ := exists_ok_of_any checked
  obtain ⟨trips, found, arrivals⟩ := (Option.any_eq_true _ _).mp checked
  have regular := Search.regular_of_resolved loaded (Search.resolved_of_searchOf resolved)
  exact ⟨tt, s, trips, loaded, regular, found, of_decide_eq_true arrivals,
    Search.trips_listed loaded regular found⟩

end WalkOn

end JourneyPlanner

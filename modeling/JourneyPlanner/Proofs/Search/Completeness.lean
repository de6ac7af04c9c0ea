import Mathlib
import JourneyPlanner.Proofs.Search.Dominance
import JourneyPlanner.Proofs.Search.Feasible
import JourneyPlanner.Proofs.Time.Shifting

set_option autoImplicit false

/-!
Nothing better is lost by the search. It leaves a service at the first call where the destination is
in reach; with one station at the destination, whoever rides on arrives there no sooner.
-/
namespace JourneyPlanner

/-- As good as another itinerary, apart from the leap second that the last walk of the other may
begin in: then it need only arrive in no later second. -/
structure Itinerary.NearlyAsGood (k it : Itinerary) : Prop where
  departure : it.departure ≤ k.departure
  changes : k.changes ≤ it.changes
  second : k.arrival.second ≤ it.arrival.second
  arrival : it.lastRide.alight.arrival.isLeap = false ∨ it.finish.meters = 0 →
    k.arrival ≤ it.arrival

namespace Search

variable {s : Search} {tt : Timetable} {p : Place} {b : Boarding} {ride : Ride}
  {next : Ride × Access}

/-- Who can ride to the destination is there no later with the ride that the search takes. -/
theorem exists_directRide?
    (ascending : b.rides.Pairwise fun r t => r.alight.arrival ≤ t.alight.arrival)
    (mem : ride ∈ b.rides) (reached : (s.destination.access? ride.alight.station).isSome = true) :
    ∃ next, s.directRide? b = some next ∧ next.1.alight.arrival ≤ ride.alight.arrival := by
  cases rode : s.directRide? b with
  | none =>
    have missed := List.findSome?_eq_none_iff.mp rode ride mem
    rw [Option.map_eq_none_iff] at missed
    rw [missed] at reached
    cases reached
  | some next =>
    refine ⟨next, rfl, ?_⟩
    obtain ⟨before, taken, after, split, there, sooner⟩ := List.findSome?_eq_some_iff.mp rode
    obtain ⟨access, -, rfl⟩ := Option.map_eq_some_iff.mp there
    rw [split] at mem ascending
    rcases List.mem_append.mp mem with early | late
    · have missed := sooner ride early
      rw [Option.map_eq_none_iff] at missed
      rw [missed] at reached
      cases reached
    · rcases List.mem_cons.mp late with rfl | later
      · exact Instant.le_refl _
      · have tail := (List.pairwise_append.mp ascending).2.1
        exact (List.pairwise_cons.mp tail).1 ride later

/-- A change is looked at unless the destination was in reach before it. -/
theorem mem_ridesBefore_or_reached
    (ascending : b.rides.Pairwise fun r t => r.alight.arrival ≤ t.alight.arrival)
    (mem : ride ∈ b.rides) :
    ride ∈ s.ridesBefore b ∨
      ∃ next, s.directRide? b = some next ∧ next.1.alight.arrival ≤ ride.alight.arrival := by
  obtain ⟨before, after, split⟩ := List.append_of_mem mem
  have whole : b.rides = (before ++ [ride]) ++ after := by simpa using split
  by_cases reached : ∃ other ∈ before ++ [ride],
      (s.destination.access? other.alight.station).isSome = true
  · obtain ⟨other, inside, there⟩ := reached
    have sooner : other.alight.arrival ≤ ride.alight.arrival := by
      rcases List.mem_append.mp inside with early | last
      · rw [split] at ascending
        exact (List.pairwise_append.mp ascending).2.2 other early ride List.mem_cons_self
      · rw [List.mem_singleton.mp last]
        exact Instant.le_refl _
    obtain ⟨next, rode, order⟩ :=
      exists_directRide? ascending (whole ▸ List.mem_append_left after inside) there
    exact .inr ⟨next, rode, Instant.le_trans order sooner⟩
  · refine .inl ?_
    have out : ∀ other ∈ before ++ [ride],
        (s.destination.access? other.alight.station).isNone = true := by
      intro other inside
      rw [Option.isNone_iff_eq_none, ← Option.not_isSome_iff_eq_none]
      exact fun there => reached ⟨other, inside, there⟩
    rw [ridesBefore, whole, List.takeWhile_append_of_pos out]
    exact List.mem_append_left _ (List.mem_append_right before List.mem_cons_self)

theorem finish_eq_of_single {d access other : Access} (single : s.destination.accesses = [d])
    (mem : access ∈ s.destination.accesses) (memToo : other ∈ s.destination.accesses) :
    other = access := by
  rw [single, List.mem_singleton] at mem memToo
  rw [mem, memToo]

theorem passesVia_of_none (noVia : s.via = none) (it : Itinerary) : s.passesVia it = true := by
  rw [passesVia, noVia]

/-- The search compares arrivals before the last walk. The walk keeps their order, but one that
begins in a leap second ends as if it began in the second before. -/
theorem exists_best_of_sooner {f it : Itinerary} {its : List Itinerary} {first : Ride}
    {second : Option Ride} (feasible : s.Feasible tt it) (mem : f ∈ its)
    (made : s.itinerary? it.start first second it.finish = some f)
    (board : first.board = it.first.board)
    (sooner : (second.getD first).alight.arrival ≤ it.lastRide.alight.arrival)
    (fewer : second.toList.length ≤ it.changes) :
    ∃ k ∈ Itinerary.best its, k.NearlyAsGood it := by
  obtain ⟨k, kept, better⟩ := Itinerary.exists_best mem
  obtain ⟨departure, arrival, departs, arrives, rfl⟩ := itinerary?_eq_some made
  have same : departure = it.departure := by
    rw [board, feasible.departs, Option.some.injEq] at departs
    exact departs.symm
  have arrivesToo := feasible.arrives
  rw [WalkSpeed.walkTime_eq] at arrives arrivesToo
  obtain ⟨seconds, order⟩ := Instant.shift?_mono arrives arrivesToo sooner
  refine ⟨k, kept, same ▸ better.departure, Nat.le_trans better.changes fewer,
    Int.le_trans (Instant.second_le_of_le better.arrival) seconds, fun plain => ?_⟩
  refine Instant.le_trans better.arrival (order (plain.imp id fun none => ?_))
  rw [none]
  cases s.walkSpeed <;> rfl

/-- What is explored in place of a feasible itinerary that rides past the destination. -/
theorem exists_best_of_direct {it : Itinerary} {its : List Itinerary} {d : Access}
    (noVia : s.via = none) (single : s.destination.accesses = [d])
    (found : s.itineraries? tt = some its) (feasible : s.Feasible tt it)
    (boarded : b ∈ tt.boardingsAt it.start.station) (usable : s.usable b.service = true)
    (call : b.call = it.first.board) (rode : s.directRide? b = some next)
    (sooner : next.1.alight.arrival ≤ it.lastRide.alight.arrival) :
    ∃ k ∈ Itinerary.best its, k.NearlyAsGood it := by
  obtain ⟨f, made, inside⟩ := exists_direct found feasible.start_mem boarded usable rode
  obtain ⟨taken, reached⟩ := directRide?_eq_some rode
  obtain ⟨between, alight, after, -, shape⟩ := Boarding.mem_rides.mp taken
  rw [finish_eq_of_single single feasible.finish_mem (Endpoint.mem_of_access? reached).1] at made
  exact exists_best_of_sooner feasible (inside (passesVia_of_none noVia f)) made
    (by rw [shape, call]) sooner (Nat.zero_le _)

/-- The second ride of a feasible itinerary is among the connections at the change. -/
theorem exists_connection {it : Itinerary} {second : Ride} (sound : tt.Sound)
    (feasible : s.Feasible tt it) (change : it.second = some second) :
    ∃ ready, it.first.alight.arrival.shift? tt.minChange = some ready ∧
      ∃ onward ∈ s.connections tt it.first ready, second ∈ onward.rides := by
  obtain ⟨runs, usable, other, station, ready, shifted, inTime⟩ := feasible.connects second change
  obtain ⟨onward, boarded, owner, call, rode⟩ := Boarding.exists_of_runsIn runs station
  have numbers : second.service.number ≠ it.first.service.number := fun same =>
    other (sound.services_numbered.eq_of_number runs.scheduled feasible.runs.scheduled same)
  refine ⟨ready, shifted, onward, List.mem_filter.mpr ⟨boarded, ?_⟩, rode⟩
  rw [owner, call, usable, decide_eq_true numbers, decide_eq_true inTime]
  rfl

/-- What is explored for a feasible itinerary whose change the search looks at. -/
theorem exists_best_of_change {it : Itinerary} {its : List Itinerary} {d : Access} {second : Ride}
    (sound : tt.Sound) (noVia : s.via = none) (single : s.destination.accesses = [d])
    (found : s.itineraries? tt = some its) (feasible : s.Feasible tt it)
    (change : it.second = some second) (boarded : b ∈ tt.boardingsAt it.start.station)
    (usable : s.usable b.service = true) (before : it.first ∈ s.ridesBefore b)
    (reach : (s.destination.access? second.alight.station).isSome = true) :
    ∃ k ∈ Itinerary.best its, k.NearlyAsGood it := by
  obtain ⟨ready, shifted, onward, connected, rode⟩ := exists_connection sound feasible change
  obtain ⟨next, taken, sooner⟩ := exists_directRide?
    (Boarding.rides_ascending sound (List.mem_filter.mp connected).1) rode reach
  obtain ⟨f, made, inside⟩ :=
    exists_changing found feasible.start_mem boarded usable before shifted connected taken
  have reached := (directRide?_eq_some taken).2
  rw [finish_eq_of_single single feasible.finish_mem (Endpoint.mem_of_access? reached).1] at made
  have last := Itinerary.lastRide_of_some change
  have one : it.changes = 1 := by
    rw [Itinerary.changes, change]
    rfl
  exact exists_best_of_sooner feasible (inside (passesVia_of_none noVia f)) made rfl
    (last ▸ sooner) (Nat.le_of_eq one.symm)

/-- Every feasible itinerary is matched by one that is kept: no earlier departure, no more changes
and no later arrival. Only where it walks out of a leap second may the one that is kept arrive
later, and then within the same second. -/
theorem exists_best_of_feasible {file : TimetableFile} {it : Itinerary} {its : List Itinerary}
    {d : Access} (loaded : (Timetable.ofFile file).value = .ok tt) (noVia : s.via = none)
    (single : s.destination.accesses = [d]) (found : s.itineraries? tt = some its)
    (feasible : s.Feasible tt it) :
    ∃ k ∈ Itinerary.best its, k.NearlyAsGood it := by
  have sound := Timetable.sound_of_ofFile loaded
  obtain ⟨b, boarded, owner, call, rode⟩ :=
    Boarding.exists_of_runsIn feasible.runs feasible.boards
  have usable : s.usable b.service = true := by
    rw [owner]
    exact feasible.usable
  have ascending := Boarding.rides_ascending sound boarded
  have reach := Endpoint.access?_isSome feasible.finish_mem feasible.alights
  cases change : it.second with
  | none =>
    have last : it.lastRide = it.first := by rw [Itinerary.lastRide, change, Option.getD_none]
    rw [last] at reach
    obtain ⟨next, taken, sooner⟩ := exists_directRide? ascending rode reach
    exact exists_best_of_direct noVia single found feasible boarded usable call taken
      (last ▸ sooner)
  | some second =>
    have last : it.lastRide = second := by rw [Itinerary.lastRide, change, Option.getD_some]
    rw [last] at reach
    rcases mem_ridesBefore_or_reached ascending rode with before | ⟨next, taken, sooner⟩
    · exact exists_best_of_change sound noVia single found feasible change boarded usable before
        reach
    · obtain ⟨runs, -, -, -, ready, shifted, inTime⟩ := feasible.connects second change
      have wait := Instant.le_of_shift? shifted sound.minChange_nonneg
      have onward := runs.forward sound
      have later : it.first.alight.arrival ≤ second.alight.arrival :=
        Instant.le_trans wait (Instant.le_trans inTime onward)
      exact exists_best_of_direct noVia single found feasible boarded usable call taken
        (last ▸ Instant.le_trans sooner later)

end Search

/-! A vehicle that comes back to where it stopped a second before, within the leap second at the end
of 2016. -/
namespace LeapSecond

def file : TimetableFile :=
  Sample.newYear [Sample.bus "1"
    [Sample.call "A" Sample.lastHour, Sample.call "D" (Sample.lastSecond 500),
      Sample.call "E" (Sample.lastSecond 700), Sample.call "D" (Sample.lastSecond 1200)]]

/-- From a station to a place fifty metres away from another one. -/
def search (origin station : Place) : Search where
  origin := { location := origin.location, accesses := [.atStation origin] }
  via := none
  destination := { location := station.location, accesses := [.walking station 50] }
  preferences := .none

/-- The second call at the station lies in the leap second. The walk from there ends before that
from the first call, which is the one that the search leaves at. -/
theorem exists_unmatched :
    ∃ (tt : Timetable) (s : Search) (d : Access) (its : List Itinerary) (it : Itinerary),
      (Timetable.ofFile file).value = .ok tt ∧ s.via = none ∧ s.destination.accesses = [d] ∧
      s.itineraries? tt = some its ∧ s.Feasible tt it ∧
      ∀ k ∈ Itinerary.best its, ¬ k.AtLeastAsGood it := by
  have checked : ((Timetable.ofFile file).value.toOption.any fun tt =>
      tt.places.any fun origin => tt.places.any fun station =>
        ((search origin station).itineraries? tt).any fun its =>
          (tt.boardingsAt origin).any fun b => b.rides.any fun ride =>
            ride.alight.station.is station && (search origin station).usable b.service &&
              ((search origin station).itinerary? (.atStation origin) ride none
                (.walking station 50)).any fun it =>
                  (Itinerary.best its).all fun k => decide (it.arrival < k.arrival)) = true := by
    cbv
  obtain ⟨tt, loaded, checked⟩ := exists_ok_of_any checked
  obtain ⟨origin, -, checked⟩ := List.any_eq_true.mp checked
  obtain ⟨station, -, checked⟩ := List.any_eq_true.mp checked
  obtain ⟨its, found, checked⟩ := (Option.any_eq_true _ _).mp checked
  obtain ⟨b, boarded, checked⟩ := List.any_eq_true.mp checked
  obtain ⟨ride, rode, checked⟩ := List.any_eq_true.mp checked
  obtain ⟨checked, shown⟩ := Bool.and_eq_true_iff.mp checked
  obtain ⟨there, usable⟩ := Bool.and_eq_true_iff.mp checked
  obtain ⟨it, made, later⟩ := (Option.any_eq_true _ _).mp shown
  refine ⟨tt, search origin station, .walking station 50, its, it, loaded, rfl, rfl, found,
    Search.feasible_of_direct List.mem_cons_self List.mem_cons_self boarded usable rode there made,
    fun k kept better => ?_⟩
  have after := of_decide_eq_true (List.all_eq_true.mp later k kept)
  exact Instant.not_le.mpr after better.arrival

theorem exists_best_of_feasible_leapSecond :
    ∃ (tt : Timetable) (s : Search) (d : Access) (its : List Itinerary) (it : Itinerary),
      (Timetable.ofFile file).value = .ok tt ∧ s.via = none ∧ s.destination.accesses = [d] ∧
      s.itineraries? tt = some its ∧ s.Feasible tt it ∧
      ∃ k ∈ Itinerary.best its, k.NearlyAsGood it := by
  obtain ⟨tt, s, d, its, it, loaded, noVia, single, found, feasible, -⟩ := exists_unmatched
  exact ⟨tt, s, d, its, it, loaded, noVia, single, found, feasible,
    Search.exists_best_of_feasible loaded noVia single found feasible⟩

/-- Without regard to leap seconds a feasible itinerary may arrive before all that are kept. -/
theorem not_every_feasible_matched :
    ¬ ∀ (file : TimetableFile) (tt : Timetable) (s : Search) (d : Access) (its : List Itinerary)
      (it : Itinerary), (Timetable.ofFile file).value = .ok tt → s.via = none →
      s.destination.accesses = [d] → s.itineraries? tt = some its → s.Feasible tt it →
      ∃ k ∈ Itinerary.best its, k.AtLeastAsGood it := by
  intro claimed
  obtain ⟨tt, s, d, its, it, loaded, noVia, single, found, feasible, unmatched⟩ := exists_unmatched
  obtain ⟨k, kept, better⟩ := claimed file tt s d its it loaded noVia single found feasible
  exact unmatched k kept better

end LeapSecond

end JourneyPlanner

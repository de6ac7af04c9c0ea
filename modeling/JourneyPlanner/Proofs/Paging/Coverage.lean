import Mathlib
import JourneyPlanner.Proofs.Paging.Chain
import JourneyPlanner.Proofs.Timetable.Loaded

set_option autoImplicit false

/-!
What the pages of a query show altogether. Those of a departure show every trip once. Those of an
arrival leave out the trips that arrive too late but depart between the ends of the first page.
-/
namespace JourneyPlanner

/-! A fast service overtaken by a change: the second service is slower than the third with a change
to the fourth, but has no change. -/
namespace Overtaking

/-- A minute of the fifteenth of March 2024. -/
def minute (m : Nat) : Instant := Sample.wholeSecond (1710460800 + 60 * m)

def file : TimetableFile :=
  Sample.file (minute 0) (minute 1439)
    [Sample.station "A" 52000000, Sample.station "B" 52100000, Sample.station "C" 52200000]
    [Sample.bus "1" [Sample.call "A" (minute 480), Sample.call "C" (minute 540)],
      Sample.bus "2" [Sample.call "A" (minute 490), Sample.call "C" (minute 570)],
      Sample.bus "3" [Sample.call "A" (minute 500), Sample.call "B" (minute 520)],
      Sample.bus "4" [Sample.call "B" (minute 530), Sample.call "C" (minute 550)]]

def query (departing : Bool) (m : Nat) : TripQuery where
  origin := Sample.origin
  via := none
  destination := Sample.stationPlace "C" (by decide)
  time := minute m
  departing := departing
  preferences := .none

end Overtaking

namespace Timetable

variable {tt : Timetable} {metric : Metric} {q : TripQuery}

/-- From every page that was reached, the pages after it show just the trips after its last, and the
pages before it those before its first. -/
theorem pages_exhaust_neighbours {r : TripsResponse} (reached : Reached tt metric q r)
    (success : r.isOk = true) (settings : Nat → Settings) :
    ∃ trips first last, tt.trips? metric q = some trips ∧ Trip.Ascending trips ∧
      r.trips.head? = some first ∧ r.trips.getLast? = some last ∧
      Exhausts tt metric true settings r.continuation (Trip.beyond last.key trips) ∧
      Exhausts tt metric false settings r.continuation (Trip.ahead first.key trips) := by
  obtain ⟨maker, search, trips, cut, page, resolved, explored, made, rfl⟩ := reached.cut success
  have ascending := Search.trips?_ascending explored
  have described := Page.describes_of_cut? ascending made
  refine ⟨trips, cut.first, cut.last, trips?_of_searchFor resolved explored, ascending,
    described.first, described.last, ?_, ?_⟩
  · exact exhausts_rest resolved explored true settings maker described
  · exact exhausts_rest resolved explored false settings maker described

def onePerPage : Settings := { Settings.usual with tripsPerPage := 1 }

theorem pages_exhaust_neighbours_overtaking :
    ∃ tt r, (Timetable.ofFile Overtaking.file).value = .ok tt ∧
      Reached tt Sample.metric (Overtaking.query true 0) r ∧ r.isOk = true ∧
      r.continuation.allows true = true ∧
      ∃ trips first last, tt.trips? Sample.metric (Overtaking.query true 0) = some trips ∧
        Trip.Ascending trips ∧ r.trips.head? = some first ∧ r.trips.getLast? = some last ∧
        Exhausts tt Sample.metric true (fun _ => .usual) r.continuation
          (Trip.beyond last.key trips) ∧
        Exhausts tt Sample.metric false (fun _ => .usual) r.continuation
          (Trip.ahead first.key trips) := by
  have checked : ((Timetable.ofFile Overtaking.file).value.toOption.any fun tt =>
      ((tt.service Sample.metric onePerPage).trips
        (Overtaking.query true 0)).answer.toOption.any fun r =>
          r.isOk && r.continuation.allows true) = true := by cbv
  obtain ⟨tt, loaded, checked⟩ := exists_ok_of_any checked
  obtain ⟨r, answered, checked⟩ := exists_ok_of_any checked
  obtain ⟨success, allowed⟩ := Bool.and_eq_true_iff.mp checked
  have reached : Reached tt Sample.metric (Overtaking.query true 0) r := .asked answered
  exact ⟨tt, r, loaded, reached, success, allowed,
    pages_exhaust_neighbours reached success fun _ => .usual⟩

/-- The first page of a departure, with all pages before and after it, shows every trip once. Those
of an arrival leave out the trips between the ends of the first page that arrive too late. -/
theorem pages_cover_trips {r : TripsResponse} {maker : Settings}
    (answered : ((tt.service metric maker).trips q).answer = .ok r) (success : r.isOk = true)
    (back forth : Nat → Settings) :
    ∃ trips first last earlier later, tt.trips? metric q = some trips ∧ Trip.Ascending trips ∧
      r.trips.head? = some first ∧ r.trips.getLast? = some last ∧
      Exhausts tt metric false back r.continuation earlier ∧
      Exhausts tt metric true forth r.continuation later ∧
      earlier ++ r.trips ++ later =
        if q.departing then trips
        else trips.filter fun t =>
          t.key.precedes first.key || last.key.precedes t.key || t.lastArrival ≤ q.time := by
  obtain ⟨search, trips, cut, resolved, explored, made, rfl⟩ :=
    cut_of_answer_trips answered success
  have ascending := Search.trips?_ascending explored
  have described := Page.describes_of_cut? ascending made
  refine ⟨trips, cut.first, cut.last, _, _, trips?_of_searchFor resolved explored, ascending,
    described.first, described.last, exhausts_rest resolved explored false back maker described,
    exhausts_rest resolved explored true forth maker described, ?_⟩
  refine (described.covers ascending).trans ?_
  cases direction : q.departing with
  | true =>
    refine List.filter_eq_self.mpr fun t mem => ?_
    have first := described.first_admitted.1
    simp only [TimetableService.firstPage, direction, if_true, Page.admits] at first ⊢
    cases order : t.key.precedes cut.first.key with
    | true => rfl
    | false =>
      have later := (TripKey.departure_le_of_not_precedes order)
      have inTime := Instant.le_trans (of_decide_eq_true first) later
      simp only [decide_eq_true inTime, Bool.or_true]
  | false =>
    simp only [TimetableService.firstPage, direction, Bool.false_eq_true, if_false, Page.admits]
    rfl

theorem pages_cover_trips_overtaking :
    ∃ tt r, (Timetable.ofFile Overtaking.file).value = .ok tt ∧
      ((tt.service Sample.metric onePerPage).trips (Overtaking.query false 560)).answer =
        .ok r ∧ r.isOk = true ∧
      ∃ trips first last earlier later,
        tt.trips? Sample.metric (Overtaking.query false 560) = some trips ∧
        Trip.Ascending trips ∧ r.trips.head? = some first ∧ r.trips.getLast? = some last ∧
        Exhausts tt Sample.metric false (fun _ => .usual) r.continuation earlier ∧
        Exhausts tt Sample.metric true (fun _ => .usual) r.continuation later ∧
        earlier ++ r.trips ++ later = trips.filter fun t =>
          t.key.precedes first.key || last.key.precedes t.key ||
            t.lastArrival ≤ Overtaking.minute 560 := by
  have checked : ((Timetable.ofFile Overtaking.file).value.toOption.any fun tt =>
      ((tt.service Sample.metric onePerPage).trips
        (Overtaking.query false 560)).answer.toOption.any fun r => r.isOk) = true := by cbv
  obtain ⟨tt, loaded, checked⟩ := exists_ok_of_any checked
  obtain ⟨r, answered, success⟩ := exists_ok_of_any checked
  exact ⟨tt, r, loaded, answered, success,
    pages_cover_trips answered success (fun _ => .usual) fun _ => .usual⟩

/-- A trip that departs between the ends of the first page but arrives too late for it is on no
page at all. -/
theorem arriving_pages_hide_trip :
    ∃ tt r trips, (Timetable.ofFile Overtaking.file).value = .ok tt ∧
      ((tt.service Sample.metric .usual).trips (Overtaking.query false 560)).answer =
        .ok r ∧ r.isOk = true ∧
      tt.trips? Sample.metric (Overtaking.query false 560) = some trips ∧
      ∃ t ∈ trips, ∀ back forth before after,
        Chain tt Sample.metric false back r.continuation before →
        Chain tt Sample.metric true forth r.continuation after →
          t ∉ joined false before ++ r.trips ++ joined true after := by
  have checked : ((Timetable.ofFile Overtaking.file).value.toOption.any fun tt =>
      ((tt.service Sample.metric .usual).trips
        (Overtaking.query false 560)).answer.toOption.any fun r =>
          r.isOk && !r.continuation.allows false && !r.continuation.allows true &&
            (tt.trips? Sample.metric (Overtaking.query false 560)).any fun trips =>
              trips.any fun t => r.trips.all fun u => u.id ≠ t.id) = true := by cbv
  obtain ⟨tt, loaded, checked⟩ := exists_ok_of_any checked
  obtain ⟨r, answered, checked⟩ := exists_ok_of_any checked
  simp only [Bool.and_eq_true, Bool.not_eq_true', Option.any_eq_true, List.any_eq_true,
    List.all_eq_true, decide_eq_true_eq] at checked
  obtain ⟨⟨⟨success, noEarlier⟩, noLater⟩, trips, found, t, mem, other⟩ := checked
  refine ⟨tt, r, trips, loaded, answered, success, found, t, mem, ?_⟩
  intro back forth before after chainBack chainForth inside
  rw [chainBack.joined_of_blocked noEarlier, chainForth.joined_of_blocked noLater,
    List.nil_append, List.append_nil] at inside
  exact other t inside rfl

end Timetable

end JourneyPlanner

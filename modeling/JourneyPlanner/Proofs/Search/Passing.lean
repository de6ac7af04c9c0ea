import Mathlib
import JourneyPlanner.Proofs.Paging.Answer
import JourneyPlanner.Proofs.Search.Kept
import JourneyPlanner.Proofs.Search.Leaving

set_option autoImplicit false

/-!
Searches by way of a place. The search leaves a service at its first call at the destination, and
only then asks whether the place was passed. What is kept is as good as every journey that has
passed it by then; a journey that passes it between two calls at the destination is not found.
-/
namespace JourneyPlanner

namespace Ride.RunsIn

variable {tt : Timetable} {r : Ride}

/-- On the way a ride arrives no later than at its end. -/
theorem arrival_le (runs : r.RunsIn tt) (sound : tt.Sound) {call : Call} (mem : call ∈ r.ahead) :
    call.arrival ≤ r.alight.arrival := by
  rcases List.mem_append.mp mem with passed | last
  · obtain ⟨before, after, split⟩ := runs.stretch
    obtain ⟨each, pairwise⟩ := Call.inOrder_pairwise (sound.services_run _ runs.scheduled).inOrder
    have wait := each call
      (runs.calls_mem (List.mem_cons_of_mem _ (List.mem_append_left _ passed)))
    rw [split] at pairwise
    have onward := (List.pairwise_append.mp pairwise).2.2 call
      (List.mem_append_right before (List.mem_cons_of_mem _ passed)) r.alight List.mem_cons_self
    exact Instant.le_trans wait onward
  · rw [List.mem_singleton.mp last]
    exact Instant.le_refl _

end Ride.RunsIn

/-- The times are those asked for: a departure no earlier than the time given, or an arrival no
later. -/
def TripQuery.IsMetBy (q : TripQuery) (it : Itinerary) : Prop :=
  if q.departing then q.time ≤ it.departure else it.arrival ≤ q.time

namespace Search

variable {s : Search} {tt : Timetable} {it short k : Itinerary} {its : List Itinerary} {d : Place}
  {r taken : Ride} {access : Access} {t : Trip} {q : TripQuery}

section Stations

theorem LeavesAt.arrival_le (leaves : s.LeavesAt r taken access) (runs : r.RunsIn tt)
    (sound : tt.Sound) : taken.alight.arrival ≤ r.alight.arrival := by
  obtain ⟨after, split⟩ := leaves.stretch
  apply runs.arrival_le sound
  rw [split]
  exact List.mem_append_left after (List.mem_append_right _ List.mem_cons_self)

theorem Feasible.first_arrival_le (feasible : s.Feasible tt it) (sound : tt.Sound) :
    it.first.alight.arrival ≤ it.lastRide.alight.arrival := by
  cases change : it.second with
  | none =>
    rw [Itinerary.lastRide_of_none change]
    exact Instant.le_refl _
  | some second =>
    rw [Itinerary.lastRide_of_some change]
    obtain ⟨runs, -, -, -, ready, shifted, inTime⟩ := feasible.connects second change
    have wait := Instant.le_of_shift? shifted sound.minChange_nonneg
    have onward := runs.forward sound
    exact Instant.le_trans wait (Instant.le_trans inTime onward)

/-- At a station one has arrived with the ride. -/
theorem arrival_eq_of_atStation (station : s.destination.accesses = [.atStation d])
    (mem : access ∈ s.destination.accesses) {time arrival : Instant}
    (arrives : time.shift? (s.walkSpeed.walkTime access.meters) = some arrival) :
    arrival = time := by
  rw [station, List.mem_singleton] at mem
  rw [mem] at arrives
  have still : time.shift? (s.walkSpeed.walkTime 0) = some arrival := arrives
  rw [WalkSpeed.walkTime_zero] at still
  exact Instant.eq_of_shift?_zero still

theorem Feasible.access?_eq (feasible : s.Feasible tt it)
    (station : s.destination.accesses = [.atStation d]) :
    s.destination.access? it.lastRide.alight.station = some it.finish := by
  have reached := Endpoint.access?_isSome feasible.finish_mem feasible.alights
  obtain ⟨access, found⟩ := Option.isSome_iff_exists.mp reached
  rw [found, finish_eq_of_single station feasible.finish_mem (Endpoint.mem_of_access? found).1]

/-- Between stations no journey that is cut short arrives later for it. -/
theorem CutShort.arrival_le (cut : s.CutShort it short) (sound : tt.Sound)
    (station : s.destination.accesses = [.atStation d]) (feasible : s.Feasible tt it) :
    short.arrival ≤ it.arrival := by
  rw [arrival_eq_of_atStation station feasible.finish_mem feasible.arrives]
  cases cut with
  | first leaves made =>
    obtain ⟨departure, arrival, -, arrives, rfl⟩ := itinerary?_eq_some made
    have reached := (Endpoint.mem_of_access? leaves.reached).1
    have sooner := leaves.arrival_le feasible.runs sound
    rw [arrival_eq_of_atStation station reached arrives]
    exact Instant.le_trans sooner (feasible.first_arrival_le sound)
  | second change missed leaves made =>
    obtain ⟨departure, arrival, -, arrives, rfl⟩ := itinerary?_eq_some made
    have reached := (Endpoint.mem_of_access? leaves.reached).1
    have last := Itinerary.lastRide_of_some change
    rw [arrival_eq_of_atStation station reached arrives, last]
    exact leaves.arrival_le (last ▸ feasible.lastRide_runs) sound

end Stations

section Answering

variable {ts : TimetableService} {trips : List Trip}

theorem admits_of_isMetBy (met : q.IsMetBy it) (better : k.AtLeastAsGood it) (shows : s.Shows k t) :
    (TimetableService.firstPage q).admits t.key = true := by
  unfold TripQuery.IsMetBy at met
  unfold TimetableService.firstPage
  split
  · rename_i departing
    rw [if_pos departing] at met
    have later : q.time ≤ t.firstDeparture := by
      rw [shows.departure]
      exact Instant.le_trans met better.departure
    exact decide_eq_true later
  · rename_i arriving
    rw [if_neg arriving] at met
    have sooner : t.lastArrival ≤ q.time := by
      rw [shows.arrival]
      exact Instant.le_trans better.arrival met
    exact decide_eq_true sooner

/-- Where a trip of the search meets the query, the answer is not that there is none. -/
theorem outcome_ne_noTrips (wanted : ts.searchOf q = .ok s) (positive : 0 < ts.pageSize)
    (shown : s.trips? ts.timetable = some trips) (mem : t ∈ trips)
    (admits : (TimetableService.firstPage q).admits t.key = true) {r : TripsResponse}
    (answered : (ts.trips q).answer = .ok r) : r.outcome ≠ .error .noTrips := by
  intro empty
  have planned := answer_plan_of_trips answered
  have some : (TimetableService.firstPage q).admitted trips ≠ [] :=
    List.ne_nil_of_mem (List.mem_filter.mpr ⟨mem, admits⟩)
  rw [answer_plan] at planned
  have same : (ts.timetable.service ts.metric .usual).searchOf q = .ok s := wanted
  unfold Timetable.searchFor at planned
  by_cases close : q.origin.isSamePlace ts.metric q.destination = true
  · rw [if_pos close] at planned
    cases planned
    cases empty
  · rw [if_neg close] at planned
    by_cases outside : (!ts.timetable.covers q.time) = true
    · rw [if_pos outside] at planned
      cases planned
      cases empty
    · rw [if_neg outside, same] at planned
      simp only [TimetableService.pageOf, shown] at planned
      cases made : (TimetableService.firstPage q).cut? ts.pageSize trips with
      | none => exact some ((Page.cut?_eq_none_iff positive).mp made)
      | some cut =>
        rw [made] at planned
        cases planned
        cases empty

end Answering

/-- Between stations every feasible journey can be cut short, and is as good for it. If it still
passes the place on the way, then so does an itinerary that is kept and as good as the whole
journey, and in a plain timetable the answer that there are no trips means that the journey does not
meet the query. -/
theorem exists_best_of_passing {file : TimetableFile}
    (loaded : (Timetable.ofFile file).value = .ok tt)
    (station : s.destination.accesses = [.atStation d]) (found : s.itineraries? tt = some its)
    (feasible : s.Feasible tt it) :
    ∃ short, s.CutShort it short ∧ short.AtLeastAsGood it ∧ (s.passesVia short = true →
      (∃ k ∈ Itinerary.best its, s.passesVia k = true ∧ k.AtLeastAsGood it) ∧
      ∀ (metric : Metric) (settings : Settings) (q : TripQuery) (r : TripsResponse), tt.Plain →
        (tt.service metric settings).searchOf q = .ok s →
        ((tt.service metric settings).trips q).answer = .ok r → r.outcome = .error .noTrips →
        ¬ q.IsMetBy it) := by
  have sound := Timetable.sound_of_ofFile loaded
  obtain ⟨short, cut, inside⟩ := exists_cutShort sound found feasible
  have better := cut.atLeastAsGood feasible (cut.arrival_le sound station feasible)
  refine ⟨short, cut, better, fun passes => ?_⟩
  obtain ⟨k, kept, best⟩ := Itinerary.exists_best (inside passes)
  have matched : k.AtLeastAsGood it := best.trans better
  have passesToo := (explored_of_mem found (Itinerary.mem_of_mem_best kept)).2
  refine ⟨⟨k, kept, passesToo, matched⟩, ?_⟩
  intro metric settings q r plain wanted answered empty met
  have resolved := resolved_of_searchOf wanted
  obtain ⟨t, shows⟩ := exists_shows loaded resolved found kept
  have made : t ∈ s.keptTrips its := by
    refine List.mem_filterMap.mpr ⟨k, kept, ?_⟩
    rw [shows.made]
    rfl
  have listed : t ∈ Trip.inOrder (s.keptTrips its) :=
    (Trip.inOrder_perm (keptTrips_distinct plain loaded resolved found)).mem_iff.mpr made
  exact outcome_ne_noTrips wanted (TimetableService.pageSizeOf_pos settings)
    (trips?_of_itineraries? found) listed (admits_of_isMetBy met matched shows) answered empty

end Search

/-! A bus that stops at its destination, goes on to another station and comes back. -/
namespace OutAndBack

def file : TimetableFile :=
  Sample.file (Sample.morning 0) (Sample.morning 600)
    [Sample.station "A" 52000000, Sample.station "D" 52100000, Sample.station "V" 52200000]
    [Sample.bus "1" [Sample.call "A" (Sample.morning 0), Sample.call "D" (Sample.morning 10),
      Sample.call "V" (Sample.morning 20), Sample.call "D" (Sample.morning 30)]]

def stationV : Location := Sample.stationPlace "V" (by decide)

def query : TripQuery where
  origin := Sample.origin
  via := some stationV
  destination := Sample.destination
  time := Sample.morning 0
  departing := true
  preferences := .none

/-- To the other station by way of the first, when the bus has left. -/
def onward : TripQuery :=
  { query with via := some Sample.destination, destination := stationV, time := Sample.morning 30 }

/-- The ways to or from an endpoint that is a station. -/
def atOneStation (e : Endpoint) : Bool :=
  match e.accesses with
  | [access] => !access.onFoot && access.meters == 0
  | _ => false

theorem exists_atStation {e : Endpoint} (one : atOneStation e = true) :
    ∃ p, e.accesses = [.atStation p] := by
  unfold atOneStation at one
  split at one
  · rename_i access single
    obtain ⟨riding, still⟩ := Bool.and_eq_true_iff.mp one
    refine ⟨access.station, ?_⟩
    rw [single]
    cases access
    cases eq_of_beq still
    rw [Bool.not_eq_true'] at riding
    cases riding
    rfl
  · cases one

/-- The bus passes its first stop on the way to the second and does not come there before. -/
theorem exists_passing :
    ∃ (tt : Timetable) (s : Search) (d : Place) (its : List Itinerary) (it : Itinerary),
      (Timetable.ofFile file).value = .ok tt ∧ tt.Plain ∧ s.via.isSome = true ∧
      s.destination.accesses = [.atStation d] ∧ s.itineraries? tt = some its ∧
      s.Feasible tt it ∧ s.passesVia it = true ∧ s.CutShort it it := by
  have checked : ((Timetable.ofFile file).value.toOption.any fun tt => decide tt.Plain &&
      ((tt.service Sample.metric .usual).searchOf onward).toOption.any
        fun s => s.via.isSome && atOneStation s.destination && (s.itineraries? tt).any fun its =>
          (s.directs tt).any fun it => s.passesVia it && (it.second.isNone &&
            it.lastRide.between.all fun call =>
              (s.destination.access? call.station).isNone)) = true := by
    cbv
  obtain ⟨tt, loaded, checked⟩ := exists_ok_of_any checked
  obtain ⟨plain, checked⟩ := Bool.and_eq_true_iff.mp checked
  obtain ⟨s, -, checked⟩ := exists_ok_of_any checked
  obtain ⟨checked, shown⟩ := Bool.and_eq_true_iff.mp checked
  obtain ⟨wanted, station⟩ := Bool.and_eq_true_iff.mp checked
  obtain ⟨d, station⟩ := exists_atStation station
  obtain ⟨its, found, shown⟩ := (Option.any_eq_true _ _).mp shown
  obtain ⟨it, direct, shown⟩ := List.any_eq_true.mp shown
  obtain ⟨passes, shown⟩ := Bool.and_eq_true_iff.mp shown
  obtain ⟨straight, out⟩ := Bool.and_eq_true_iff.mp shown
  have feasible := Search.feasible_of_mem_directs direct
  have missed : ∀ call ∈ it.lastRide.between, s.destination.access? call.station = none :=
    fun call mem => Option.isNone_iff_eq_none.mp (List.all_eq_true.mp out call mem)
  have before : ∀ second, it.second = some second → s.Misses it.first := by
    intro second change
    rw [change] at straight
    cases straight
  exact ⟨tt, s, d, its, it, loaded, of_decide_eq_true plain, wanted, station, found, feasible,
    passes, Search.cutShort_self feasible (feasible.access?_eq station) missed before⟩

theorem exists_best_of_passing_outAndBack :
    ∃ (tt : Timetable) (s : Search) (d : Place) (its : List Itinerary) (it : Itinerary),
      (Timetable.ofFile file).value = .ok tt ∧ tt.Plain ∧ s.via.isSome = true ∧
      s.destination.accesses = [.atStation d] ∧ s.itineraries? tt = some its ∧
      s.Feasible tt it ∧ s.CutShort it it ∧ s.passesVia it = true ∧
      (∃ k ∈ Itinerary.best its, s.passesVia k = true ∧ k.AtLeastAsGood it) ∧
      ∀ (metric : Metric) (settings : Settings) (q : TripQuery) (r : TripsResponse), tt.Plain →
        (tt.service metric settings).searchOf q = .ok s →
        ((tt.service metric settings).trips q).answer = .ok r → r.outcome = .error .noTrips →
        ¬ q.IsMetBy it := by
  obtain ⟨tt, s, d, its, it, loaded, plain, wanted, station, found, feasible, passes, whole⟩ :=
    exists_passing
  obtain ⟨short, cut, -, matched⟩ := Search.exists_best_of_passing loaded station found feasible
  cases cut.unique whole
  exact ⟨tt, s, d, its, it, loaded, plain, wanted, station, found, feasible, whole, passes,
    matched passes⟩

/-- Whoever wants to see the other station on the way back has to stay on the bus where it first
stops at the destination. -/
theorem exists_unfound :
    ∃ (tt : Timetable) (s : Search) (via : Endpoint) (a d : Place) (it : Itinerary)
      (r : TripsResponse),
      (Timetable.ofFile file).value = .ok tt ∧ s.Resolved Sample.metric tt ∧ s.via = some via ∧
      s.origin.accesses = [.atStation a] ∧ s.destination.accesses = [.atStation d] ∧
      s.itineraries? tt = some [] ∧ s.Feasible tt it ∧ s.passesVia it = true ∧
      query.IsMetBy it ∧
      ((tt.service Sample.metric .usual).trips query).answer = .ok r ∧
      r.outcome = .error .noTrips := by
  have checked : ((Timetable.ofFile file).value.toOption.any fun tt =>
      (((tt.service Sample.metric .usual).trips query).answer.toOption.any
        fun r => match r.outcome with
          | .error reason => decide (reason = .noTrips)
          | .ok _ => false) &&
      ((tt.service Sample.metric .usual).searchOf query).toOption.any fun s =>
        s.via.isSome && atOneStation s.origin && atOneStation s.destination &&
          ((s.itineraries? tt).any List.isEmpty && (s.directs tt).any fun it =>
            s.passesVia it && decide (Sample.morning 0 ≤ it.departure))) = true := by
    cbv
  obtain ⟨tt, loaded, checked⟩ := exists_ok_of_any checked
  obtain ⟨refused, checked⟩ := Bool.and_eq_true_iff.mp checked
  obtain ⟨r, answered, refused⟩ := exists_ok_of_any refused
  obtain ⟨s, resolved, checked⟩ := exists_ok_of_any checked
  obtain ⟨checked, shown⟩ := Bool.and_eq_true_iff.mp checked
  obtain ⟨checked, destination⟩ := Bool.and_eq_true_iff.mp checked
  obtain ⟨wanted, origin⟩ := Bool.and_eq_true_iff.mp checked
  obtain ⟨via, wanted⟩ := Option.isSome_iff_exists.mp wanted
  obtain ⟨a, origin⟩ := exists_atStation origin
  obtain ⟨d, destination⟩ := exists_atStation destination
  obtain ⟨none, shown⟩ := Bool.and_eq_true_iff.mp shown
  obtain ⟨its, found, none⟩ := (Option.any_eq_true _ _).mp none
  obtain ⟨it, direct, shown⟩ := List.any_eq_true.mp shown
  obtain ⟨passes, inTime⟩ := Bool.and_eq_true_iff.mp shown
  have met : query.IsMetBy it := by
    have departing : query.departing = true := rfl
    rw [TripQuery.IsMetBy, if_pos departing]
    exact of_decide_eq_true inTime
  refine ⟨tt, s, via, a, d, it, r, loaded, Search.resolved_of_searchOf resolved, wanted, origin,
    destination, ?_, Search.feasible_of_mem_directs direct, passes, met, answered, ?_⟩
  · rw [found, List.isEmpty_iff.mp none]
  · split at refused
    · rename_i outcome
      rw [outcome, of_decide_eq_true refused]
    · cases refused

/-- A journey that passes the place between two calls at the destination may be better than all that
is kept. -/
theorem not_every_passing_matched :
    ¬ ∀ (file : TimetableFile) (tt : Timetable) (metric : Metric) (s : Search) (via : Endpoint)
      (a d : Place) (its : List Itinerary) (it : Itinerary),
      (Timetable.ofFile file).value = .ok tt → s.Resolved metric tt → s.via = some via →
      s.origin.accesses = [.atStation a] → s.destination.accesses = [.atStation d] →
      s.itineraries? tt = some its → s.Feasible tt it → s.passesVia it = true →
      ∃ k ∈ Itinerary.best its, s.passesVia k = true ∧ k.AtLeastAsGood it := by
  intro claimed
  obtain ⟨tt, s, via, a, d, it, r, loaded, resolved, wanted, origin, destination, found, feasible,
    passes, -⟩ := exists_unfound
  obtain ⟨k, kept, -⟩ := claimed file tt Sample.metric s via a d [] it loaded resolved wanted origin
    destination found feasible passes
  exact absurd (Itinerary.mem_of_mem_best kept) List.not_mem_nil

end OutAndBack

end JourneyPlanner

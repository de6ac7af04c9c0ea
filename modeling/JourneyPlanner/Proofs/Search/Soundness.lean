import Mathlib
import JourneyPlanner.Proofs.Fallible
import JourneyPlanner.Proofs.Search.Dominance
import JourneyPlanner.Proofs.Search.Journey
import JourneyPlanner.Proofs.Timetable.Resolving
import JourneyPlanner.Proofs.Trip.KeyOrder
import JourneyPlanner.Timetable.Provider

set_option autoImplicit false

/-!
All that a search keeps can be made into trips, and every trip is a journey from the place asked for
to the other. The legs of the rides come first, then the walks around them.
-/
namespace JourneyPlanner

theorem Ride.alight_mem (r : Ride) : r.alight ∈ r.calls :=
  List.mem_append_right _ List.mem_cons_self

namespace Ride.RunsIn

variable {tt : Timetable} {r : Ride}

theorem calls_mem (runs : r.RunsIn tt) {call : Call} (mem : call ∈ r.calls) :
    call ∈ r.service.calls := by
  obtain ⟨before, after, split⟩ := runs.stretch
  rw [split]
  rcases List.mem_append.mp mem with riding | last
  · exact List.mem_append_left _ (List.mem_append_right before riding)
  · rw [List.mem_singleton.mp last]
    exact List.mem_append_right _ List.mem_cons_self

theorem known (runs : r.RunsIn tt) (sound : tt.Sound) {call : Call} (mem : call ∈ r.calls) :
    call.station ∈ tt.places :=
  ((sound.services_run _ runs.scheduled).stations call (runs.calls_mem mem)).1

theorem board_known (runs : r.RunsIn tt) (sound : tt.Sound) : r.board.station ∈ tt.places :=
  runs.known sound List.mem_cons_self

theorem alight_known (runs : r.RunsIn tt) (sound : tt.Sound) : r.alight.station ∈ tt.places :=
  runs.known sound r.alight_mem

end Ride.RunsIn

namespace Search

variable {s : Search} {tt : Timetable} {it : Itinerary}

/-- The legs of the rides of an itinerary. -/
structure Rides (s : Search) (tt : Timetable) (it : Itinerary) (legs : List PublicLeg) : Prop where
  made : it.rides.mapM Ride.leg = .ok legs
  parts : ∀ leg ∈ legs, (Leg.ride leg).IsPartOf s tt
  chained : (legs.map Leg.ride).IsChain (Leg.GoesOn tt)
  length : legs.length = it.changes + 1
  first : ∃ leg, legs.head? = some leg ∧ leg.Tells it.first
  last : ∃ leg, legs.getLast? = some leg ∧ leg.Tells it.lastRide
  all : ∀ r ∈ it.rides, ∃ leg ∈ legs, r.RunsIn tt ∧ leg.Tells r

/-- Between two rides the place stays the same, and there is time for the change. -/
theorem Connects.goesOn (sound : tt.Sound) {first second : Ride} (runs : first.RunsIn tt)
    (connects : s.Connects tt first second) {before after : PublicLeg} (tells : before.Tells first)
    (tellsToo : after.Tells second) : (Leg.ride before).GoesOn tt (.ride after) := by
  have station := Place.eq_of_is sound (connects.runs.board_known sound)
    (runs.alight_known sound) connects.station
  refine ⟨?_, ?_, fun plain plainToo => ?_⟩
  · rw [tells.arrival, tellsToo.departure, station]
  · change ∃ ready, (before.arrivalTime false).shift? tt.minChange = some ready ∧
      ready ≤ after.departureTime false
    rw [tells.arrives, tellsToo.departs]
    exact connects.inTime
  · obtain ⟨ready, shifted, inTime⟩ := connects.inTime
    change tt.minChange ≤ (before.arrivalTime false).spanTo (after.departureTime false)
    change (before.arrivalTime false).isLeap = false at plain
    change (after.departureTime false).isLeap = false at plainToo
    rw [tells.arrives] at plain ⊢
    rw [tellsToo.departs] at plainToo ⊢
    exact Instant.le_spanTo_of_shift? shifted inTime plain plainToo

theorem exists_rides (sound : tt.Sound) (feasible : s.Feasible tt it) :
    ∃ legs, s.Rides tt it legs := by
  obtain ⟨before, madeFirst, tells⟩ := Ride.exists_leg (feasible.runs.forward sound)
  have part : (Leg.ride before).IsPartOf s tt := ⟨it.first, feasible.runs, feasible.usable, tells⟩
  cases change : it.second with
  | none =>
    have rides : it.rides = [it.first] := by rw [Itinerary.rides, change, Option.toList_none]
    have last := Itinerary.lastRide_of_none change
    refine ⟨[before], ?_, ?_, List.isChain_singleton _, ?_, ⟨before, rfl, tells⟩,
      ⟨before, rfl, last ▸ tells⟩, ?_⟩
    · rw [rides, List.mapM_cons, madeFirst]
      rfl
    · intro leg mem
      rw [List.mem_singleton.mp mem]
      exact part
    · rw [Itinerary.changes, change]
      rfl
    · intro r mem
      rw [rides] at mem
      rw [List.mem_singleton.mp mem]
      exact ⟨before, List.mem_cons_self, feasible.runs, tells⟩
  | some second =>
    have connects := feasible.connects second change
    obtain ⟨after, madeSecond, tellsToo⟩ := Ride.exists_leg (connects.runs.forward sound)
    have partToo : (Leg.ride after).IsPartOf s tt :=
      ⟨second, connects.runs, connects.usable, tellsToo⟩
    have rides : it.rides = [it.first, second] := by
      rw [Itinerary.rides, change, Option.toList_some]
    have last := Itinerary.lastRide_of_some change
    refine ⟨[before, after], ?_, ?_, ?_, ?_, ⟨before, rfl, tells⟩,
      ⟨after, rfl, last ▸ tellsToo⟩, ?_⟩
    · rw [rides, List.mapM_cons, madeFirst, List.mapM_cons, madeSecond]
      rfl
    · intro leg mem
      rcases List.mem_cons.mp mem with rfl | mem
      · exact part
      · rw [List.mem_singleton.mp mem]
        exact partToo
    · exact List.isChain_pair.mpr (connects.goesOn sound feasible.runs tells tellsToo)
    · rw [Itinerary.changes, change]
      rfl
    · intro r mem
      rw [rides] at mem
      rcases List.mem_cons.mp mem with rfl | mem
      · exact ⟨before, List.mem_cons_self, feasible.runs, tells⟩
      · rw [List.mem_singleton.mp mem]
        exact ⟨after, List.mem_cons_of_mem before List.mem_cons_self, connects.runs, tellsToo⟩

/-- What stands before the first ride: nothing at the station asked for, else the walk to one. -/
inductive Approaches (s : Search) (first : Leg) : List Leg → Prop where
  | riding (here : first.departure = s.origin.location) : Approaches s first []
  | walking {walk : IndividualLeg} (lasts : s.Lasts walk)
      (departs : walk.departure = s.origin.location) (meets : walk.arrival = first.departure)
      (onTime : walk.arrivalTime = first.departureTime) : Approaches s first [.own walk]

/-- What stands after the last ride. -/
inductive Recedes (s : Search) (last : Leg) : List Leg → Prop where
  | riding (here : last.arrival = s.destination.location) : Recedes s last []
  | walking {walk : IndividualLeg} (lasts : s.Lasts walk)
      (arrives : walk.arrival = s.destination.location) (meets : last.arrival = walk.departure)
      (onTime : last.arrivalTime = walk.departureTime) : Recedes s last [.own walk]

theorem exists_startLegs (sound : tt.Sound) (served : s.origin.ServedBy tt)
    (feasible : s.Feasible tt it) {leg : PublicLeg} (tells : leg.Tells it.first) :
    ∃ front, it.startLegs s.origin.location = .ok front ∧ s.Approaches (.ride leg) front := by
  have station := Place.eq_of_is sound (feasible.runs.board_known sound)
    (served.stations _ feasible.start_mem).1 feasible.boards
  unfold Itinerary.startLegs
  cases foot : it.start.onFoot with
  | false =>
    refine ⟨[], rfl, .riding ?_⟩
    rw [tells.departure, station]
    exact served.atStation _ feasible.start_mem foot
  | true =>
    have nonneg := s.walkSpeed.walkTime_nonneg it.start.meters
    have order := Instant.shift?_le feasible.departs (by omega)
    rw [if_pos rfl, IndividualLeg.between_of_le it.start.meters order]
    refine ⟨_, rfl, .walking (lasts_back rfl feasible.departs) rfl ?_ ?_⟩
    · rw [tells.departure, station]
    · exact tells.departs.symm

theorem exists_finishLegs (sound : tt.Sound) (served : s.destination.ServedBy tt)
    (feasible : s.Feasible tt it) (runs : it.lastRide.RunsIn tt) {leg : PublicLeg}
    (tells : leg.Tells it.lastRide) :
    ∃ back, it.finishLegs s.destination.location = .ok back ∧ s.Recedes (.ride leg) back := by
  have station := Place.eq_of_is sound (runs.alight_known sound)
    (served.stations _ feasible.finish_mem).1 feasible.alights
  unfold Itinerary.finishLegs
  cases foot : it.finish.onFoot with
  | false =>
    refine ⟨[], rfl, .riding ?_⟩
    rw [tells.arrival, station]
    exact served.atStation _ feasible.finish_mem foot
  | true =>
    have nonneg := s.walkSpeed.walkTime_nonneg it.finish.meters
    have order := Instant.le_of_shift? feasible.arrives nonneg
    rw [if_pos rfl, IndividualLeg.between_of_le it.finish.meters order]
    refine ⟨_, rfl, .walking (lasts_forth rfl feasible.arrives) rfl ?_ ?_⟩
    · rw [tells.arrival, station]
    · exact tells.arrives

end Search

theorem Leg.goesOn_from_walk {tt : Timetable} {walk : IndividualLeg} {next : Leg}
    (meets : walk.arrival = next.departure) (onTime : walk.arrivalTime = next.departureTime) :
    (Leg.own walk).GoesOn tt next :=
  ⟨meets, onTime⟩

theorem Leg.goesOn_to_walk {tt : Timetable} {walk : IndividualLeg} {last : Leg}
    (meets : last.arrival = walk.departure) (onTime : last.arrivalTime = walk.departureTime) :
    last.GoesOn tt (.own walk) := by
  refine ⟨meets, ?_⟩
  cases last <;> exact onTime

namespace Search

variable {s : Search} {tt : Timetable} {it : Itinerary} {t : Trip}
  {front back rides : List Leg} {legs : List PublicLeg} {first last : Leg}

theorem Approaches.departs (approaches : s.Approaches first front)
    (begins : rides.head? = some first) :
    ∃ leg, (front ++ rides ++ back).head? = some leg ∧ leg.departure = s.origin.location := by
  cases approaches with
  | riding here =>
    refine ⟨first, ?_, here⟩
    rw [List.nil_append, List.head?_append, begins, Option.some_or]
  | walking _ departs => exact ⟨_, rfl, departs⟩

theorem Recedes.arrives (recedes : s.Recedes last back) (ends : rides.getLast? = some last) :
    ∃ leg, (front ++ rides ++ back).getLast? = some leg ∧ leg.arrival = s.destination.location := by
  cases recedes with
  | riding here =>
    refine ⟨last, ?_, here⟩
    rw [List.append_nil, List.getLast?_append, ends, Option.some_or]
  | walking _ arrives => exact ⟨_, List.getLast?_concat, arrives⟩

/-- The walks join the rides at both ends. -/
theorem chained_of_walks (approaches : s.Approaches first front) (recedes : s.Recedes last back)
    (chained : rides.IsChain (Leg.GoesOn tt)) (begins : rides.head? = some first)
    (ends : rides.getLast? = some last) : (front ++ rides ++ back).IsChain (Leg.GoesOn tt) := by
  have joined : (front ++ rides).IsChain (Leg.GoesOn tt) := by
    cases approaches with
    | riding => exact chained
    | walking _ _ meets onTime =>
      refine List.isChain_cons.mpr ⟨fun next mem => ?_, chained⟩
      change next ∈ rides.head? at mem
      rw [begins, Option.mem_some] at mem
      rw [← mem]
      exact Leg.goesOn_from_walk meets onTime
  cases recedes with
  | riding =>
    rw [List.append_nil]
    exact joined
  | walking _ _ meets onTime =>
    refine joined.append (List.isChain_singleton _) fun leg mem walk walkMem => ?_
    rw [List.getLast?_append, ends, Option.some_or, Option.mem_some] at mem
    rw [List.head?_cons, Option.mem_some] at walkMem
    rw [← mem, ← walkMem]
    exact Leg.goesOn_to_walk meets onTime

theorem Approaches.parts (approaches : s.Approaches first front) :
    ∀ leg ∈ front, leg.IsPartOf s tt := by
  cases approaches with
  | riding => exact fun leg mem => absurd mem List.not_mem_nil
  | walking lasts =>
    intro leg mem
    rw [List.mem_singleton.mp mem]
    exact lasts

theorem Recedes.parts (recedes : s.Recedes last back) : ∀ leg ∈ back, leg.IsPartOf s tt := by
  cases recedes with
  | riding => exact fun leg mem => absurd mem List.not_mem_nil
  | walking lasts =>
    intro leg mem
    rw [List.mem_singleton.mp mem]
    exact lasts

/-- The rides of a trip are those between the walks. -/
theorem filterMap_ride? (approaches : s.Approaches first front) (recedes : s.Recedes last back)
    (legs : List PublicLeg) :
    (front ++ legs.map Leg.ride ++ back).filterMap Leg.ride? = legs := by
  have before : front.filterMap Leg.ride? = [] := by
    cases approaches <;> rfl
  have after : back.filterMap Leg.ride? = [] := by
    cases recedes <;> rfl
  exact Leg.filterMap_ride?_between before after legs

/-- A ride calls at a station of the place on the way, if there is one. -/
theorem Rides.passes (rides : s.Rides tt it legs) (sound : tt.Sound)
    (served : ∀ via, s.via = some via → via.ServedBy tt) (passes : s.passesVia it = true)
    {via : Endpoint} (wanted : s.via = some via) :
    ∃ leg ∈ legs, ∃ r : Ride, r.RunsIn tt ∧ leg.Tells r ∧
      ∃ call ∈ r.calls, ∃ access ∈ via.accesses, call.station = access.station := by
  rw [passesVia, wanted] at passes
  obtain ⟨r, mem, calling⟩ := List.any_eq_true.mp passes
  obtain ⟨call, onWay, calling⟩ := List.any_eq_true.mp calling
  obtain ⟨station, stationMem, here⟩ := List.any_eq_true.mp calling
  obtain ⟨access, accessMem, rfl⟩ := List.mem_map.mp stationMem
  obtain ⟨leg, legMem, runs, tells⟩ := rides.all r mem
  exact ⟨leg, legMem, r, runs, tells, call, onWay, access, accessMem, Place.eq_of_is sound
    (runs.known sound onWay) ((served via wanted).stations access accessMem).1 here⟩

theorem toNat_changes (it : Itinerary) :
    (UInt32.ofNat it.changes).toNat = it.changes ∧ it.changes ≤ 1 := by
  rw [Itinerary.changes]
  cases it.second with
  | none => exact ⟨rfl, Nat.zero_le 1⟩
  | some second => exact ⟨rfl, Nat.le_refl 1⟩

/-- Rides with the walks around them are a journey. -/
theorem journey_of_parts (sound : tt.Sound)
    (served : ∀ via, s.via = some via → via.ServedBy tt) (passes : s.passesVia it = true)
    (rides : s.Rides tt it legs) (approaches : s.Approaches first front)
    (recedes : s.Recedes last back) (begins : (legs.map Leg.ride).head? = some first)
    (ends : (legs.map Leg.ride).getLast? = some last)
    (shown : t.legs = front ++ legs.map Leg.ride ++ back)
    (counted : t.changes = some (UInt32.ofNat it.changes)) : s.Journey tt t := by
  have parts : ∀ leg ∈ t.legs, leg.IsPartOf s tt := by
    intro leg mem
    rw [shown] at mem
    rcases List.mem_append.mp mem with mem | mem
    · rcases List.mem_append.mp mem with mem | mem
      · exact approaches.parts leg mem
      · obtain ⟨ride, inside, rfl⟩ := List.mem_map.mp mem
        exact rides.parts ride inside
    · exact recedes.parts leg mem
  have chained : t.legs.IsChain (Leg.GoesOn tt) := by
    rw [shown]
    exact chained_of_walks approaches recedes rides.chained begins ends
  refine ⟨?_, ?_, parts, chained, ⟨UInt32.ofNat it.changes, ?_, ?_, ?_⟩, fun via wanted => ?_, ?_⟩
  · obtain ⟨leg, found, departs⟩ := approaches.departs begins
    rw [← shown] at found
    rw [Trip.firstLeg_of_head? found, departs]
  · obtain ⟨leg, found, arrives⟩ := recedes.arrives ends
    rw [← shown] at found
    rw [Trip.lastLeg_of_getLast? found, arrives]
  · rw [Trip.numChanges, counted]
  · rw [Trip.rides, shown, filterMap_ride? approaches recedes, rides.length, (toNat_changes it).1]
  · rw [(toNat_changes it).1]
    exact (toNat_changes it).2
  · obtain ⟨leg, mem, r, runs, tells, calling⟩ := rides.passes sound served passes wanted
    refine ⟨leg, r, ?_, runs, tells, calling⟩
    rw [shown]
    exact List.mem_append_left _ (List.mem_append_right front (List.mem_map_of_mem mem))
  · exact Trip.legsTravelable_of_chain sound t.legs parts chained none fun leg mem => rfl

/-- Every itinerary that can be made is made into a trip, and the trip can be made. -/
theorem exists_trip (sound : tt.Sound) (origin : s.origin.ServedBy tt)
    (destination : s.destination.ServedBy tt)
    (served : ∀ via, s.via = some via → via.ServedBy tt) (feasible : s.Feasible tt it)
    (passes : s.passesVia it = true) :
    ∃ t, it.trip s.origin.location s.destination.location = .ok t ∧ s.Journey tt t := by
  obtain ⟨legs, rides⟩ := exists_rides sound feasible
  obtain ⟨first, begins, tells⟩ := rides.first
  obtain ⟨last, ends, tellsLast⟩ := rides.last
  obtain ⟨front, madeFront, approaches⟩ := exists_startLegs sound origin feasible tells
  obtain ⟨back, madeBack, recedes⟩ :=
    exists_finishLegs sound destination feasible (feasible.lastRide_runs) tellsLast
  have nonempty : front ++ legs.map Leg.ride ++ back ≠ [] := by
    intro empty
    rw [List.append_eq_nil_iff, List.append_eq_nil_iff, List.map_eq_nil_iff] at empty
    rw [empty.1.2] at begins
    cases begins
  have made : it.trip s.origin.location s.destination.location = Trip.ofLegs none
      s.origin.location s.destination.location (front ++ legs.map Leg.ride ++ back)
      (some (UInt32.ofNat it.changes)) := by
    unfold Itinerary.trip
    rw [madeFront, rides.made, madeBack]
    rfl
  unfold Trip.ofLegs at made
  rw [dif_pos nonempty] at made
  refine ⟨_, made, journey_of_parts sound served passes rides approaches recedes ?_ ?_ rfl rfl⟩
  · rw [List.head?_map, begins, Option.map_some]
  · rw [List.getLast?_map, ends, Option.map_some]

/-- The places of a search are those of its timetable. -/
structure Resolved (metric : Metric) (tt : Timetable) (s : Search) : Prop where
  origin : ∃ l unknown, Timetable.resolve metric tt l unknown = .ok s.origin
  destination : ∃ l unknown, Timetable.resolve metric tt l unknown = .ok s.destination
  via : ∀ via, s.via = some via → ∃ l unknown, Timetable.resolve metric tt l unknown = .ok via

/-- What is kept of a search becomes trips without exception, and all of them are journeys. -/
theorem trips_are_journeys {file : TimetableFile} {metric : Metric} {trips : List Trip}
    (loaded : (Timetable.ofFile file).value = .ok tt) (resolved : s.Resolved metric tt)
    (found : s.trips? tt = some trips) :
    (∃ its, s.itineraries? tt = some its ∧ ∀ it ∈ Itinerary.best its,
      ∃ t, it.trip s.origin.location s.destination.location = .ok t) ∧
    ∀ t ∈ trips, s.Journey tt t := by
  have sound := Timetable.sound_of_ofFile loaded
  obtain ⟨_, _, origin⟩ := resolved.origin
  obtain ⟨_, _, destination⟩ := resolved.destination
  have served : ∀ via, s.via = some via → via.ServedBy tt := by
    intro via wanted
    obtain ⟨_, _, known⟩ := resolved.via via wanted
    exact Timetable.servedBy_of_resolve known
  obtain ⟨its, explored, found⟩ := Option.bind_eq_some_iff.mp found
  cases found
  have converts : ∀ it ∈ Itinerary.best its,
      ∃ t, it.trip s.origin.location s.destination.location = .ok t ∧ s.Journey tt t := by
    intro it kept
    obtain ⟨inside, passes⟩ := explored_of_mem explored (Itinerary.mem_of_mem_best kept)
    exact exists_trip sound (Timetable.servedBy_of_resolve origin)
      (Timetable.servedBy_of_resolve destination) served inside.feasible passes
  refine ⟨⟨its, explored, fun it kept => ?_⟩, fun t mem => ?_⟩
  · obtain ⟨t, made, -⟩ := converts it kept
    exact ⟨t, made⟩
  · obtain ⟨it, kept, made⟩ := List.mem_filterMap.mp (Trip.mem_of_mem_inOrder mem)
    obtain ⟨u, converted, journey⟩ := converts it kept
    rw [converted] at made
    cases made
    exact journey

/-- Whatever a provider searches for has been resolved. -/
theorem resolved_of_searchOf {ts : TimetableService} {q : TripQuery}
    (found : ts.searchOf q = .ok s) : s.Resolved ts.metric ts.timetable := by
  obtain ⟨origin, originFound, found⟩ := bind_eq_ok found
  obtain ⟨destination, destinationFound, found⟩ := bind_eq_ok found
  cases asked : q.via with
  | none =>
    simp only [asked] at found
    obtain ⟨via, viaFound, found⟩ := bind_eq_ok found
    cases viaFound
    split at found
    · cases found
    · cases found
      exact ⟨⟨_, _, originFound⟩, ⟨_, _, destinationFound⟩, fun via wanted => by cases wanted⟩
  | some place =>
    simp only [asked] at found
    obtain ⟨via, viaFound, found⟩ := bind_eq_ok found
    split at found
    · cases found
    · cases found
      refine ⟨⟨_, _, originFound⟩, ⟨_, _, destinationFound⟩, fun known wanted => ?_⟩
      obtain ⟨e, resolved, rfl⟩ := map_eq_ok viaFound
      cases wanted
      exact ⟨_, _, resolved⟩

end Search

/-! A ride that arrives in the leap second at the end of 2016, and a walk of a minute from there. -/
namespace LeapSecond

def arrivingFile : TimetableFile :=
  Sample.newYear [Sample.bus "1"
    [Sample.call "A" Sample.lastHour, Sample.call "D" (Sample.lastSecond 1000)]]

def query : TripQuery where
  origin := Sample.origin
  via := none
  destination := Sample.place .poi "P" (by decide) (by decide)
  time := Sample.lastHour
  departing := true
  preferences := .none

/-- The walk ends a minute later by the clock, but its duration leaves the leap second out. -/
theorem exists_short_walk :
    ∃ (tt : Timetable) (s : Search) (trips : List Trip) (t : Trip) (walk : IndividualLeg),
      (Timetable.ofFile arrivingFile).value = .ok tt ∧ s.Resolved Sample.metric tt ∧
      s.trips? tt = some trips ∧ t ∈ trips ∧ Leg.own walk ∈ t.legs ∧
      walk.duration ≠ s.walkSpeed.walkTime walk.meters := by
  have checked : ((Timetable.ofFile arrivingFile).value.toOption.any fun tt =>
      (TimetableService.searchOf ⟨tt, 6, Sample.metric⟩ query).toOption.any fun s =>
        (s.trips? tt).any fun trips => trips.any fun t =>
          (t.legs.filterMap Leg.own?).any fun walk =>
            walk.duration != s.walkSpeed.walkTime walk.meters) = true := by
    cbv
  obtain ⟨tt, loaded, checked⟩ := exists_ok_of_any checked
  obtain ⟨s, resolved, checked⟩ := exists_ok_of_any checked
  obtain ⟨trips, found, checked⟩ := (Option.any_eq_true _ _).mp checked
  obtain ⟨t, mem, checked⟩ := List.any_eq_true.mp checked
  obtain ⟨walk, walkMem, shorter⟩ := List.any_eq_true.mp checked
  obtain ⟨leg, legMem, own⟩ := List.mem_filterMap.mp walkMem
  refine ⟨tt, s, trips, t, walk, loaded, Search.resolved_of_searchOf resolved, found, mem, ?_,
    bne_iff_ne.mp shorter⟩
  cases leg with
  | ride => cases own
  | own other =>
    cases own
    exact legMem

theorem trips_are_journeys_leapSecond :
    ∃ (tt : Timetable) (s : Search) (trips : List Trip),
      (Timetable.ofFile arrivingFile).value = .ok tt ∧ s.Resolved Sample.metric tt ∧
      s.trips? tt = some trips ∧
      (∃ its, s.itineraries? tt = some its ∧ ∀ it ∈ Itinerary.best its,
        ∃ t, it.trip s.origin.location s.destination.location = .ok t) ∧
      ∀ t ∈ trips, s.Journey tt t := by
  obtain ⟨tt, s, trips, t, walk, loaded, resolved, found, -⟩ := exists_short_walk
  exact ⟨tt, s, trips, loaded, resolved, found, Search.trips_are_journeys loaded resolved found⟩

/-- Measured as a duration a walk need not last what its metres take. -/
theorem not_every_walk_lasts :
    ¬ ∀ (file : TimetableFile) (tt : Timetable) (metric : Metric) (s : Search)
      (trips : List Trip), (Timetable.ofFile file).value = .ok tt → s.Resolved metric tt →
      s.trips? tt = some trips → ∀ t ∈ trips, ∀ walk, Leg.own walk ∈ t.legs →
        walk.duration = s.walkSpeed.walkTime walk.meters := by
  intro claimed
  obtain ⟨tt, s, trips, t, walk, loaded, resolved, found, mem, walkMem, shorter⟩ :=
    exists_short_walk
  exact shorter (claimed _ tt _ s trips loaded resolved found t mem walk walkMem)

end LeapSecond

end JourneyPlanner

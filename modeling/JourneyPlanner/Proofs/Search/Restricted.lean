import Mathlib
import JourneyPlanner.Proofs.Representatives
import JourneyPlanner.Proofs.Search.Feasible
import JourneyPlanner.Proofs.Timetable.Restricted
import JourneyPlanner.Timetable.Connection

set_option autoImplicit false

/-!
Services that may not be used do not matter. A search finds what it finds where the timetable holds
only the services that may be used and all preferences but the pace are given up: those services
have other numbers there, but nothing of what is compared or shown depends on more than their order.
-/
namespace JourneyPlanner

/-- Preferences that leave out no service. -/
def Preferences.unfiltered (p : Preferences) : Preferences :=
  { p with products := .none, accessibility := .none, flags := .empty }

/-- The same search without regard to products, flags and accessibility. -/
def Search.unfiltered (s : Search) : Search :=
  { s with preferences := s.preferences.unfiltered }

/-- The same ride on the service as it is numbered among the given ones. -/
def Ride.placedIn (services : List Service) (r : Ride) : Ride :=
  { r with service := r.service.placedIn services }

namespace Boarding

theorem ridesFrom_placedIn {services : List Service} (b : Boarding) (passed ahead : List Call) :
    (b.placedIn services).ridesFrom passed ahead =
      (b.ridesFrom passed ahead).map (Ride.placedIn services) := by
  induction ahead generalizing passed with
  | nil => rfl
  | cons call rest ih =>
    rw [ridesFrom, ridesFrom, ih]
    rfl

theorem rides_placedIn {services : List Service} (b : Boarding) :
    (b.placedIn services).rides = b.rides.map (Ride.placedIn services) :=
  b.ridesFrom_placedIn [] b.ahead

end Boarding

namespace Itinerary

/-- The same itinerary on the services as they are numbered among the given ones. -/
def placedIn (services : List Service) (it : Itinerary) : Itinerary :=
  { it with
    first := it.first.placedIn services
    second := it.second.map (Ride.placedIn services) }

variable {services : List Service} {it : Itinerary}

@[simp] theorem changes_placedIn : (it.placedIn services).changes = it.changes := by
  rw [changes, changes, placedIn, Option.toList_map, List.length_map]

theorem rides_placedIn :
    (it.placedIn services).rides = it.rides.map (Ride.placedIn services) := by
  rw [rides, rides, placedIn, Option.toList_map, List.map_cons]

/-- What is compared of itineraries are their times, changes and walks. -/
theorem best_placedIn (its : List Itinerary) :
    best (its.map (placedIn services)) = (best its).map (placedIn services) := by
  have quality : ∀ a b : Itinerary,
      compareQuality (a.placedIn services) (b.placedIn services) = compareQuality a b := by
    intro a b
    simp only [compareQuality, changes_placedIn]
    rfl
  have covered : ∀ k a : Itinerary, ((a.placedIn services).isBeatenBy (k.placedIn services) ||
      (a.placedIn services).ties (k.placedIn services)) = (a.isBeatenBy k || a.ties k) := by
    intro k a
    simp only [isBeatenBy, ties, changes_placedIn]
    rfl
  have sorted : (its.map (placedIn services)).mergeSort (fun a b => (compareQuality a b).isLE) =
      (its.mergeSort fun a b => (compareQuality a b).isLE).map (placedIn services) :=
    (List.map_mergeSort fun a _ b _ => by rw [quality]).symm
  rw [best, best, sorted]
  exact representatives_map (placedIn services) covered _

/-- What is shown of a ride is its line, where it goes and the calls. -/
theorem trip_placedIn (origin destination : Location) :
    (it.placedIn services).trip origin destination = it.trip origin destination := by
  have legs : (it.placedIn services).rides.mapM Ride.leg = it.rides.mapM Ride.leg := by
    rw [rides_placedIn, List.mapM_map]
    rfl
  have last : (it.placedIn services).lastRide.alight = it.lastRide.alight := by
    rw [lastRide, lastRide, placedIn]
    cases it.second <;> rfl
  have finish : (it.placedIn services).finishLegs destination = it.finishLegs destination := by
    rw [finishLegs, finishLegs, last]
    rfl
  rw [trip, trip, legs, finish, changes_placedIn]
  rfl

end Itinerary

namespace Search

variable {s : Search} {tt : Timetable} {start : Access} {b : Boarding} {ride : Ride}

theorem usable_unfiltered (s : Search) (service : Service) :
    s.unfiltered.usable service = true :=
  rfl

/-- The services that a search may use. -/
def usables (s : Search) (tt : Timetable) : List Service :=
  tt.services.filter s.usable

theorem boardingsAt_usables (numbered : Numbered Service.number tt.services) (s : Search)
    (p : Place) :
    (tt.restrict s.usable).boardingsAt p =
      ((tt.boardingsAt p).filter fun b => s.usable b.service).map
        (Boarding.placedIn (s.usables tt)) :=
  Timetable.boardingsAt_restrict numbered p

theorem mem_usables_of_boarded {p : Place} (boarded : b ∈ tt.boardingsAt p)
    (usable : s.usable b.service = true) : b.service ∈ s.usables tt :=
  List.mem_filter.mpr ⟨(Timetable.mem_boardingsAt.mp boarded).1, usable⟩

theorem itinerary?_unfiltered (services : List Service) (s : Search) (start : Access) (first : Ride)
    (second : Option Ride) (finish : Access) :
    s.unfiltered.itinerary? start (first.placedIn services) (second.map (Ride.placedIn services))
      finish = (s.itinerary? start first second finish).map (Itinerary.placedIn services) := by
  have last : ((second.map (Ride.placedIn services)).getD (first.placedIn services)).alight =
      (second.getD first).alight := by cases second <;> rfl
  have speed : s.unfiltered.walkSpeed = s.walkSpeed := rfl
  have board : (first.placedIn services).board = first.board := rfl
  rw [itinerary?, itinerary?, last, speed, board]
  cases first.board.departure.shift? (-(s.walkSpeed.walkTime start.meters)) with
  | none => rfl
  | some departure =>
    cases (second.getD first).alight.arrival.shift? (s.walkSpeed.walkTime finish.meters) with
    | none => rfl
    | some arrival => rfl

theorem directRide?_unfiltered (services : List Service) (s : Search) (b : Boarding) :
    s.unfiltered.directRide? (b.placedIn services) =
      (s.directRide? b).map fun next => (next.1.placedIn services, next.2) := by
  rw [directRide?, directRide?, Boarding.rides_placedIn, List.findSome?_map, List.map_findSome?]
  refine congrArg (List.findSome? · b.rides) (funext fun ride => ?_)
  simp only [Function.comp_apply, Option.map_map]
  rfl

theorem ridesBefore_unfiltered (services : List Service) (s : Search) (b : Boarding) :
    s.unfiltered.ridesBefore (b.placedIn services) =
      (s.ridesBefore b).map (Ride.placedIn services) := by
  rw [ridesBefore, Boarding.rides_placedIn, List.takeWhile_map]
  rfl

/-- Where a ride on a usable service ends, the connections are the same: services that differ do so
in their new numbers too. -/
theorem connections_unfiltered (numbered : Numbered Service.number tt.services)
    (known : ride.service ∈ s.usables tt) (ready : Instant) :
    s.unfiltered.connections (tt.restrict s.usable) (ride.placedIn (s.usables tt)) ready =
      (s.connections tt ride ready).map (Boarding.placedIn (s.usables tt)) := by
  have ascending : (s.usables tt).Pairwise fun s t => s.number < t.number :=
    Timetable.ascending_filter numbered
  have alight : (ride.placedIn (s.usables tt)).alight = ride.alight := rfl
  rw [connections, connections, alight, boardingsAt_usables numbered, List.filter_map,
    List.filter_filter]
  refine congrArg _ (List.filter_congr fun b boarded => ?_)
  cases usable : s.usable b.service with
  | false => rw [Bool.and_false, Bool.and_false]
  | true =>
    have knownToo := mem_usables_of_boarded boarded usable
    have numbers : decide ((b.placedIn (s.usables tt)).service.number ≠
        (ride.placedIn (s.usables tt)).service.number) =
          decide (b.service.number ≠ ride.service.number) :=
      decide_eq_decide.mpr (not_congr (Service.number_placedIn_inj ascending knownToo known))
    rw [Function.comp_apply, numbers, usable_unfiltered]
    simp only [Bool.and_true]
    rfl

theorem changing?_unfiltered (numbered : Numbered Service.number tt.services)
    (known : ride.service ∈ s.usables tt) (start : Access) :
    s.unfiltered.changing? (tt.restrict s.usable) start (ride.placedIn (s.usables tt)) =
      (s.changing? tt start ride).map (List.map (Itinerary.placedIn (s.usables tt))) := by
  have arrival : (ride.placedIn (s.usables tt)).alight = ride.alight := rfl
  have change : (tt.restrict s.usable).minChange = tt.minChange := rfl
  rw [changing?, changing?, arrival, change]
  cases ride.alight.arrival.shift? tt.minChange with
  | none => rfl
  | some ready =>
    have next : ((s.connections tt ride ready).map (Boarding.placedIn (s.usables tt))).filterMap
        s.unfiltered.directRide? = ((s.connections tt ride ready).filterMap s.directRide?).map
          fun next => (next.1.placedIn (s.usables tt), next.2) := by
      rw [List.filterMap_map, List.map_filterMap]
      exact congrArg (List.filterMap · _) (funext (directRide?_unfiltered _ s))
    simp only [Option.bind_some, bind]
    rw [connections_unfiltered numbered known, next]
    exact mapM_map_eq fun next _ => itinerary?_unfiltered _ s start ride (some next.1) next.2

theorem boarding?_unfiltered (numbered : Numbered Service.number tt.services)
    (known : b.service ∈ s.usables tt) (start : Access) :
    s.unfiltered.boarding? (tt.restrict s.usable) start (b.placedIn (s.usables tt)) =
      (s.boarding? tt start b).map (List.map (Itinerary.placedIn (s.usables tt))) := by
  have owned : ∀ ride ∈ s.ridesBefore b, ride.service ∈ s.usables tt := by
    intro ride rode
    obtain ⟨between, alight, after, -, rfl⟩ :=
      Boarding.mem_rides.mp (mem_rides_of_mem_ridesBefore rode)
    exact known
  rw [boarding?, boarding?, ridesBefore_unfiltered, directRide?_unfiltered, Option.toList_map,
    mapM_map_eq fun ride rode => changing?_unfiltered numbered (owned ride rode) start,
    mapM_map_eq fun next _ => itinerary?_unfiltered _ s start next.1 none next.2]
  cases (s.ridesBefore b).mapM (s.changing? tt start) with
  | none => rfl
  | some changed =>
    cases (s.directRide? b).toList.mapM fun next => s.itinerary? start next.1 none next.2 with
    | none => rfl
    | some direct =>
      simp only [Option.map_some, Option.bind_some, bind, pure, List.map_append, List.map_flatten]

theorem starting?_unfiltered (numbered : Numbered Service.number tt.services) (s : Search)
    (start : Access) :
    s.unfiltered.starting? (tt.restrict s.usable) start =
      (s.starting? tt start).map (List.map (Itinerary.placedIn (s.usables tt))) := by
  have boardings : ((tt.restrict s.usable).boardingsAt start.station).filter
      (fun b => s.unfiltered.usable b.service) =
        ((tt.boardingsAt start.station).filter fun b => s.usable b.service).map
          (Boarding.placedIn (s.usables tt)) := by
    rw [boardingsAt_usables numbered]
    exact List.filter_eq_self.mpr fun b _ => usable_unfiltered s b.service
  have owned : ∀ b ∈ (tt.boardingsAt start.station).filter fun b => s.usable b.service,
      b.service ∈ s.usables tt := by
    intro b mem
    obtain ⟨boarded, usable⟩ := List.mem_filter.mp mem
    exact mem_usables_of_boarded boarded usable
  rw [starting?, starting?, boardings,
    mapM_map_eq fun b mem => boarding?_unfiltered numbered (owned b mem) start]
  cases ((tt.boardingsAt start.station).filter fun b => s.usable b.service).mapM
      (s.boarding? tt start) with
  | none => rfl
  | some parts =>
    simp only [Option.map_some, Option.bind_some, bind, pure, List.map_flatten]

/-- Rides pass the same stations whatever the numbers of their services are. -/
theorem passesVia_unfiltered (services : List Service) (s : Search) (it : Itinerary) :
    s.unfiltered.passesVia (it.placedIn services) = s.passesVia it := by
  have via : s.unfiltered.via = s.via := rfl
  rw [passesVia, passesVia, via]
  cases s.via with
  | none => rfl
  | some via =>
    change (it.placedIn services).rides.any _ = it.rides.any _
    rw [Itinerary.rides_placedIn, List.any_map]
    rfl

/-- The search finds the same itineraries, on the services as they are numbered anew. -/
theorem itineraries?_unfiltered (numbered : Numbered Service.number tt.services) (s : Search) :
    s.unfiltered.itineraries? (tt.restrict s.usable) =
      (s.itineraries? tt).map (List.map (Itinerary.placedIn (s.usables tt))) := by
  have parts : s.unfiltered.origin.accesses.mapM (s.unfiltered.starting? (tt.restrict s.usable)) =
      (s.origin.accesses.mapM (s.starting? tt)).map
        (List.map (List.map (Itinerary.placedIn (s.usables tt)))) := by
    have same : (s.origin.accesses.map id).mapM _ = _ :=
      mapM_map_eq fun start _ => starting?_unfiltered numbered s start
    rwa [List.map_id] at same
  rw [itineraries?, itineraries?, parts]
  cases s.origin.accesses.mapM (s.starting? tt) with
  | none => rfl
  | some parts =>
    have passes : s.unfiltered.passesVia ∘ Itinerary.placedIn (s.usables tt) = s.passesVia :=
      funext (passesVia_unfiltered _ s)
    simp only [Option.map_some, Option.bind_some, bind, pure, ← List.map_flatten, List.filter_map,
      passes]

end Search

namespace Timetable

/-- Services that may not be used have no part in what is found: the trips are those, with all that
they tell, of the timetable without these services, where the search pays no regard to products,
flags and accessibility. The departures of that timetable are those of the services left, in the
same order. -/
theorem trips_of_restricted {file : TimetableFile} {tt : Timetable}
    (loaded : (ofFile file).value = .ok tt) (s : Search) :
    s.unfiltered.trips? (tt.restrict s.usable) = s.trips? tt ∧
      (tt.restrict s.usable).boardings =
        (tt.boardings.filter fun b => s.usable b.service).map
          (Boarding.placedIn (tt.services.filter s.usable)) := by
  have numbered := (sound_of_ofFile loaded).services_numbered
  refine ⟨?_, boardings_restrict numbered⟩
  rw [Search.trips?, Search.trips?, Search.itineraries?_unfiltered numbered]
  cases s.itineraries? tt with
  | none => rfl
  | some its =>
    have shown : ∀ it : Itinerary, ((it.placedIn (s.usables tt)).trip s.unfiltered.origin.location
        s.unfiltered.destination.location).toOption =
          (it.trip s.origin.location s.destination.location).toOption := fun it =>
      congrArg Except.toOption (Itinerary.trip_placedIn _ _)
    simp only [Option.map_some, Option.bind_some, bind, pure, Itinerary.best_placedIn,
      List.filterMap_map, Function.comp_def, shown]

end Timetable

/-! Buses of which only some take bicycles; by these one changes on the way. -/
namespace Bicycles

def carrying (r : ServiceRecord) : ServiceRecord :=
  { r with bikesAllowed := true }

def file : TimetableFile :=
  Sample.file (Sample.morning 0) (Sample.morning 600)
    [Sample.station "A" 52000000, Sample.station "B" 52100000, Sample.station "D" 52200000]
    [Sample.bus "1" [Sample.call "A" (Sample.morning 0), Sample.call "D" (Sample.morning 60)],
      carrying (Sample.bus "2"
        [Sample.call "A" (Sample.morning 0), Sample.call "B" (Sample.morning 20)]),
      Sample.bus "3" [Sample.call "B" (Sample.morning 25), Sample.call "D" (Sample.morning 50)],
      carrying (Sample.bus "4"
        [Sample.call "B" (Sample.morning 30), Sample.call "D" (Sample.morning 70)])]

/-- From one station to another with a bicycle. -/
def search (origin station : Place) : Search where
  origin := { location := origin.location, accesses := [.atStation origin] }
  via := none
  destination := { location := station.location, accesses := [.atStation station] }
  preferences := { Preferences.none with flags := .ofList [.bike] }

theorem trips_of_restricted_bicycles :
    ∃ (tt : Timetable) (s : Search) (trips : List Trip),
      (Timetable.ofFile file).value = .ok tt ∧ tt.services.length = 4 ∧
      (tt.restrict s.usable).services.length = 2 ∧ s.trips? tt = some trips ∧ trips.length = 1 ∧
      s.unfiltered.trips? tt ≠ some trips ∧
      s.unfiltered.trips? (tt.restrict s.usable) = s.trips? tt ∧
      (tt.restrict s.usable).boardings =
        (tt.boardings.filter fun b => s.usable b.service).map
          (Boarding.placedIn (tt.services.filter s.usable)) := by
  have checked : ((Timetable.ofFile file).value.toOption.any fun tt =>
      tt.places.any fun origin => tt.places.any fun station =>
        ((search origin station).trips? tt).any fun trips =>
          ((search origin station).unfiltered.trips? tt).any fun others =>
            decide (tt.services.length = 4) &&
              decide ((tt.restrict (search origin station).usable).services.length = 2) &&
                decide (trips.length = 1) && decide (others.length = 2)) = true := by
    cbv
  obtain ⟨tt, loaded, checked⟩ := exists_ok_of_any checked
  obtain ⟨origin, -, checked⟩ := List.any_eq_true.mp checked
  obtain ⟨station, -, checked⟩ := List.any_eq_true.mp checked
  obtain ⟨trips, found, checked⟩ := (Option.any_eq_true _ _).mp checked
  obtain ⟨others, foundToo, checked⟩ := (Option.any_eq_true _ _).mp checked
  simp only [Bool.and_eq_true, decide_eq_true_eq] at checked
  obtain ⟨⟨⟨services, left⟩, one⟩, two⟩ := checked
  refine ⟨tt, search origin station, trips, loaded, services, left, found, one, fun same => ?_,
    Timetable.trips_of_restricted loaded (search origin station)⟩
  rw [foundToo, Option.some.injEq] at same
  rw [same, one] at two
  cases two

end Bicycles

end JourneyPlanner

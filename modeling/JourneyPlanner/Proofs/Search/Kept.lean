import Mathlib
import JourneyPlanner.Proofs.Search.Soundness
import JourneyPlanner.Proofs.Timetable.Named
import JourneyPlanner.Proofs.Trip.Segments

set_option autoImplicit false

/-!
The trips that show what a search keeps. Each itinerary makes a trip with its times, but of trips of
one identifier that stand side by side only the first is shown. Two itineraries that are kept may
have one identifier where they differ by less than a second, or where the marks between the parts of
an identifier stand in the parts themselves; elsewhere none of them is lost.
-/
namespace JourneyPlanner

/-- No bar and no dash stands in the ids of places, no bar on a vehicle, and all calls are at whole
seconds. -/
structure Timetable.Plain (tt : Timetable) : Prop where
  ids : ∀ p ∈ tt.places, '|' ∉ p.id.toList ∧ '-' ∉ p.id.toList
  labels : ∀ service ∈ tt.services, '|' ∉ (service.line.label.getD "").toList
  seconds : ∀ service ∈ tt.services, ∀ call ∈ service.calls,
    call.arrival.nanos = 0 ∧ call.departure.nanos = 0

instance (tt : Timetable) : Decidable tt.Plain :=
  decidable_of_iff ((∀ p ∈ tt.places, '|' ∉ p.id.toList ∧ '-' ∉ p.id.toList) ∧
    (∀ service ∈ tt.services, '|' ∉ (service.line.label.getD "").toList) ∧
    ∀ service ∈ tt.services, ∀ call ∈ service.calls,
      call.arrival.nanos = 0 ∧ call.departure.nanos = 0)
    ⟨fun ⟨ids, labels, seconds⟩ => ⟨ids, labels, seconds⟩,
      fun plain => ⟨plain.ids, plain.labels, plain.seconds⟩⟩

namespace Itinerary

variable {it : Itinerary} {origin destination : Location} {t : Trip} {front back : List Leg}

theorem trip_eq_ok (made : it.trip origin destination = .ok t) :
    ∃ front legs back, it.startLegs origin = .ok front ∧ it.rides.mapM Ride.leg = .ok legs ∧
      it.finishLegs destination = .ok back ∧ t.legs = front ++ legs.map .ride ++ back ∧
      t.id = Leg.identifier t.legs := by
  obtain ⟨front, before, made⟩ := bind_eq_ok made
  obtain ⟨legs, rides, made⟩ := bind_eq_ok made
  obtain ⟨back, after, made⟩ := bind_eq_ok made
  unfold Trip.ofLegs at made
  split at made
  · cases made
    exact ⟨front, legs, back, before, rides, after, rfl, rfl⟩
  · cases made

theorem numChanges_of_trip (made : it.trip origin destination = .ok t) :
    t.numChanges = some (UInt32.ofNat it.changes) := by
  obtain ⟨front, -, made⟩ := bind_eq_ok made
  obtain ⟨legs, -, made⟩ := bind_eq_ok made
  obtain ⟨back, -, made⟩ := bind_eq_ok made
  unfold Trip.ofLegs at made
  split at made
  · cases made
    rfl
  · cases made

theorem startLegs_eq_ok (made : it.startLegs origin = .ok front) :
    (it.start.onFoot = false ∧ front = []) ∨ (it.start.onFoot = true ∧ ∃ walk, front = [.own walk] ∧
      walk.departure = origin ∧ walk.arrival = it.start.station.location ∧
      walk.departureTime = it.departure) := by
  unfold startLegs at made
  cases foot : it.start.onFoot with
  | false =>
    rw [foot] at made
    cases made
    exact .inl ⟨rfl, rfl⟩
  | true =>
    rw [if_pos foot] at made
    obtain ⟨walk, walked, made⟩ := bind_eq_ok made
    cases made
    rw [IndividualLeg.between_eq_ok walked]
    exact .inr ⟨rfl, _, rfl, rfl, rfl, rfl⟩

theorem finishLegs_eq_ok (made : it.finishLegs destination = .ok back) :
    (it.finish.onFoot = false ∧ back = []) ∨ (it.finish.onFoot = true ∧ ∃ walk, back = [.own walk] ∧
      walk.departure = it.finish.station.location ∧ walk.arrival = destination ∧
      walk.arrivalTime = it.arrival) := by
  unfold finishLegs at made
  cases foot : it.finish.onFoot with
  | false =>
    rw [foot] at made
    cases made
    exact .inl ⟨rfl, rfl⟩
  | true =>
    rw [if_pos foot] at made
    obtain ⟨walk, walked, made⟩ := bind_eq_ok made
    cases made
    rw [IndividualLeg.between_eq_ok walked]
    exact .inr ⟨rfl, _, rfl, rfl, rfl, rfl⟩

theorem length_startLegs (made : it.startLegs origin = .ok front) :
    front.length = it.start.onFoot.toNat := by
  rcases startLegs_eq_ok made with ⟨foot, rfl⟩ | ⟨foot, walk, rfl, -⟩
  · rw [foot]
    rfl
  · rw [foot]
    rfl

theorem length_finishLegs (made : it.finishLegs destination = .ok back) :
    back.length = it.finish.onFoot.toNat := by
  rcases finishLegs_eq_ok made with ⟨foot, rfl⟩ | ⟨foot, walk, rfl, -⟩
  · rw [foot]
    rfl
  · rw [foot]
    rfl

end Itinerary

namespace Search

/-- What is relied on in a search whose places were looked up in a loaded timetable. -/
structure Grounded (s : Search) (tt : Timetable) : Prop where
  sound : tt.Sound
  named : NamedPlaces tt.places
  origin : s.origin.FoundIn tt
  destination : s.destination.FoundIn tt

/-- The legs of a trip that shows an itinerary: those of its rides, with the walks around them. -/
structure Parts (s : Search) (tt : Timetable) (it : Itinerary) (t : Trip) (front : List Leg)
    (legs : List PublicLeg) (back : List Leg) : Prop where
  start : it.startLegs s.origin.location = .ok front
  rides : s.Rides tt it legs
  finish : it.finishLegs s.destination.location = .ok back
  shown : t.legs = front ++ legs.map .ride ++ back
  id : t.id = Leg.identifier t.legs

/-- The trip is made of the itinerary, and departs and arrives with it. -/
structure Shows (s : Search) (it : Itinerary) (t : Trip) : Prop where
  made : it.trip s.origin.location s.destination.location = .ok t
  departure : t.firstDeparture = it.departure
  arrival : t.lastArrival = it.arrival

variable {s : Search} {tt : Timetable} {it other : Itinerary} {t u : Trip}
  {front back frontToo backToo : List Leg} {legs legsToo : List PublicLeg}

theorem grounded_of_resolved {file : TimetableFile} {metric : Metric}
    (loaded : (Timetable.ofFile file).value = .ok tt) (resolved : s.Resolved metric tt) :
    s.Grounded tt := by
  have named := Timetable.named_of_ofFile loaded
  obtain ⟨_, _, origin⟩ := resolved.origin
  obtain ⟨_, _, destination⟩ := resolved.destination
  exact ⟨Timetable.sound_of_ofFile loaded, named, Endpoint.foundIn_of_resolve named origin,
    Endpoint.foundIn_of_resolve named destination⟩

theorem exists_parts (sound : tt.Sound) (feasible : s.Feasible tt it)
    (made : it.trip s.origin.location s.destination.location = .ok t) :
    ∃ front legs back, s.Parts tt it t front legs back := by
  obtain ⟨front, legs, back, start, rides, finish, shown, id⟩ := Itinerary.trip_eq_ok made
  obtain ⟨known, parts⟩ := exists_rides sound feasible
  have same : legs = known := Except.ok.inj (rides.symm.trans parts.made)
  exact ⟨front, legs, back, start, same ▸ parts, finish, shown, id⟩

section Times

theorem Parts.departure (parts : s.Parts tt it t front legs back)
    (plain : ∀ a ∈ s.origin.accesses, a.onFoot = false → a.meters = 0)
    (feasible : s.Feasible tt it) : t.firstDeparture = it.departure := by
  rw [Trip.firstDeparture]
  rcases Itinerary.startLegs_eq_ok parts.start with ⟨riding, rfl⟩ | ⟨-, walk, rfl, -, -, departs⟩
  · obtain ⟨leg, begins, tells⟩ := parts.rides.first
    have head : t.legs.head? = some (.ride leg) := by
      rw [parts.shown, List.nil_append, List.head?_append, List.head?_map, begins]
      rfl
    have still := feasible.departs
    rw [plain _ feasible.start_mem riding, WalkSpeed.walkTime_zero, Int.neg_zero] at still
    rw [Trip.firstLeg_of_head? head, Instant.eq_of_shift?_zero still]
    exact tells.departs
  · have head : t.legs.head? = some (.own walk) := by
      rw [parts.shown]
      rfl
    rw [Trip.firstLeg_of_head? head]
    exact departs

theorem Parts.arrival (parts : s.Parts tt it t front legs back)
    (plain : ∀ a ∈ s.destination.accesses, a.onFoot = false → a.meters = 0)
    (feasible : s.Feasible tt it) : t.lastArrival = it.arrival := by
  rw [Trip.lastArrival]
  rcases Itinerary.finishLegs_eq_ok parts.finish with ⟨riding, rfl⟩ | ⟨-, walk, rfl, -, -, arrives⟩
  · obtain ⟨leg, ends, tells⟩ := parts.rides.last
    have last : t.legs.getLast? = some (.ride leg) := by
      rw [parts.shown, List.append_nil, List.getLast?_append, List.getLast?_map, ends]
      rfl
    have still := feasible.arrives
    rw [plain _ feasible.finish_mem riding, WalkSpeed.walkTime_zero] at still
    rw [Trip.lastLeg_of_getLast? last, Instant.eq_of_shift?_zero still]
    exact tells.arrives
  · have last : t.legs.getLast? = some (.own walk) := by
      rw [parts.shown]
      exact List.getLast?_concat
    rw [Trip.lastLeg_of_getLast? last]
    exact arrives

end Times

section Identifiers

theorem bar_not_mem_place (plain : tt.Plain) (named : NamedPlaces tt.places) {p : Place}
    (known : p ∈ tt.places) : '|' ∉ p.location.key.toList := by
  rw [named.key known]
  exact (plain.ids p known).1

theorem dash_not_mem_place (plain : tt.Plain) (named : NamedPlaces tt.places) {p : Place}
    (known : p ∈ tt.places) : '-' ∉ p.location.key.toList := by
  rw [named.key known]
  exact (plain.ids p known).2

theorem bar_not_mem_endpoint (plain : tt.Plain) {e : Endpoint} (found : e.FoundIn tt) :
    '|' ∉ e.location.key.toList := by
  rcases found.keyed with ⟨p, known, key⟩ | ⟨point, key⟩
  · rw [key]
    exact (plain.ids p known).1
  · rw [key]
    exact point.not_mem_text rfl (by decide)

theorem Parts.bar_not_mem (parts : s.Parts tt it t front legs back) (plain : tt.Plain)
    (grounded : s.Grounded tt) (feasible : s.Feasible tt it) :
    ∀ leg ∈ t.legs, '|' ∉ leg.key.toList := by
  have place {p : Place} (known : p ∈ tt.places) := bar_not_mem_place plain grounded.named known
  intro leg mem
  rw [parts.shown] at mem
  rcases List.mem_append.mp mem with mem | mem
  · rcases List.mem_append.mp mem with mem | mem
    · rcases Itinerary.startLegs_eq_ok parts.start with ⟨-, rfl⟩ |
        ⟨-, walk, rfl, departs, arrives, -⟩
      · cases mem
      · rw [List.mem_singleton.mp mem]
        apply Leg.bar_not_mem_key_of_walk
        · rw [departs]
          exact bar_not_mem_endpoint plain grounded.origin
        · rw [arrives]
          exact place (grounded.origin.served.stations _ feasible.start_mem).1
    · obtain ⟨ride, inside, rfl⟩ := List.mem_map.mp mem
      obtain ⟨r, runs, -, tells⟩ := parts.rides.parts ride inside
      exact Leg.bar_not_mem_key_of_tells tells (place (runs.board_known grounded.sound))
        (place (runs.alight_known grounded.sound)) (plain.labels _ runs.scheduled)
  · rcases Itinerary.finishLegs_eq_ok parts.finish with ⟨-, rfl⟩ |
      ⟨-, walk, rfl, departs, arrives, -⟩
    · cases mem
    · rw [List.mem_singleton.mp mem]
      apply Leg.bar_not_mem_key_of_walk
      · rw [departs]
        exact place (grounded.destination.served.stations _ feasible.finish_mem).1
      · rw [arrives]
        exact bar_not_mem_endpoint plain grounded.destination

/-- All ways to a place are walks or none is, so the walks stand at the same ends of all trips. -/
theorem Parts.keys_eq (parts : s.Parts tt it t front legs back)
    (partsToo : s.Parts tt other u frontToo legsToo backToo) (plain : tt.Plain)
    (grounded : s.Grounded tt) (feasible : s.Feasible tt it) (feasibleToo : s.Feasible tt other)
    (same : t.id = u.id) :
    (legs.map Leg.ride).map Leg.key = (legsToo.map Leg.ride).map Leg.key := by
  have identifiers : Leg.identifier t.legs = Leg.identifier u.legs := by
    rw [← parts.id, same, partsToo.id]
  have keys := Leg.keys_of_identifier t.nonempty u.nonempty
    (parts.bar_not_mem plain grounded feasible) (partsToo.bar_not_mem plain grounded feasibleToo)
    identifiers
  have fronts : front.length = frontToo.length := by
    rw [Itinerary.length_startLegs parts.start, Itinerary.length_startLegs partsToo.start,
      grounded.origin.uniform.alike _ feasible.start_mem _ feasibleToo.start_mem]
  have backs : back.length = backToo.length := by
    rw [Itinerary.length_finishLegs parts.finish, Itinerary.length_finishLegs partsToo.finish,
      grounded.destination.uniform.alike _ feasible.finish_mem _ feasibleToo.finish_mem]
  rw [parts.shown, partsToo.shown] at keys
  simp only [List.map_append] at keys
  have before := (List.append_inj' keys (by simp only [List.length_map, backs])).1
  exact (List.append_inj before (by simp only [List.length_map, fronts])).2

/-- Rides of one key in a plain timetable begin and end together. -/
theorem ends_eq_of_keys (plain : tt.Plain) (grounded : s.Grounded tt) {r q : Ride}
    (runs : r.RunsIn tt) (runsToo : q.RunsIn tt) {leg legToo : PublicLeg} (tells : leg.Tells r)
    (tellsToo : legToo.Tells q) (same : (Leg.ride leg).key = (Leg.ride legToo).key) :
    (r.board.station.id = q.board.station.id ∧ r.board.departure = q.board.departure) ∧
      r.alight.station.id = q.alight.station.id ∧ r.alight.arrival = q.alight.arrival := by
  have dash {p : Place} (known : p ∈ tt.places) := dash_not_mem_place plain grounded.named known
  have whole {r : Ride} (runs : r.RunsIn tt) {call : Call} (mem : call ∈ r.calls) :=
    plain.seconds _ runs.scheduled call (runs.calls_mem mem)
  have board := runs.board_known grounded.sound
  have boardToo := runsToo.board_known grounded.sound
  have alight := runs.alight_known grounded.sound
  have alightToo := runsToo.alight_known grounded.sound
  obtain ⟨boards, alights, departs, arrives⟩ := Leg.eq_of_ride_keys tells tellsToo same (dash board)
    (dash boardToo) (dash alight) (dash alightToo)
  rw [grounded.named.key board, grounded.named.key boardToo] at boards
  rw [grounded.named.key alight, grounded.named.key alightToo] at alights
  refine ⟨⟨boards, ?_⟩, alights, ?_⟩
  · exact Instant.eq_of_second departs (whole runs List.mem_cons_self).2
      (whole runsToo List.mem_cons_self).2
  · exact Instant.eq_of_second arrives (whole runs r.alight_mem).1 (whole runsToo q.alight_mem).1

theorem Feasible.start_station (feasible : s.Feasible tt it) (grounded : s.Grounded tt) :
    it.first.board.station = it.start.station :=
  Place.eq_of_is grounded.sound (feasible.runs.board_known grounded.sound)
    (grounded.origin.served.stations _ feasible.start_mem).1 feasible.boards

theorem Feasible.finish_station (feasible : s.Feasible tt it) (grounded : s.Grounded tt) :
    it.lastRide.alight.station = it.finish.station :=
  Place.eq_of_is grounded.sound (feasible.lastRide_runs.alight_known grounded.sound)
    (grounded.destination.served.stations _ feasible.finish_mem).1 feasible.alights

/-- In a plain timetable itineraries whose trips have one identifier are equally good. -/
theorem Parts.ties (parts : s.Parts tt it t front legs back)
    (partsToo : s.Parts tt other u frontToo legsToo backToo) (plain : tt.Plain)
    (grounded : s.Grounded tt) (feasible : s.Feasible tt it) (feasibleToo : s.Feasible tt other)
    (same : t.id = u.id) : it.ties other = true := by
  have keys := parts.keys_eq partsToo plain grounded feasible feasibleToo same
  obtain ⟨first, begins, tells⟩ := parts.rides.first
  obtain ⟨firstToo, beginsToo, tellsToo⟩ := partsToo.rides.first
  obtain ⟨last, ends, tellsLast⟩ := parts.rides.last
  obtain ⟨lastToo, endsToo, tellsLastToo⟩ := partsToo.rides.last
  have changes : it.changes = other.changes := by
    have lengths := congrArg List.length keys
    simp only [List.length_map, parts.rides.length, partsToo.rides.length] at lengths
    omega
  have departure : it.departure = other.departure := by
    have heads := congrArg List.head? keys
    simp only [List.head?_map, begins, beginsToo, Option.map_some, Option.some.injEq] at heads
    obtain ⟨⟨stations, times⟩, -⟩ :=
      ends_eq_of_keys plain grounded feasible.runs feasibleToo.runs tells tellsToo heads
    rw [feasible.start_station grounded, feasibleToo.start_station grounded] at stations
    have departs := feasible.departs
    rw [grounded.origin.access_eq grounded.named feasible.start_mem feasibleToo.start_mem stations,
      times, feasibleToo.departs, Option.some.injEq] at departs
    exact departs.symm
  have arrival : it.arrival = other.arrival := by
    have lasts := congrArg List.getLast? keys
    simp only [List.getLast?_map, ends, endsToo, Option.map_some, Option.some.injEq] at lasts
    obtain ⟨-, stations, times⟩ := ends_eq_of_keys plain grounded feasible.lastRide_runs
      feasibleToo.lastRide_runs tellsLast tellsLastToo lasts
    rw [feasible.finish_station grounded, feasibleToo.finish_station grounded] at stations
    have arrives := feasible.arrives
    rw [grounded.destination.access_eq grounded.named feasible.finish_mem feasibleToo.finish_mem
      stations, times, feasibleToo.arrives, Option.some.injEq] at arrives
    exact arrives.symm
  rw [Itinerary.ties, decide_eq_true departure, decide_eq_true arrival, decide_eq_true changes]
  rfl

end Identifiers

theorem forall₂_filterMap {α β : Type} {f : α → Option β} {related : α → β → Prop}
    {elements : List α} (each : ∀ a ∈ elements, ∃ b, f a = some b ∧ related a b) :
    List.Forall₂ related elements (elements.filterMap f) := by
  induction elements with
  | nil => exact .nil
  | cons a rest ih =>
    obtain ⟨b, made, holds⟩ := each a List.mem_cons_self
    rw [List.filterMap_cons_some made]
    exact .cons holds (ih fun c mem => each c (List.mem_cons_of_mem a mem))

section Showing

variable {file : TimetableFile} {metric : Metric} {its : List Itinerary}

/-- The trips of the itineraries that are kept. -/
def keptTrips (s : Search) (its : List Itinerary) : List Trip :=
  (Itinerary.best its).filterMap fun it =>
    (it.trip s.origin.location s.destination.location).toOption

theorem trips?_of_itineraries? (found : s.itineraries? tt = some its) :
    s.trips? tt = some (Trip.inOrder (s.keptTrips its)) := by
  rw [trips?, found]
  rfl

theorem feasible_of_mem_best (found : s.itineraries? tt = some its)
    (kept : it ∈ Itinerary.best its) : s.Feasible tt it :=
  (explored_of_mem found (Itinerary.mem_of_mem_best kept)).1.feasible

theorem exists_shows (loaded : (Timetable.ofFile file).value = .ok tt)
    (resolved : s.Resolved metric tt) (found : s.itineraries? tt = some its)
    (kept : it ∈ Itinerary.best its) : ∃ t, s.Shows it t := by
  have grounded := grounded_of_resolved loaded resolved
  have served : ∀ via, s.via = some via → via.ServedBy tt := by
    intro via wanted
    obtain ⟨_, _, known⟩ := resolved.via via wanted
    exact Timetable.servedBy_of_resolve known
  obtain ⟨inside, passes⟩ := explored_of_mem found (Itinerary.mem_of_mem_best kept)
  have feasible := inside.feasible
  obtain ⟨t, made, -⟩ := exists_trip grounded.sound grounded.origin.served
    grounded.destination.served served feasible passes
  obtain ⟨front, legs, back, parts⟩ := exists_parts grounded.sound feasible made
  exact ⟨t, made, parts.departure grounded.origin.uniform.riding feasible,
    parts.arrival grounded.destination.uniform.riding feasible⟩

theorem forall₂_keptTrips (loaded : (Timetable.ofFile file).value = .ok tt)
    (resolved : s.Resolved metric tt) (found : s.itineraries? tt = some its) :
    List.Forall₂ s.Shows (Itinerary.best its) (s.keptTrips its) := by
  refine forall₂_filterMap fun it kept => ?_
  obtain ⟨t, shows⟩ := exists_shows loaded resolved found kept
  refine ⟨t, ?_, shows⟩
  rw [shows.made]
  rfl

theorem exists_shown (loaded : (Timetable.ofFile file).value = .ok tt)
    (resolved : s.Resolved metric tt) (found : s.itineraries? tt = some its)
    (mem : t ∈ s.keptTrips its) : ∃ it ∈ Itinerary.best its, s.Shows it t := by
  obtain ⟨it, kept, made⟩ := List.mem_filterMap.mp mem
  obtain ⟨u, shows⟩ := exists_shows loaded resolved found kept
  rw [shows.made] at made
  cases made
  exact ⟨it, kept, shows⟩

/-- No two itineraries that are kept are equally good, so their trips have different
identifiers. -/
theorem keptTrips_distinct (plain : tt.Plain) (loaded : (Timetable.ofFile file).value = .ok tt)
    (resolved : s.Resolved metric tt) (found : s.itineraries? tt = some its) :
    (s.keptTrips its).Pairwise fun t u => t.id ≠ u.id := by
  have grounded := grounded_of_resolved loaded resolved
  have parted : ∀ it ∈ Itinerary.best its, ∀ t,
      (it.trip s.origin.location s.destination.location).toOption = some t →
      s.Feasible tt it ∧ ∃ front legs back, s.Parts tt it t front legs back := by
    intro it kept t made
    have feasible := feasible_of_mem_best found kept
    exact ⟨feasible, exists_parts grounded.sound feasible (toOption_eq_some_iff.mp made)⟩
  refine List.pairwise_filterMap.mpr ((Itinerary.best_pairwise its).imp_of_mem
    fun {k it} mem memToo apart t made u madeToo same => ?_)
  obtain ⟨feasible, _, _, _, parts⟩ := parted k mem t made
  obtain ⟨feasibleToo, _, _, _, partsToo⟩ := parted it memToo u madeToo
  rw [partsToo.ties parts plain grounded feasibleToo feasible same.symm] at apart
  cases apart

/-- The itineraries that are kept differ in departure, arrival or changes. Each makes one trip, that
departs and arrives with it. All that is shown are such trips, and each identifier of theirs is
among them; in a plain timetable all of them are shown. -/
theorem trips_of_best (loaded : (Timetable.ofFile file).value = .ok tt)
    (resolved : s.Resolved metric tt) (found : s.itineraries? tt = some its) :
    (Itinerary.best its).Pairwise (fun k it => it.ties k = false) ∧
      List.Forall₂ s.Shows (Itinerary.best its) (s.keptTrips its) ∧
      ∃ trips, s.trips? tt = some trips ∧ (∀ t ∈ trips, t ∈ s.keptTrips its) ∧
        (∀ t ∈ s.keptTrips its, ∃ u ∈ trips, u.id = t.id) ∧
        (tt.Plain → trips.Perm (s.keptTrips its)) := by
  have shows := forall₂_keptTrips loaded resolved found
  refine ⟨Itinerary.best_pairwise its, shows, Trip.inOrder (s.keptTrips its),
    trips?_of_itineraries? found, fun t => Trip.mem_of_mem_inOrder,
    fun t => Trip.exists_mem_inOrder, fun plain => ?_⟩
  exact Trip.inOrder_perm (keptTrips_distinct plain loaded resolved found)

end Showing

end Search

/-! Two buses of one line from one station to another, an hour apart or less than a second. -/
namespace TwoBuses

/-- So many minutes and thousandths of a second after eight. -/
def moment (minutes millis : Nat) : Instant :=
  { Sample.morning minutes with
    nanos := millis % 1000 * 1000000
    bounded := by omega
    leap := by omega }

/-- The second bus leaves so many minutes and thousandths of a second after the first. -/
def file (minutes millis : Nat) : TimetableFile :=
  Sample.file (Sample.morning 0) (Sample.morning 600)
    [Sample.station "A" 52000000, Sample.station "D" 52100000]
    [Sample.bus "1" [Sample.call "A" (moment 0 0), Sample.call "D" (moment 60 0)],
      Sample.bus "1" [Sample.call "A" (moment minutes millis),
        Sample.call "D" (moment (60 + minutes) millis)]]

def query : TripQuery where
  origin := Sample.origin
  via := none
  destination := Sample.destination
  time := Sample.morning 0
  departing := true
  preferences := .none

theorem exists_plain :
    ∃ (tt : Timetable) (s : Search) (its : List Itinerary),
      (Timetable.ofFile (file 60 0)).value = .ok tt ∧ s.Resolved Sample.metric tt ∧
      s.itineraries? tt = some its ∧ tt.Plain ∧ (Itinerary.best its).length = 2 := by
  have checked : ((Timetable.ofFile (file 60 0)).value.toOption.any fun tt =>
      (TimetableService.searchOf ⟨tt, 6, Sample.metric⟩ query).toOption.any fun s =>
        (s.itineraries? tt).any fun its =>
          decide tt.Plain && (Itinerary.best its).length == 2) = true := by
    cbv
  obtain ⟨tt, loaded, checked⟩ := exists_ok_of_any checked
  obtain ⟨s, resolved, checked⟩ := exists_ok_of_any checked
  obtain ⟨its, found, checked⟩ := (Option.any_eq_true _ _).mp checked
  obtain ⟨plain, two⟩ := Bool.and_eq_true_iff.mp checked
  exact ⟨tt, s, its, loaded, Search.resolved_of_searchOf resolved, found, of_decide_eq_true plain,
    eq_of_beq two⟩

theorem trips_of_best_twoBuses :
    ∃ (tt : Timetable) (s : Search) (its : List Itinerary),
      (Timetable.ofFile (file 60 0)).value = .ok tt ∧ s.Resolved Sample.metric tt ∧
      s.itineraries? tt = some its ∧ tt.Plain ∧ (Itinerary.best its).length = 2 ∧
      (Itinerary.best its).Pairwise (fun k it => it.ties k = false) ∧
      List.Forall₂ s.Shows (Itinerary.best its) (s.keptTrips its) ∧
      ∃ trips, s.trips? tt = some trips ∧ (∀ t ∈ trips, t ∈ s.keptTrips its) ∧
        (∀ t ∈ s.keptTrips its, ∃ u ∈ trips, u.id = t.id) ∧
        (tt.Plain → trips.Perm (s.keptTrips its)) := by
  obtain ⟨tt, s, its, loaded, resolved, found, plain, two⟩ := exists_plain
  exact ⟨tt, s, its, loaded, resolved, found, plain, two,
    Search.trips_of_best loaded resolved found⟩

/-- Identifiers tell seconds apart, and the search less. -/
theorem exists_hidden :
    ∃ (tt : Timetable) (s : Search) (its : List Itinerary) (trips : List Trip) (it : Itinerary),
      (Timetable.ofFile (file 0 300)).value = .ok tt ∧ s.Resolved Sample.metric tt ∧
      s.itineraries? tt = some its ∧ s.trips? tt = some trips ∧ it ∈ Itinerary.best its ∧
      ∀ t ∈ trips, t.firstDeparture ≠ it.departure := by
  have checked : ((Timetable.ofFile (file 0 300)).value.toOption.any fun tt =>
      (TimetableService.searchOf ⟨tt, 6, Sample.metric⟩ query).toOption.any fun s =>
        (s.itineraries? tt).any fun its => (s.trips? tt).any fun trips =>
          (Itinerary.best its).any fun it =>
            trips.all fun t => decide (t.firstDeparture ≠ it.departure)) = true := by
    cbv
  obtain ⟨tt, loaded, checked⟩ := exists_ok_of_any checked
  obtain ⟨s, resolved, checked⟩ := exists_ok_of_any checked
  obtain ⟨its, found, checked⟩ := (Option.any_eq_true _ _).mp checked
  obtain ⟨trips, shown, checked⟩ := (Option.any_eq_true _ _).mp checked
  obtain ⟨it, kept, apart⟩ := List.any_eq_true.mp checked
  exact ⟨tt, s, its, trips, it, loaded, Search.resolved_of_searchOf resolved, found, shown, kept,
    fun t mem => of_decide_eq_true (List.all_eq_true.mp apart t mem)⟩

/-- Within a second of another an itinerary may be kept and not be shown. -/
theorem not_every_kept_shown :
    ¬ ∀ (file : TimetableFile) (tt : Timetable) (metric : Metric) (s : Search)
      (its : List Itinerary) (trips : List Trip), (Timetable.ofFile file).value = .ok tt →
      s.Resolved metric tt → s.itineraries? tt = some its → s.trips? tt = some trips →
      ∀ it ∈ Itinerary.best its, ∃ t ∈ trips,
        t.firstDeparture = it.departure ∧ t.lastArrival = it.arrival := by
  intro claimed
  obtain ⟨tt, s, its, trips, it, loaded, resolved, found, shown, kept, apart⟩ := exists_hidden
  obtain ⟨t, mem, departure, -⟩ :=
    claimed _ tt Sample.metric s its trips loaded resolved found shown it kept
  exact apart t mem departure

end TwoBuses

end JourneyPlanner

import JourneyPlanner.Proofs.Json.Validating
import JourneyPlanner.Proofs.Time.Shifting
import JourneyPlanner.Proofs.Timetable.Loaded

set_option autoImplicit false

/-!
What is stored and read again. Every value that can be made is found again as it was, and every
value that is read keeps the rules by which it could be made; but a way of one's own that leaves a
leap second may be moved so that it runs backwards, and is then not read again.
-/
namespace JourneyPlanner

/-- The rules of a place. -/
structure Location.InRules (l : Location) : Prop where
  latitude : ∀ point, l.point = some point →
    -90000000 ≤ point.latitude ∧ point.latitude ≤ 90000000
  longitude : ∀ point, l.point = some point →
    -180000000 ≤ point.longitude ∧ point.longitude ≤ 180000000
  anyWithoutId : l.kind = .any → l.id = none
  idShown : ∀ id, l.id = some id → Text.isBlankText id = false
  placeNamed : l.place ≠ none → l.name ≠ none
  coordAlone : l.kind = .coord → l.point ≠ none ∧ l.id = none ∧ l.place = none ∧ l.name = none

theorem Location.inRules (l : Location) : l.InRules := by
  obtain ⟨shown, unknown, placed, coord⟩ := LocationDetails.rules_of_sound l.sound
  refine ⟨fun point _ => point.latitude_inRange, fun point _ => point.longitude_inRange, unknown,
    shown, placed, fun alone => ?_⟩
  obtain ⟨located, unidentified, unnamed⟩ := coord alone
  refine ⟨located, unidentified, ?_, unnamed⟩
  by_contra place
  exact placed place unnamed

namespace IndividualLeg

/-- The leg does not count as shorter than nothing. -/
def KeepsDirection (leg : IndividualLeg) : Prop :=
  0 ≤ leg.duration

/-- The legs that can be made, given a path and moved, where those with a property may be moved. -/
inductive Built (movable : IndividualLeg → Prop) : IndividualLeg → Prop where
  | between {kind : IndividualKind} {departure arrival : Location}
      {departureTime arrivalTime : Instant} {meters : UInt32} {leg : IndividualLeg}
      (made : between kind departure departureTime arrival arrivalTime meters = .ok leg) :
      Built movable leg
  | withPath {leg : IndividualLeg} (built : Built movable leg) (path : List GeoPoint) :
      Built movable (leg.withPath path)
  | movedTo {leg moved : IndividualLeg} {start : Instant} (built : Built movable leg)
      (free : movable leg) (done : leg.movedTo? start = some moved) : Built movable moved

/-- Only on the way out of a leap second the end may seem to come before the start. -/
theorem keepsDirection_of_not_leap {leg : IndividualLeg} (forward : leg.RunsForward)
    (plain : leg.departureTime.isLeap = false) : leg.KeepsDirection := by
  obtain ⟨kind, departure, s, arrival, t, path, meters⟩ := leg
  change 0 ≤ s.spanTo t
  have order : 2000000000 * s.second + s.nanos ≤ 2000000000 * t.second + t.nanos := forward
  have early : ¬ 1000000000 ≤ s.nanos := by
    rw [← Instant.isLeap_iff, plain]
    exact Bool.false_ne_true
  have bounded := t.bounded
  unfold Instant.spanTo Instant.sinceEpoch Instant.secondOfDay Time.nanosPerSecond
    Time.secondsPerDay
  simp only [plain, Bool.false_eq_true, false_and, if_false, Instant.isLeap_iff]
  split <;> omega

/-- A move ends after it begins just if what is moved lasts. -/
theorem runsForward_movedTo_iff {leg moved : IndividualLeg} {start : Instant}
    (done : leg.movedTo? start = some moved) : moved.RunsForward ↔ leg.KeepsDirection := by
  obtain ⟨finish, shifted, rfl⟩ := Option.map_eq_some_iff.mp done
  refine ⟨fun forward => ?_, Instant.le_of_shift? shifted⟩
  by_contra back
  exact Instant.not_le.mpr (Instant.shift?_lt shifted (Int.not_le.mp back)) forward

theorem Built.runsForward {movable : IndividualLeg → Prop}
    (keeping : ∀ leg, movable leg → leg.KeepsDirection) {leg : IndividualLeg}
    (built : leg.Built movable) : leg.RunsForward := by
  induction built with
  | between made =>
    unfold IndividualLeg.between at made
    split at made
    · rename_i forward
      cases made
      exact forward
    · cases made
  | withPath built path ih => exact ih
  | movedTo built free done ih => exact (runsForward_movedTo_iff done).mpr (keeping _ free)

end IndividualLeg

/-- The legs that can be made, where ways of one's own with a property may be moved. -/
def Leg.Built (movable : IndividualLeg → Prop) : Leg → Prop
  | .ride _ => True
  | .own leg => leg.Built movable

/-- A ride has its times, and its plan does not run backwards; no more does a way of one's own. -/
def Leg.InRules : Leg → Prop
  | .ride leg =>
      leg.departureStop.departure.time false ≠ none ∧ leg.arrivalStop.arrival.time false ≠ none ∧
        ∀ departure arrival, leg.departureStop.departure.planned = some departure →
          leg.arrivalStop.arrival.planned = some arrival → departure ≤ arrival
  | .own leg => leg.departureTime ≤ leg.arrivalTime

theorem Leg.Built.runsForward {movable : IndividualLeg → Prop}
    (keeping : ∀ leg, movable leg → leg.KeepsDirection) {leg : Leg} (built : leg.Built movable) :
    leg.RunsForward := by
  cases leg with
  | ride leg => trivial
  | own leg => exact IndividualLeg.Built.runsForward keeping built

theorem Leg.inRules_of_runsForward {leg : Leg} (forward : leg.RunsForward) : leg.InRules := by
  cases leg with
  | ride leg =>
    refine ⟨Option.isSome_iff_ne_none.mp leg.departs, Option.isSome_iff_ne_none.mp leg.arrives,
      fun departure arrival planned plannedToo => ?_⟩
    have plan := leg.forward
    rw [planned, plannedToo] at plan
    exact of_decide_eq_true plan
  | own leg => exact forward

structure Trip.InRules (t : Trip) : Prop where
  nonempty : t.legs ≠ []
  legs : ∀ leg ∈ t.legs, leg.InRules

def Departure.InRules (d : Departure) : Prop :=
  d.predicted ≠ none ∨ d.planned ≠ none

theorem Departure.inRules (d : Departure) : d.InRules := by
  have timed := d.timed
  rw [Option.isSome_or, Bool.or_eq_true, Option.isSome_iff_ne_none, Option.isSome_iff_ne_none]
    at timed
  exact timed

structure Board.InRules (b : Board) : Prop where
  station : b.location.kind = .station
  inOrder : b.departures.Pairwise fun first second => first.time ≤ second.time
  timed : ∀ d ∈ b.departures, d.InRules

/-- The values of a type that can be made are found again, in their form and in its text, and what
is read keeps the rules. -/
structure Stored (α : Type) [Codec α] (made rules : α → Prop) : Prop where
  restored : ∀ a, made a → decode (encode a) = .ok a ∧ decodeText α (encodeText a) = .ok a
  ruled : ∀ json (a : α), decode json = .ok a → rules a

theorem Stored.ofFaithful {α : Type} [Codec α] [Faithful α] {rules : α → Prop}
    (ruled : ∀ a, rules a) : Stored α (fun _ => True) rules where
  restored a _ := ⟨decode_encode a, (Faithful.kept a).decodeText⟩
  ruled _ a _ := ruled a

/-- All that can be made is found again and all that is read is in order, where some ways of one's
own may be moved. A moved one is found again just if what was moved keeps its direction. -/
structure StoredForms (movable : IndividualLeg → Prop) : Prop where
  /-- Places are in order wherever they stand. -/
  places : ∀ l : Location, l.InRules
  location : Stored Location (fun _ => True) Location.InRules
  line : Stored Line (fun _ => True) fun _ => True
  stop : Stored Stop (fun _ => True) fun _ => True
  leg : Stored Leg (Leg.Built movable) Leg.InRules
  trip : Stored Trip (fun t => ∀ leg ∈ t.legs, leg.Built movable) Trip.InRules
  departure : Stored Departure (fun _ => True) Departure.InRules
  board : Stored Board (fun _ => True) Board.InRules
  suggestion : Stored Suggestion (fun _ => True) fun _ => True
  query : Stored TripQuery (fun _ => True) fun _ => True
  moved : ∀ (leg moved : IndividualLeg) (start : Instant), leg.movedTo? start = some moved →
    (decode (encode (Leg.own moved)) = .ok (Leg.own moved) ↔ leg.KeepsDirection)

section Moving

variable {movable : IndividualLeg → Prop} (keeping : ∀ leg, movable leg → leg.KeepsDirection)

include keeping

theorem stored_legs : Stored Leg (Leg.Built movable) Leg.InRules where
  restored leg built := by
    have kept := Leg.kept_iff.mpr (built.runsForward keeping)
    exact ⟨kept.decode_encode, kept.decodeText⟩
  ruled json leg decoded := Leg.inRules_of_runsForward (Leg.runsForward_of_decode json leg decoded)

theorem stored_trips :
    Stored Trip (fun t => ∀ leg ∈ t.legs, leg.Built movable) Trip.InRules where
  restored t built := by
    have kept := Trip.kept fun leg mem => (built leg mem).runsForward keeping
    exact ⟨kept.decode_encode, kept.decodeText⟩
  ruled json t decoded := by
    refine ⟨t.nonempty, fun leg mem => Leg.inRules_of_runsForward ?_⟩
    exact Trip.runsForward_of_decode json t decoded leg mem

/-- Where only ways that keep their direction are moved nothing is lost and nothing is let in. -/
theorem forms_restored_and_ruled : StoredForms movable where
  places := Location.inRules
  location := .ofFaithful Location.inRules
  line := .ofFaithful fun _ => trivial
  stop := .ofFaithful fun _ => trivial
  leg := stored_legs keeping
  trip := stored_trips keeping
  departure := .ofFaithful Departure.inRules
  board := .ofFaithful fun b => ⟨b.station, b.inOrder, fun d _ => d.inRules⟩
  suggestion := .ofFaithful fun _ => trivial
  query := .ofFaithful fun _ => trivial
  moved leg moved start done := by
    rw [← IndividualLeg.runsForward_movedTo_iff done]
    exact Leg.decode_encode_iff

end Moving

namespace LeapSecond

/-- A walk from a thousandth of the last two seconds of the old year into the new year. -/
def walk (millis : Nat) : IndividualLeg where
  kind := .walk
  departure := Sample.origin
  departureTime := Sample.lastSecond millis
  arrival := Sample.destination
  arrivalTime := ⟨1483228800, 200000000, by decide, by decide, by decide⟩
  path := []
  meters := 1

/-- Noon of the new year. -/
def noon : Instant := Sample.wholeSecond 1483272000

/-- A walk that begins before the leap second is moved as it should be and found again. -/
theorem forms_restored_and_ruled_beforeLeapSecond :
    (∀ leg : IndividualLeg, leg.RunsForward ∧ leg.departureTime.isLeap = false →
      leg.KeepsDirection) ∧
      (StoredForms fun leg => leg.RunsForward ∧ leg.departureTime.isLeap = false) ∧
      ∃ moved, (walk 500).movedTo? noon = some moved ∧
        decode (encode (Leg.own moved)) = .ok (Leg.own moved) := by
  have keeping : ∀ leg : IndividualLeg, leg.RunsForward ∧ leg.departureTime.isLeap = false →
      leg.KeepsDirection := fun _ held => IndividualLeg.keepsDirection_of_not_leap held.1 held.2
  have forms := forms_restored_and_ruled keeping
  obtain ⟨moved, done⟩ : ∃ moved, (walk 500).movedTo? noon = some moved :=
    Option.isSome_iff_exists.mp rfl
  have forward : (walk 500).RunsForward := by
    change (walk 500).departureTime ≤ (walk 500).arrivalTime
    decide
  exact ⟨keeping, forms, moved, done,
    (forms.moved _ moved noon done).mpr (keeping _ ⟨forward, rfl⟩)⟩

/-- The walk out of the leap second at noon of the new year, three tenths of a second before it
begins. -/
def walkAtNoon : IndividualLeg :=
  { walk 1500 with
    departureTime := noon
    arrivalTime := ⟨1483271999, 700000000, by decide, by decide, by decide⟩ }

theorem walk_movedTo_noon : (walk 1500).movedTo? noon = some walkAtNoon := rfl

/-- Not every way that can be made and moved is found again. -/
theorem not_every_leg_restored :
    ¬ ∀ leg : IndividualLeg, leg.Built (fun _ => True) →
      decode (encode (Leg.own leg)) = .ok (Leg.own leg) := by
  intro claimed
  have made : IndividualLeg.between .walk (walk 1500).departure (walk 1500).departureTime
    (walk 1500).arrival (walk 1500).arrivalTime 1 = .ok (walk 1500) := rfl
  have moved : walkAtNoon.Built fun _ => True := .movedTo (.between made) trivial walk_movedTo_noon
  have forward := Leg.decode_encode_iff.mp (claimed walkAtNoon moved)
  exact absurd (show walkAtNoon.departureTime ≤ walkAtNoon.arrivalTime from forward) (by decide)

end LeapSecond

end JourneyPlanner

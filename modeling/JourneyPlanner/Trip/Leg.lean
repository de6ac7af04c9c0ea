import JourneyPlanner.Json.Record
import JourneyPlanner.Line
import JourneyPlanner.Stop

set_option autoImplicit false

/-!
The legs of a trip: rides on a line, and ways covered on one's own. A leg knows when it departs and
arrives, and is made from a plan that does not run backwards.
-/
namespace JourneyPlanner

inductive TripError where
  | noLegs
  | missingDeparture
  | missingArrival
  | arrivesBeforeDeparture
  deriving DecidableEq, Repr

def TripError.message : TripError → String
  | .noLegs => "trip must have at least one leg"
  | .missingDeparture => "missing required time data: departure"
  | .missingArrival => "missing required time data: arrival"
  | .arrivesBeforeDeparture => "leg arrives before it departs"

/-- The planned arrival is not before the planned departure, where both are known. A prediction may
run backwards. -/
def plansForward (departure arrival : Option Instant) : Bool :=
  match departure, arrival with
  | some departure, some arrival => departure ≤ arrival
  | _, _ => true

/-- A ride on a line. -/
structure PublicLeg where
  line : Line
  /-- Where the vehicle ends, perhaps beyond this leg. -/
  destination : Option Location
  departureStop : Stop
  arrivalStop : Stop
  intermediateStops : List Stop
  path : List GeoPoint
  message : Option String
  departs : (departureStop.departure.time false).isSome
  arrives : (arrivalStop.arrival.time false).isSome
  forward : plansForward departureStop.departure.planned arrivalStop.arrival.planned

namespace PublicLeg

/-- A missing departure is reported before a missing arrival. -/
def ofStops (line : Line) (destination : Option Location) (departureStop arrivalStop : Stop)
    (intermediateStops : List Stop) : Except TripError PublicLeg :=
  if departs : (departureStop.departure.time false).isSome then
    if arrives : (arrivalStop.arrival.time false).isSome then
      if forward : plansForward departureStop.departure.planned arrivalStop.arrival.planned then
        .ok { line, destination, departureStop, arrivalStop, intermediateStops, path := [],
              message := none, departs, arrives, forward }
      else .error .arrivesBeforeDeparture
    else .error .missingArrival
  else .error .missingDeparture

def withPath (leg : PublicLeg) (path : List GeoPoint) : PublicLeg :=
  { leg with path := path }

def withMessage (leg : PublicLeg) (message : String) : PublicLeg :=
  { leg with message := some message }

instance : BEq PublicLeg := ⟨fun a b =>
  a.line == b.line && a.destination == b.destination && a.departureStop == b.departureStop &&
    a.arrivalStop == b.arrivalStop && a.intermediateStops == b.intermediateStops &&
    a.path == b.path && a.message == b.message⟩

theorem time_isSome {e : CallEvent} (known : (e.time false).isSome) (preferPlanned : Bool) :
    (e.time preferPlanned).isSome := by
  cases preferPlanned with
  | false => exact known
  | true =>
    simp only [CallEvent.time, Option.isSome_or, Bool.false_eq_true, if_false, if_true] at known ⊢
    rw [Bool.or_comm]
    exact known

def departureTime (leg : PublicLeg) (preferPlanned : Bool) : Instant :=
  (leg.departureStop.departure.time preferPlanned).get (time_isSome leg.departs preferPlanned)

def arrivalTime (leg : PublicLeg) (preferPlanned : Bool) : Instant :=
  (leg.arrivalStop.arrival.time preferPlanned).get (time_isSome leg.arrives preferPlanned)

def encodeFields (leg : PublicLeg) : List (String × Json) :=
  [("line", encode leg.line), ("destination", encode leg.destination),
    ("departure_stop", encode leg.departureStop), ("arrival_stop", encode leg.arrivalStop),
    ("intermediate_stops", encode leg.intermediateStops), ("path", encode leg.path),
    ("message", encode leg.message)]

def check (line : Line) (destination : Option Location) (departureStop arrivalStop : Stop)
    (intermediateStops : List Stop) (path : List GeoPoint) (message : Option String) :
    Decoded PublicLeg := do
  let leg ← Json.checked TripError.message
    (ofStops line destination departureStop arrivalStop intermediateStops)
  return { leg with path := path, message := message }

def decodeFields : Json → Decoded PublicLeg :=
  Record.decodeChecked <|
    check <$> .required "line" <*> .optional "destination" <*> .required "departure_stop"
      <*> .required "arrival_stop" <*> .defaulted "intermediate_stops" []
      <*> .defaulted "path" [] <*> .optional "message"

end PublicLeg

inductive IndividualKind where
  | walk
  | bike
  | car
  | transfer
  | checkIn
  | checkOut
  deriving DecidableEq, Repr

instance : Listed IndividualKind where
  all := [.walk, .bike, .car, .transfer, .checkIn, .checkOut]
  complete := by intro a; cases a <;> decide
  distinct := by decide

instance : Worded IndividualKind where
  word
    | .walk => "WALK"
    | .bike => "BIKE"
    | .car => "CAR"
    | .transfer => "TRANSFER"
    | .checkIn => "CHECK_IN"
    | .checkOut => "CHECK_OUT"

/-- A way covered on foot or with a vehicle of one's own, or a change between rides. -/
structure IndividualLeg where
  kind : IndividualKind
  departure : Location
  departureTime : Instant
  arrival : Location
  arrivalTime : Instant
  path : List GeoPoint
  meters : UInt32

namespace IndividualLeg

def between (kind : IndividualKind) (departure : Location) (departureTime : Instant)
    (arrival : Location) (arrivalTime : Instant) (meters : UInt32) :
    Except TripError IndividualLeg :=
  if departureTime ≤ arrivalTime then
    .ok { kind, departure, departureTime, arrival, arrivalTime, path := [], meters }
  else .error .arrivesBeforeDeparture

theorem between_of_le {kind : IndividualKind} {departure arrival : Location}
    {departureTime arrivalTime : Instant} (meters : UInt32) (order : departureTime ≤ arrivalTime) :
    between kind departure departureTime arrival arrivalTime meters =
      .ok { kind, departure, departureTime, arrival, arrivalTime, path := [], meters } := by
  unfold between
  rw [if_pos order]

theorem between_eq_ok {kind : IndividualKind} {departure arrival : Location}
    {departureTime arrivalTime : Instant} {meters : UInt32} {walk : IndividualLeg}
    (made : between kind departure departureTime arrival arrivalTime meters = .ok walk) :
    walk = { kind, departure, departureTime, arrival, arrivalTime, path := [], meters } := by
  unfold between at made
  split at made
  · cases made
    rfl
  · cases made

def withPath (leg : IndividualLeg) (path : List GeoPoint) : IndividualLeg :=
  { leg with path := path }

/-- Nanoseconds from departure to arrival. A leap second at the end of a day is not counted, so the
duration of a leg out of it may be negative. -/
def duration (leg : IndividualLeg) : Int :=
  leg.departureTime.spanTo leg.arrivalTime

/-- The leg at another time, as long as before, if it still ends within the calendar. -/
def movedTo? (leg : IndividualLeg) (start : Instant) : Option IndividualLeg :=
  (start.shift? leg.duration).map fun finish =>
    { leg with departureTime := start, arrivalTime := finish }

instance : BEq IndividualLeg := ⟨fun a b =>
  a.kind = b.kind && a.departure == b.departure && a.departureTime = b.departureTime &&
    a.arrival == b.arrival && a.arrivalTime = b.arrivalTime && a.path == b.path &&
    a.meters == b.meters⟩

def encodeFields (leg : IndividualLeg) : List (String × Json) :=
  [("kind", encode leg.kind), ("departure", encode leg.departure),
    ("departure_time", encode leg.departureTime), ("arrival", encode leg.arrival),
    ("arrival_time", encode leg.arrivalTime), ("path", encode leg.path),
    ("distance_meters", encode leg.meters)]

def check (kind : IndividualKind) (departure : Location) (departureTime : Instant)
    (arrival : Location) (arrivalTime : Instant) (path : List GeoPoint) (meters : UInt32) :
    Decoded IndividualLeg := do
  let leg ← Json.checked TripError.message
    (between kind departure departureTime arrival arrivalTime meters)
  return leg.withPath path

def decodeFields : Json → Decoded IndividualLeg :=
  Record.decodeChecked <|
    check <$> .required "kind" <*> .required "departure" <*> .required "departure_time"
      <*> .required "arrival" <*> .required "arrival_time" <*> .defaulted "path" []
      <*> .required "distance_meters"

end IndividualLeg

inductive Leg where
  | ride (leg : PublicLeg)
  | own (leg : IndividualLeg)

namespace Leg

instance : BEq Leg := ⟨fun a b =>
  match a, b with
  | .ride x, .ride y => x == y
  | .own x, .own y => x == y
  | _, _ => false⟩

def departure : Leg → Location
  | .ride leg => leg.departureStop.location
  | .own leg => leg.departure

def arrival : Leg → Location
  | .ride leg => leg.arrivalStop.location
  | .own leg => leg.arrival

def departureTimeBy (preferPlanned : Bool) : Leg → Instant
  | .ride leg => leg.departureTime preferPlanned
  | .own leg => leg.departureTime

def arrivalTimeBy (preferPlanned : Bool) : Leg → Instant
  | .ride leg => leg.arrivalTime preferPlanned
  | .own leg => leg.arrivalTime

/-- Predicted where known. -/
def departureTime (leg : Leg) : Instant :=
  leg.departureTimeBy false

/-- Predicted where known. -/
def arrivalTime (leg : Leg) : Instant :=
  leg.arrivalTimeBy false

/-- The earliest departure, planned or predicted. -/
def minTime : Leg → Instant
  | .ride leg => leg.departureStop.minTime.getD (leg.departureTime false)
  | .own leg => leg.departureTime

/-- The latest arrival, planned or predicted. -/
def maxTime : Leg → Instant
  | .ride leg => leg.arrivalStop.maxTime.getD (leg.arrivalTime false)
  | .own leg => leg.arrivalTime

def path : Leg → List GeoPoint
  | .ride leg => leg.path
  | .own leg => leg.path

def withPath (path : List GeoPoint) : Leg → Leg
  | .ride leg => .ride (leg.withPath path)
  | .own leg => .own (leg.withPath path)

def ride? : Leg → Option PublicLeg
  | .ride leg => some leg
  | .own _ => none

def own? : Leg → Option IndividualLeg
  | .ride _ => none
  | .own leg => some leg

def line? (leg : Leg) : Option Line :=
  leg.ride?.map PublicLeg.line

def isRide (leg : Leg) : Bool :=
  leg.ride?.isSome

/-- The kind of leg that is written, and the record of the leg. In an array the kind comes first. -/
def ofTagged : Json → Decoded (String × Json)
  | .array (.string kind :: items) => .ok (kind, .array items)
  | json => (Record.required "leg_type").decode json |>.map fun kind => (kind, json)

instance : Codec Leg where
  encode
    | .ride leg => .object (("leg_type", .string "public") :: leg.encodeFields)
    | .own leg => .object (("leg_type", .string "individual") :: leg.encodeFields)
  decode json := do
    let (kind, rest) ← ofTagged json
    if kind = "public" then return .ride (← PublicLeg.decodeFields rest)
    else if kind = "individual" then return .own (← IndividualLeg.decodeFields rest)
    else .error .malformed

end Leg

end JourneyPlanner

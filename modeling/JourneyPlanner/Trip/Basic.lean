import JourneyPlanner.Json.Record
import JourneyPlanner.Trip.Identifier

set_option autoImplicit false

/-! Trips: legs from an origin to a destination, at least one. -/
namespace JourneyPlanner

structure Trip where
  id : String
  origin : Location
  destination : Location
  legs : List Leg
  nonempty : legs ≠ []
  /-- The number of changes, where the network reports it. -/
  changes : Option UInt32

namespace Trip

/-- A trip without an id is given the identifier of its legs. -/
def ofLegs (id : Option String) (origin destination : Location) (legs : List Leg)
    (changes : Option UInt32) : Except TripError Trip :=
  if nonempty : legs ≠ [] then
    .ok { id := id.getD (Leg.identifier legs), origin, destination, legs, nonempty, changes }
  else .error .noLegs

instance : BEq Trip := ⟨fun a b =>
  a.id == b.id && a.origin == b.origin && a.destination == b.destination && a.legs == b.legs &&
    a.changes == b.changes⟩

def firstLeg (t : Trip) : Leg :=
  t.legs.head t.nonempty

def lastLeg (t : Trip) : Leg :=
  t.legs.getLast t.nonempty

theorem firstLeg_of_head? {t : Trip} {leg : Leg} (found : t.legs.head? = some leg) :
    t.firstLeg = leg := by
  rw [List.head?_eq_some_head t.nonempty, Option.some.injEq] at found
  exact found

theorem lastLeg_of_getLast? {t : Trip} {leg : Leg} (found : t.legs.getLast? = some leg) :
    t.lastLeg = leg := by
  rw [List.getLast?_eq_some_getLast t.nonempty, Option.some.injEq] at found
  exact found

def firstDeparture (t : Trip) : Instant :=
  t.firstLeg.departureTime

def lastArrival (t : Trip) : Instant :=
  t.lastLeg.arrivalTime

def rides (t : Trip) : List PublicLeg :=
  t.legs.filterMap Leg.ride?

/-- From the first departure to the last arrival, in nanoseconds. -/
def duration (t : Trip) : Int :=
  t.firstDeparture.spanTo t.lastArrival

/-- From the first boarding to the last alighting; a trip without rides has none. -/
def rideDuration (t : Trip) : Option Int :=
  match t.rides.head?, t.rides.getLast? with
  | some first, some last => some ((first.departureTime false).spanTo (last.arrivalTime false))
  | _, _ => none

def minTime (t : Trip) : Instant :=
  (t.legs.map Leg.minTime).foldl Instant.earlier t.firstLeg.minTime

def maxTime (t : Trip) : Instant :=
  (t.legs.map Leg.maxTime).foldl Instant.later t.firstLeg.maxTime

/-- As reported, or one less than the rides; a trip without rides has no number of changes. -/
def numChanges (t : Trip) : Option UInt32 :=
  match t.changes with
  | some n => some n
  | none => if t.rides.isEmpty then none else some (UInt32.ofNat (t.rides.length - 1))

def products (t : Trip) : Selection Product :=
  Selection.ofList (t.rides.filterMap fun ride => ride.line.product)

/-- Boarding and alighting take place. -/
def isServed : Leg → Bool
  | .ride leg => !leg.departureStop.departure.cancelled && !leg.arrivalStop.arrival.cancelled
  | .own _ => true

/-- The legs are served, do not run backwards, and none departs before `ready`, when what came
before them has arrived. -/
def legsTravelable (ready : Option Instant) : List Leg → Bool
  | [] => true
  | leg :: rest =>
      isServed leg && ready.all (· ≤ leg.departureTime) && leg.departureTime ≤ leg.arrivalTime &&
        legsTravelable (some leg.arrivalTime) rest

def isTravelable (t : Trip) : Bool :=
  legsTravelable none t.legs

instance : Codec Trip where
  encode t := .object [("id", encode t.id), ("from", encode t.origin),
    ("to", encode t.destination), ("legs", encode t.legs), ("changes", encode t.changes)]
  decode := Record.decodeChecked <|
    (fun id origin destination legs changes =>
      Json.checked TripError.message (ofLegs id origin destination legs changes))
      <$> .optional "id" <*> .required "from" <*> .required "to" <*> .required "legs"
      <*> .optional "changes"

end Trip

end JourneyPlanner

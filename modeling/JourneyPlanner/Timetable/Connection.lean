import JourneyPlanner.Json.Record
import JourneyPlanner.Timetable.Journey
import JourneyPlanner.Trip.Basic

set_option autoImplicit false

/-!
The trips found by a search, in an order that does not depend on how they were found: by departure,
arrival and identifier.
-/
namespace JourneyPlanner

namespace Ride

/-- The stop at a call, where the vehicle is boarded, left or passed. -/
def stopAt (call : Call) (arrives departs : Bool) : Stop :=
  let platform := call.platform.map Platform.named
  { location := call.station.location
    arrival := if arrives then .ofPlan call.arrival platform else .blank
    departure := if departs then .ofPlan call.departure platform else .blank }

def leg (r : Ride) : Except TripError PublicLeg :=
  PublicLeg.ofStops r.service.line r.service.destination (stopAt r.board false true)
    (stopAt r.alight true false) (r.between.map fun call => stopAt call true true)

end Ride

namespace Itinerary

/-- The walk from the place of departure to the first station. -/
def startLegs (it : Itinerary) (origin : Location) : Except TripError (List Leg) :=
  if it.start.onFoot then do
    let walk ← IndividualLeg.between .walk origin it.departure it.start.station.location
      it.first.board.departure it.start.meters
    return [.own walk]
  else .ok []

/-- The walk from the last station to the place of arrival. -/
def finishLegs (it : Itinerary) (destination : Location) : Except TripError (List Leg) :=
  if it.finish.onFoot then do
    let walk ← IndividualLeg.between .walk it.finish.station.location it.lastRide.alight.arrival
      destination it.arrival it.finish.meters
    return [.own walk]
  else .ok []

def trip (it : Itinerary) (origin destination : Location) : Except TripError Trip := do
  let before ← it.startLegs origin
  let rides ← it.rides.mapM Ride.leg
  let after ← it.finishLegs destination
  Trip.ofLegs none origin destination (before ++ rides.map .ride ++ after)
    (some (UInt32.ofNat it.changes))

end Itinerary

/-- The position of a trip in the order of all trips. -/
structure TripKey where
  departure : Instant
  arrival : Instant
  id : String
  deriving DecidableEq

namespace TripKey

instance : Ord TripKey where
  compare a b :=
    (compare a.departure b.departure).then
      ((compare a.arrival b.arrival).then (compare a.id b.id))

def precedes (a b : TripKey) : Bool :=
  (compare a b).isLT

instance : Codec TripKey where
  encode k := .object [("departure", encode k.departure), ("arrival", encode k.arrival),
    ("id", encode k.id)]
  decode := Record.decode <|
    mk <$> .required "departure" <*> .required "arrival" <*> .required "id"

end TripKey

namespace Trip

def key (t : Trip) : TripKey := ⟨t.firstDeparture, t.lastArrival, t.id⟩

/-- The trips whose identifier differs from that of the trip before, which is `last` at first. -/
def dropRepeatsAfter (last : Trip) : List Trip → List Trip
  | [] => []
  | t :: rest =>
      if t.id = last.id then dropRepeatsAfter last rest else t :: dropRepeatsAfter t rest

/-- Of neighbouring trips with one identifier the first. -/
def dropRepeats : List Trip → List Trip
  | [] => []
  | t :: rest => t :: dropRepeatsAfter t rest

/-- In the order of their keys, each identifier once. -/
def inOrder (trips : List Trip) : List Trip :=
  dropRepeats (trips.mergeSort fun a b => (compare a.key b.key).isLE)

end Trip

namespace Search

/-- The best itineraries as trips, in order. -/
def trips? (s : Search) (tt : Timetable) : Option (List Trip) := do
  let itineraries ← s.itineraries? tt
  return Trip.inOrder ((Itinerary.best itineraries).filterMap fun it =>
    (it.trip s.origin.location s.destination.location).toOption)

end Search

end JourneyPlanner

import JourneyPlanner.Query
import JourneyPlanner.Representatives
import JourneyPlanner.Timetable.Basic

set_option autoImplicit false

/-!
Journeys over a timetable, with at most one change of services. The search goes through all
boardings at the stations from which it may start, leaves a service where the destination is first
in reach, and keeps the journeys that no other beats on departure, arrival and changes. There is no
result where a time on the way leaves the calendar.
-/
namespace JourneyPlanner

/-- A station from which an endpoint is reached. -/
structure Access where
  station : Place
  meters : UInt32
  /-- Unless the endpoint is the station itself. -/
  onFoot : Bool

namespace Access

def atStation (station : Place) : Access := ⟨station, 0, false⟩

def walking (station : Place) (meters : UInt32) : Access := ⟨station, meters, true⟩

end Access

/-- A place to travel from, to or through, and the stations that serve it. -/
structure Endpoint where
  location : Location
  accesses : List Access

namespace Endpoint

/-- The way between a station and the endpoint. Of several the last counts. -/
def access? (e : Endpoint) (station : Place) : Option Access :=
  (e.accesses.filter fun access => access.station.is station).getLast?

end Endpoint

/-- A stretch on one service. -/
structure Ride where
  service : Service
  board : Call
  between : List Call
  alight : Call

namespace Ride

def calls (r : Ride) : List Call :=
  r.board :: r.between ++ [r.alight]

def passes (r : Ride) (stations : List Place) : Bool :=
  r.calls.any fun call => stations.any call.station.is

end Ride

namespace Boarding

/-- The rides on to the calls ahead; `passed` holds the calls in between so far. -/
def ridesFrom (b : Boarding) (passed : List Call) : List Call → List Ride
  | [] => []
  | call :: rest =>
      { service := b.service, board := b.call, between := passed, alight := call } ::
        b.ridesFrom (passed ++ [call]) rest

/-- The rides to every later call, in the order of the calls. -/
def rides (b : Boarding) : List Ride :=
  b.ridesFrom [] b.ahead

end Boarding

/-- One ride or two, with the ways to the first station and from the last. -/
structure Itinerary where
  start : Access
  first : Ride
  second : Option Ride
  finish : Access
  departure : Instant
  arrival : Instant

namespace Itinerary

def rides (it : Itinerary) : List Ride :=
  it.first :: it.second.toList

def lastRide (it : Itinerary) : Ride :=
  it.second.getD it.first

def changes (it : Itinerary) : Nat :=
  it.second.toList.length

/-- The metres on foot at both ends. -/
def walkMeters (it : Itinerary) : Nat :=
  min (it.start.meters.toNat + it.finish.meters.toNat) (UInt32.size - 1)

/-- The other is at least as good on departure, arrival and changes, and better on one. -/
def isBeatenBy (it other : Itinerary) : Bool :=
  it.departure ≤ other.departure && other.arrival ≤ it.arrival && other.changes ≤ it.changes &&
    (it.departure < other.departure || other.arrival < it.arrival || other.changes < it.changes)

/-- Equal departure, arrival and changes. -/
def ties (it other : Itinerary) : Bool :=
  it.departure = other.departure && it.arrival = other.arrival && it.changes = other.changes

/-- Late departures first, then early arrivals, few changes and short walks. -/
def compareQuality (a b : Itinerary) : Ordering :=
  (compare b.departure a.departure).then
    ((compare a.arrival b.arrival).then
      ((compare a.changes b.changes).then (compare a.walkMeters b.walkMeters)))

/-- The itineraries that no other beats. Of those that tie, the one with the shortest walk. -/
def best (itineraries : List Itinerary) : List Itinerary :=
  representatives (fun kept it => it.isBeatenBy kept || it.ties kept)
    (itineraries.mergeSort fun a b => (compareQuality a b).isLE)

end Itinerary

/-- The endpoints of a search as they were understood, and what is preferred. -/
structure Search where
  origin : Endpoint
  via : Option Endpoint
  destination : Endpoint
  preferences : Preferences

namespace Search

def walkSpeed (s : Search) : WalkSpeed :=
  s.preferences.walkSpeed.getD .normal

/-- The service is of a product allowed, takes bicycles if there is one, and is free of steps if
that is needed. -/
def usable (s : Search) (service : Service) : Bool :=
  s.preferences.allows service.line.product &&
    (!s.preferences.flags.contains .bike || service.bikesAllowed) &&
    (s.preferences.accessibility ≠ some .barrierFree || service.wheelchairAccessible)

/-- The rides with the walks added at both ends. -/
def itinerary? (s : Search) (start : Access) (first : Ride) (second : Option Ride)
    (finish : Access) : Option Itinerary := do
  let departure ← first.board.departure.shift? (-(s.walkSpeed.walkTime start.meters))
  let arrival ← (second.getD first).alight.arrival.shift? (s.walkSpeed.walkTime finish.meters)
  return { start, first, second, finish, departure, arrival }

/-- The first ride after boarding that ends where the destination is in reach. -/
def directRide? (s : Search) (b : Boarding) : Option (Ride × Access) :=
  b.rides.findSome? fun ride => (s.destination.access? ride.alight.station).map fun a => (ride, a)

/-- The rides to the calls before the destination is in reach. -/
def ridesBefore (s : Search) (b : Boarding) : List Ride :=
  b.rides.takeWhile fun ride => (s.destination.access? ride.alight.station).isNone

/-- Where a ride ends, the boardings of other services that leave time for the change. -/
def connections (s : Search) (tt : Timetable) (ride : Ride) (ready : Instant) : List Boarding :=
  (tt.boardingsAt ride.alight.station).filter fun b =>
    b.service.number ≠ ride.service.number && ready ≤ b.call.departure && s.usable b.service

/-- The itineraries that go on with another service after a ride. -/
def changing? (s : Search) (tt : Timetable) (start : Access) (ride : Ride) :
    Option (List Itinerary) := do
  let ready ← ride.alight.arrival.shift? tt.minChange
  ((s.connections tt ride ready).filterMap s.directRide?).mapM fun next =>
    s.itinerary? start ride (some next.1) next.2

/-- The itineraries that begin at a boarding. -/
def boarding? (s : Search) (tt : Timetable) (start : Access) (b : Boarding) :
    Option (List Itinerary) := do
  let changed ← (s.ridesBefore b).mapM (s.changing? tt start)
  let direct ← (s.directRide? b).toList.mapM fun next => s.itinerary? start next.1 none next.2
  return changed.flatten ++ direct

/-- The itineraries that begin with one way to a station. -/
def starting? (s : Search) (tt : Timetable) (start : Access) : Option (List Itinerary) := do
  let parts ← ((tt.boardingsAt start.station).filter fun b => s.usable b.service).mapM
    (s.boarding? tt start)
  return parts.flatten

/-- Some ride calls at a station of the place on the way. -/
def passesVia (s : Search) (it : Itinerary) : Bool :=
  match s.via with
  | none => true
  | some via => it.rides.any fun ride => ride.passes (via.accesses.map (·.station))

def itineraries? (s : Search) (tt : Timetable) : Option (List Itinerary) := do
  let parts ← s.origin.accesses.mapM (s.starting? tt)
  return parts.flatten.filter s.passesVia

end Search

end JourneyPlanner

import JourneyPlanner.Badge.Table
import JourneyPlanner.Line
import JourneyPlanner.Response

set_option autoImplicit false

/-!
A timetable in use: the places of a network, the services with their calls, and at which of them
passengers may board.
-/
namespace JourneyPlanner

/-- A station, an address or a point of interest. -/
structure Place where
  /-- The position among the places of its timetable. -/
  number : Nat
  id : String
  location : Location
  point : GeoPoint
  group : Option String

namespace Place

def isStation (p : Place) : Bool :=
  p.location.kind = .station

/-- The same place of the timetable. -/
def is (p q : Place) : Bool :=
  p.number = q.number

end Place

/-- A stop of a service at a station. Where one time is not given it is that of the other. -/
structure Call where
  station : Place
  arrival : Instant
  departure : Instant
  platform : Option String

structure Service where
  /-- The position among the services of its timetable. -/
  number : Nat
  id : String
  line : Line
  destination : Option Location
  bikesAllowed : Bool
  wheelchairAccessible : Bool
  calls : List Call

/-- A call at which passengers may board, and the calls that follow it. -/
structure Boarding where
  service : Service
  /-- The position of the call in its service. -/
  position : Nat
  call : Call
  ahead : List Call

namespace Service

/-- All calls but the last, from the one at `position` on. -/
def boardingsFrom (s : Service) (position : Nat) : List Call → List Boarding
  | call :: next :: rest =>
      { service := s, position, call, ahead := next :: rest } ::
        s.boardingsFrom (position + 1) (next :: rest)
  | _ => []

def boardings (s : Service) : List Boarding :=
  s.boardingsFrom 0 s.calls

def callsAt (s : Service) (p : Place) : Bool :=
  s.calls.any fun call => call.station.is p

end Service

namespace Boarding

/-- By departure, then by service and call. -/
def compareTime (a b : Boarding) : Ordering :=
  (compare a.call.departure b.call.departure).then
    ((compare a.service.number b.service.number).then (compare a.position b.position))

/-- The boardings of all services by the time of departure. -/
def ofServices (services : List Service) : List Boarding :=
  (services.flatMap Service.boardings).mergeSort fun a b => (compareTime a b).isLE

end Boarding

structure Timetable where
  network : NetworkId
  header : Header
  validFrom : Instant
  validUntil : Instant
  /-- Nanoseconds that a change of services takes at least. -/
  minChange : Int
  maxWalkMeters : UInt32
  places : List Place
  services : List Service
  badges : BadgeTable
  boardings : List Boarding
  boardings_eq : boardings = Boarding.ofServices services

namespace Timetable

def placeWithId? (tt : Timetable) (id : String) : Option Place :=
  tt.places.find? fun p => p.id = id

/-- Where passengers can board at a place, the earliest departure first. -/
def boardingsAt (tt : Timetable) (p : Place) : List Boarding :=
  tt.boardings.filter fun b => b.call.station.is p

/-- The place, and after it the other stations of its group in the order of their ids. -/
def equivalents (tt : Timetable) (p : Place) : List Place :=
  match p.group with
  | none => [p]
  | some group =>
      let others := tt.places.filter fun q => !q.is p && q.isStation && q.group = some group
      p :: others.mergeSort fun a b => a.id ≤ b.id

def products (tt : Timetable) : Selection Product :=
  Selection.ofList (tt.services.filterMap fun s => s.line.product)

/-- The least point of a list on one axis, from a first one on. -/
def least (axis : Place → Int) (first : Place) (places : List Place) : Int :=
  places.foldl (fun value p => min value (axis p)) (axis first)

def greatest (axis : Place → Int) (first : Place) (places : List Place) : Int :=
  places.foldl (fun value p => max value (axis p)) (axis first)

/-- The corners of the box around all places: southwest, southeast, northeast, northwest. -/
def bounds (tt : Timetable) : Option (List GeoPoint) :=
  match tt.places with
  | [] => none
  | first :: rest =>
      let south := least (·.point.latitude) first rest
      let north := greatest (·.point.latitude) first rest
      let west := least (·.point.longitude) first rest
      let east := greatest (·.point.longitude) first rest
      [(south, west), (south, east), (north, east), (north, west)].mapM fun corner =>
        (GeoPoint.ofMicrodegrees corner.1 corner.2).toOption

def covers (tt : Timetable) (time : Instant) : Bool :=
  tt.validFrom ≤ time && time ≤ tt.validUntil

end Timetable

end JourneyPlanner

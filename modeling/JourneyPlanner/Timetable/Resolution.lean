import JourneyPlanner.Text.Lowercase
import JourneyPlanner.Timetable.Journey

set_option autoImplicit false

/-!
Locations looked up in a timetable: by id, by point, or by name, and the stations from which the
place found is reached.
-/
namespace JourneyPlanner.Timetable

/-- Metres to a place, rounded up, if they are not too many to walk. -/
def walkTo? (metric : Metric) (tt : Timetable) (point : GeoPoint) (station : Place) :
    Option Access :=
  let meters := (metric point station.point).ceil
  if meters ≤ tt.maxWalkMeters.toNat then some (.walking station (UInt32.ofNat meters.toNat))
  else none

def compareAccess (a b : Access) : Ordering :=
  (compare a.meters.toNat b.meters.toNat).then (compare a.station.number b.station.number)

/-- The stations in walking distance, the nearest first. -/
def walkableStations (metric : Metric) (tt : Timetable) (point : GeoPoint) : List Access :=
  ((tt.places.filter Place.isStation).filterMap (tt.walkTo? metric point)).mergeSort fun a b =>
    (compareAccess a b).isLE

/-- A station is its own access, all else is reached on foot. -/
def endpointAt (metric : Metric) (tt : Timetable) (p : Place) : Endpoint where
  location := p.location
  accesses := if p.isStation then [.atStation p] else tt.walkableStations metric p.point

/-- The kind asked for, where any kind is every kind. -/
def kindMatches (l : Location) (p : Place) : Bool :=
  l.kind = .any || p.location.kind = l.kind

/-- The name of the place, or the name with its place, is the one wanted. -/
def nameMatches (wanted : String) (p : Place) : Bool :=
  p.location.name.any (fun name => Text.lowercase name = wanted) ||
    p.location.shortName.any (fun name => Text.lowercase name = wanted)

/-- A place name given must be that of the place. -/
def placeMatches (l : Location) (p : Place) : Bool :=
  l.place.all fun wanted =>
    p.location.place.any fun place => Text.lowercase place = Text.lowercase (Text.trim wanted)

/-- The places of the name and kind of a location, in the order of the timetable. -/
def placesNamed (tt : Timetable) (l : Location) : List Place :=
  match l.name with
  | none => []
  | some name =>
      let wanted := Text.lowercase (Text.trim name)
      tt.places.filter fun p => kindMatches l p && nameMatches wanted p && placeMatches l p

/-- A location by its id, else by its point, else by its name. `unknown` is the reason given where
nothing is found. -/
def resolve (metric : Metric) (tt : Timetable) (l : Location) (unknown : NoTrips) :
    Except NoTrips Endpoint :=
  match l.id, l.point with
  | some id, _ =>
      match tt.placeWithId? id with
      | some p => .ok (tt.endpointAt metric p)
      | none => .error unknown
  | none, some point => .ok { location := l, accesses := tt.walkableStations metric point }
  | none, none =>
      match tt.placesNamed l with
      | [] => .error (if l.kind = .address then .unresolvableAddress else unknown)
      | [p] => .ok (tt.endpointAt metric p)
      | _ => .error .ambiguous

end JourneyPlanner.Timetable

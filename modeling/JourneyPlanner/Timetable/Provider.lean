import JourneyPlanner.Provider.Check
import JourneyPlanner.Timetable.Loading
import JourneyPlanner.Timetable.Paging
import JourneyPlanner.Timetable.Resolution
import JourneyPlanner.Timetable.Suggesting

set_option autoImplicit false

/-!
The provider over a timetable. The whole list of trips is found anew for every page, so that a
continuation can be used again and by any provider over the same timetable.
-/
namespace JourneyPlanner

/-- A timetable with what a provider over it is set to. -/
structure TimetableService where
  timetable : Timetable
  /-- The trips on a page, at least one. -/
  pageSize : Nat
  metric : Metric

namespace TimetableService

def usualPageSize : Nat := 6

def pageSizeOf (settings : Settings) : Nat :=
  if settings.tripsPerPage = 0 then usualPageSize else settings.tripsPerPage.toNat

def capabilities : Capabilities :=
  { Capabilities.ofOperations [.suggestLocations, .nearbyLocations, .departures, .trips, .tripsVia,
      .equivalentStations] with
    suggestKinds := .ofList [.station, .poi, .address] }

def ofFile (metric : Metric) (settings : Settings) (file : TimetableFile) :
    Logged (Except LoadError TimetableService) := do
  match ← Timetable.ofFile file with
  | .error e => return .error e
  | .ok timetable => do
      Logged.report .debug "loaded timetable" [("network", timetable.network.name),
        ("places", toString timetable.places.length),
        ("services", toString timetable.services.length)]
      return .ok { timetable, pageSize := pageSizeOf settings, metric }

/-- From the text of a document. -/
def ofText (metric : Metric) (settings : Settings) (text : String) :
    Logged (Except LoadError TimetableService) :=
  match decodeText TimetableFile text with
  | .ok file => ofFile metric settings file
  | .error e => pure (.error (.json e))

/-- Where the document lies below the address. -/
def documentPath : String := "timetable.json"

/-- From the address in the settings; there is no usual one. -/
def fetch (metric : Metric) (carrier : Carrier) (settings : Settings) :
    Logged (Except LoadError TimetableService) := do
  match settings.endpoint with
  | none => return .error .noEndpoint
  | some address =>
      match Transport.ofSettings settings address with
      | .error e => return .error (.transport e)
      | .ok transport =>
          match ← transport.get TimetableFile carrier documentPath with
          | .error e => return .error (.transport e)
          | .ok file => ofFile metric settings file

def nearby (ts : TimetableService) (q : NearbyQuery) : Enquiry NearbyResponse := do
  let tt := ts.timetable
  match Check.nearbyLocation q.location with
  | .error e => throw e
  | .ok () =>
      let known := q.location.id.bind tt.placeWithId?
      match q.location.point.or (known.map (·.point)) with
      | none => do
          Enquiry.report .debug "unknown location, nothing nearby" []
          return (Response.ok []).withHeader tt.header
      | some center =>
          let others := tt.places.filter fun p =>
            !known.any p.is && kindAllowed q.kinds p.location
          let distances := others.map fun p => (ts.metric center p.point, p)
          let within := distances.filter fun entry =>
            q.maxDistance = 0 || entry.1 ≤ (q.maxDistance.toNat : Rat)
          let nearest := within.mergeSort fun a b => a.1 ≤ b.1
          return (Response.ok ((limited q.maxCount nearest).map fun entry => entry.2.location)
            ).withHeader tt.header

/-- The places that answer a text in small letters, in the order of the timetable. -/
def suggestions (ts : TimetableService) (kinds : Selection LocationKind) (needle : String) :
    List Suggestion :=
  ts.timetable.places.filterMap fun p =>
    if capabilities.suggestKinds.contains p.location.kind && kindAllowed kinds p.location then
      (p.location.matchPriority needle).map fun priority => { location := p.location, priority }
    else none

def suggest (ts : TimetableService) (q : SuggestQuery) : Enquiry SuggestResponse := do
  let needle := Text.lowercase (Text.trim q.text)
  let found := if needle.isEmpty then [] else
    Suggestion.ranked ts.metric capabilities.kindOrder (ts.suggestions q.kinds needle)
  return (Response.ok (limited q.maxCount found)).withHeader ts.timetable.header

/-- The line of a boarding and where its service ends. -/
def directionOf (b : Boarding) : LineDirection := ⟨b.service.line, b.service.destination⟩

/-- The lines at a station, each direction once. -/
def directions (boardings : List Boarding) : List LineDirection :=
  (representatives (fun kept d => kept == d) (boardings.map directionOf)).mergeSort fun a b =>
    (compare a.line b.line).isLE

def departureOf (b : Boarding) : Departure :=
  .atTime b.call.departure b.service.line (b.call.platform.map Platform.named) b.service.destination

/-- The first departures of a station from a time on, and all its lines. -/
def board (ts : TimetableService) (time : Instant) (count : UInt32) (station : Place) :
    Except BoardError Board :=
  let boardings := ts.timetable.boardingsAt station
  let next := limited count (boardings.filter fun b => time ≤ b.call.departure)
  Board.ofDepartures station.location (next.map departureOf) (some (directions boardings))

def departures (ts : TimetableService) (q : DeparturesQuery) : Enquiry DeparturesResponse := do
  let tt := ts.timetable
  match Check.stationId q.station with
  | .error e => throw e
  | .ok () =>
      match (tt.placeWithId? (Text.trim q.station)).filter Place.isStation with
      | none => do
          Enquiry.report .debug "unknown station" []
          return (Response.failed .invalidStation).withHeader tt.header
      | some station =>
          let stations := if q.equivalents then tt.equivalents station else [station]
          match stations.mapM (ts.board (q.time.getD tt.validFrom) q.maxCount) with
          | .ok boards => return (Response.ok boards).withHeader tt.header
          | .error e => do
              Enquiry.report .warn "failed to build departure board" [("error", e.message)]
              return ((Response.failed .serviceDown).withDiagnostic e.message).withHeader tt.header

/-- The places of a query as the timetable knows them. -/
def searchOf (ts : TimetableService) (q : TripQuery) : Except NoTrips Search := do
  let origin ← ts.timetable.resolve ts.metric q.origin .unknownFrom
  let destination ← ts.timetable.resolve ts.metric q.destination .unknownTo
  let via ← match q.via with
    | some via => (ts.timetable.resolve ts.metric via .unknownVia).map some
    | none => .ok none
  if origin.location.isSamePlace ts.metric destination.location then .error .tooClose
  else return { origin, via, destination, preferences := q.preferences }

/-- The continuation of a page that was cut. -/
def continuationOf (ts : TimetableService) (q : TripQuery) (cut : Cut) : Continuation :=
  let cursor : Cursor := { query := q, first := cut.first.key, last := cut.last.key }
  .ofPayload ts.timetable.network cut.earlier cut.later (encode cursor)

/-- A page of the trips that a search finds. -/
def pageOf (ts : TimetableService) (q : TripQuery) (search : Search) (page : Page) :
    Enquiry TripsResponse := do
  let tt := ts.timetable
  match search.trips? tt with
  | none => throw .timeOutOfRange
  | some trips =>
      match page.cut? ts.pageSize trips with
      | none => return (TripsResponse.failed tt.network .noTrips).withHeader tt.header
      | some cut => return (TripsResponse.ok tt.network {
          origin := some search.origin.location
          via := search.via.map (·.location)
          destination := some search.destination.location
          trips := cut.trips
          continuation := ts.continuationOf q cut }).withHeader tt.header

/-- Places too close are told apart before the time is looked at, and the time before the places
are looked up. -/
def plan (ts : TimetableService) (q : TripQuery) (page : Page) : Enquiry TripsResponse := do
  let tt := ts.timetable
  if q.origin.isSamePlace ts.metric q.destination then
    return (TripsResponse.failed tt.network .tooClose).withHeader tt.header
  else if !tt.covers q.time then
    Enquiry.report .debug "outside timetable validity" [("time", q.time.display)]
    return (TripsResponse.failed tt.network .invalidDate).withHeader tt.header
  else
    match ts.searchOf q with
    | .error reason => return (TripsResponse.failed tt.network reason).withHeader tt.header
    | .ok search => ts.pageOf q search page

def firstPage (q : TripQuery) : Page :=
  if q.departing then .departing q.time else .arriving q.time

def trips (ts : TimetableService) (q : TripQuery) : Enquiry TripsResponse :=
  match Check.tripQuery q capabilities with
  | .error e => throw e
  | .ok () => ts.plan q (firstPage q)

def moreTrips (ts : TimetableService) (c : Continuation) (later : Bool) :
    Enquiry TripsResponse := do
  let tt := ts.timetable
  match Check.paging tt.network c later with
  | .error e => throw e
  | .ok () =>
      match c.payloadAs Cursor with
      | .error e => do
          Enquiry.report .warn "undecodable trips context" [("error", e.message)]
          return (TripsResponse.serviceDown tt.network e.message).withHeader tt.header
      | .ok cursor => ts.plan cursor.query (cursor.page later)

def defaultProducts (ts : TimetableService) : Selection Product :=
  if ts.timetable.products.isEmpty then Product.allButHighSpeed else ts.timetable.products

def provider (ts : TimetableService) : Provider where
  network := ts.timetable.network
  capabilities := capabilities
  defaultProducts := ts.defaultProducts
  lineBadge := ts.timetable.badges.lookup
  area := ts.timetable.bounds
  nearby := ts.nearby
  suggest := ts.suggest
  departures := ts.departures
  trips := ts.trips
  moreTrips := ts.moreTrips

end TimetableService

end JourneyPlanner

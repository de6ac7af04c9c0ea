import JourneyPlanner.Log
import JourneyPlanner.Timetable.Basic
import JourneyPlanner.Timetable.File
import JourneyPlanner.Transport

set_option autoImplicit false

/-!
Timetables made from their documents. A record that breaks a rule is reported and skipped, so that
one bad service does not take down the network; only what concerns the whole document is an error.
-/
namespace JourneyPlanner

inductive RecordError where
  | invalidPlace (id : String) (error : LocationError)
  | duplicateId (id : String)
  | unknownStation (service station : String)
  | tooFewCalls (service : String)
  | missingTime (service station : String)
  | backInTime (service : String)
  deriving DecidableEq, Repr

def RecordError.message : RecordError → String
  | .invalidPlace id error => "invalid place " ++ id ++ ": " ++ error.message
  | .duplicateId id => "duplicate place id: " ++ id
  | .unknownStation service station =>
      "service " ++ service ++ " calls at unknown station " ++ station
  | .tooFewCalls service => "service " ++ service ++ " needs at least two calls"
  | .missingTime service station => "service " ++ service ++ " has no time at " ++ station
  | .backInTime service => "service " ++ service ++ " goes back in time"

inductive LoadError where
  | unreadable
  | json (error : DecodeError)
  | transport (error : TransportError)
  | noEndpoint
  | blankNetwork
  | invalidWindow
  /-- The least time for a change is longer than any span of time. -/
  | changeTooLong
  deriving DecidableEq, Repr

def LoadError.message : LoadError → String
  | .unreadable => "failed to read timetable: ..."
  | .json error => "invalid timetable JSON: " ++ error.reason
  | .transport error => "failed to fetch timetable: " ++ error.message
  | .noEndpoint => "no timetable endpoint configured"
  | .blankNetwork => "timetable network id is blank"
  | .invalidWindow => "timetable validity ends before it starts"
  | .changeTooLong => "minimum change time out of range"

namespace Place

/-- An id that is taken is reported before what else may be wrong. -/
def ofRecord (loaded : List Place) (r : PlaceRecord) : Except RecordError Place :=
  if loaded.any (·.id = r.id) then .error (.duplicateId r.id)
  else match GeoPoint.ofMicrodegrees r.latitude.toInt r.longitude.toInt with
    | .error error => .error (.invalidPlace r.id (.point error))
    | .ok point =>
      match Location.ofDetails { kind := r.kind, id := some r.id, point := some point,
                                 place := r.place, name := some r.name } with
      | .error error => .error (.invalidPlace r.id error)
      | .ok location =>
          .ok { number := loaded.length, id := r.id, location, point, group := r.group }

end Place

/-- The records that make valid values, one after the other; each may look at those before it. -/
def loadRecords {ρ α : Type} (skipped : String) (load : List α → ρ → Except RecordError α)
    (loaded : List α) : List ρ → Logged (List α)
  | [] => pure loaded
  | r :: rest =>
      match load loaded r with
      | .ok a => loadRecords skipped load (loaded ++ [a]) rest
      | .error e => do
          Logged.report .warn skipped [("error", e.message)]
          loadRecords skipped load loaded rest

namespace Call

def ofRecord (places : List Place) (service : String) (r : CallRecord) : Except RecordError Call :=
  match places.find? fun p => p.id = r.station && p.isStation with
  | none => .error (.unknownStation service r.station)
  | some station =>
    match r.arrival.or r.departure, r.departure.or r.arrival with
    | some arrival, some departure => .ok { station, arrival, departure, platform := r.platform }
    | _, _ => .error (.missingTime service r.station)

/-- No call departs before it arrives, nor arrives before the call ahead of it has departed. -/
def inOrder : List Call → Bool
  | [] => true
  | [call] => call.arrival ≤ call.departure
  | call :: next :: rest =>
      call.arrival ≤ call.departure && call.departure ≤ next.arrival && inOrder (next :: rest)

end Call

namespace Line

/-- Lines belong to the network of the document unless they name their own. -/
def ofRecord (network : String) (badges : BadgeTable) (bikes wheelchairs : Bool) (r : LineRecord) :
    Line :=
  let line := Line.named (some (r.network.getD network)) (some r.product) (some r.label)
  let described : Line := { line with
    id := some (network ++ ":" ++ r.label)
    name := r.name
    badge := some (badges.lookup line.network line.product line.label) }
  let carrying := if bikes then described.withAttribute .bicycleCarriage else described
  if wheelchairs then carrying.withAttribute .wheelChairAccess else carrying

end Line

namespace Service

/-- The station given, or that of the last call. -/
def destinationOf (places : List Place) (r : ServiceRecord) : Option Location :=
  match r.destination.or (r.calls.getLast?.map (·.station)) with
  | some id => (places.find? (·.id = id)).map (·.location)
  | none => none

def ofRecord (network : String) (badges : BadgeTable) (places : List Place)
    (loaded : List Service) (r : ServiceRecord) : Except RecordError Service :=
  if r.calls.length < 2 then .error (.tooFewCalls r.id)
  else do
    let calls ← r.calls.mapM (Call.ofRecord places r.id)
    if !Call.inOrder calls then .error (.backInTime r.id)
    else return {
      number := loaded.length
      id := r.id
      line := Line.ofRecord network badges r.bikesAllowed r.wheelchairAccessible r.line
      destination := destinationOf places r
      bikesAllowed := r.bikesAllowed
      wheelchairAccessible := r.wheelchairAccessible
      calls := calls }

end Service

namespace Place

/-- What the services calling at a place run. -/
def productsOf (services : List Service) (p : Place) : List Product :=
  services.filterMap fun s => if s.callsAt p then s.line.product else none

/-- A place at which services call reports their products. -/
def serving (services : List Service) (p : Place) : Place :=
  match productsOf services p with
  | [] => p
  | products => { p with location := p.location.withProducts (.ofList products) }

end Place

namespace Service

/-- The service with the products known at the stations where it calls. -/
def withStations (services : List Service) (s : Service) : Service :=
  { s with calls := s.calls.map fun call =>
      { call with station := call.station.serving services } }

end Service

namespace Timetable

/-- Named where the document does not name a product of its own. -/
def usualServerProduct : String := "timetable"

def headerOf (file : TimetableFile) : Header :=
  { Header.ofProduct ⟨file.network⟩ (file.serverProduct.getD usualServerProduct) with
    serverVersion := file.version }

/-- Nanoseconds for a change. A negative time counts as none. -/
def minChangeOf (file : TimetableFile) : Option Int :=
  Time.minutes? (max 0 file.minChangeMinutes.toInt)

def ofFile (file : TimetableFile) : Logged (Except LoadError Timetable) := do
  if Text.isBlankText file.network then return .error .blankNetwork
  else if file.validUntil < file.validFrom then return .error .invalidWindow
  else
    let places ← loadRecords "skipping place" Place.ofRecord [] file.places
    let services ← loadRecords "skipping service"
      (Service.ofRecord file.network file.badges places) [] file.services
    match minChangeOf file with
    | none => return .error .changeTooLong
    | some minChange =>
        let complete := services.map (Service.withStations services)
        return .ok {
          network := ⟨file.network⟩
          header := headerOf file
          validFrom := file.validFrom
          validUntil := file.validUntil
          minChange := minChange
          maxWalkMeters := file.maxWalkMeters
          places := places.map (Place.serving services)
          services := complete
          badges := file.badges
          boardings := Boarding.ofServices complete
          boardings_eq := rfl }

end Timetable

end JourneyPlanner

import JourneyPlanner.Board
import JourneyPlanner.Continuation
import JourneyPlanner.Json.Record
import JourneyPlanner.Location.Ranking
import JourneyPlanner.Trip.Basic

set_option autoImplicit false

/-!
Answers of providers. An enquiry that was well put ends in what was asked for or in one of a few
reasons why there is nothing to show; the reason comes with nothing else.
-/
namespace JourneyPlanner

/-- What the network tells about itself with an answer. -/
structure Header where
  network : NetworkId
  serverProduct : String
  serverVersion : Option String
  serverName : Option String
  serverTime : Option Instant
  deriving DecidableEq

namespace Header

def ofProduct (network : NetworkId) (serverProduct : String) : Header :=
  { network, serverProduct, serverVersion := none, serverName := none, serverTime := none }

instance : Codec Header where
  encode h := .object [("network", encode h.network), ("server_product", encode h.serverProduct),
    ("server_version", encode h.serverVersion), ("server_name", encode h.serverName),
    ("server_time", encode h.serverTime)]
  decode := Record.decode <|
    mk <$> .required "network" <*> .required "server_product" <*> .optional "server_version"
      <*> .optional "server_name" <*> .optional "server_time"

end Header

/-- A reason for having nothing to show, in a word for exchange and a label for messages. -/
class Reason (σ : Type) where
  word : σ → String
  label : σ → String

inductive Outage where
  | serviceDown
  deriving DecidableEq, Repr

instance : Reason Outage where
  word | .serviceDown => "SERVICE_DOWN"
  label | .serviceDown => "ServiceDown"

inductive NoDepartures where
  | invalidStation
  | serviceDown
  deriving DecidableEq, Repr

instance : Reason NoDepartures where
  word
    | .invalidStation => "INVALID_STATION"
    | .serviceDown => "SERVICE_DOWN"
  label
    | .invalidStation => "InvalidStation"
    | .serviceDown => "ServiceDown"

inductive NoTrips where
  /-- A place asked for may be any of several. -/
  | ambiguous
  | tooClose
  | unknownFrom
  | unknownTo
  | unknownVia
  | noTrips
  /-- The time lies outside the timetable. -/
  | invalidDate
  | serviceDown
  | unresolvableAddress
  deriving DecidableEq, Repr

instance : Listed NoTrips where
  all := [.ambiguous, .tooClose, .unknownFrom, .unknownTo, .unknownVia, .noTrips, .invalidDate,
    .serviceDown, .unresolvableAddress]
  complete := by intro a; cases a <;> decide
  distinct := by decide

instance : Reason NoTrips where
  word
    | .ambiguous => "AMBIGUOUS"
    | .tooClose => "TOO_CLOSE"
    | .unknownFrom => "UNKNOWN_FROM"
    | .unknownTo => "UNKNOWN_TO"
    | .unknownVia => "UNKNOWN_VIA"
    | .noTrips => "NO_TRIPS"
    | .invalidDate => "INVALID_DATE"
    | .serviceDown => "SERVICE_DOWN"
    | .unresolvableAddress => "UNRESOLVABLE_ADDRESS"
  label
    | .ambiguous => "Ambiguous"
    | .tooClose => "TooClose"
    | .unknownFrom => "UnknownFrom"
    | .unknownTo => "UnknownTo"
    | .unknownVia => "UnknownVia"
    | .noTrips => "NoTrips"
    | .invalidDate => "InvalidDate"
    | .serviceDown => "ServiceDown"
    | .unresolvableAddress => "UnresolvableAddress"

instance : Worded NoTrips := ⟨Reason.word⟩

/-- What was found, or why nothing was. -/
structure Response (σ α : Type) where
  header : Option Header
  outcome : Except σ α
  /-- What went wrong, for those who look into it. -/
  diagnostic : Option String

namespace Response

variable {σ α β : Type}

def ok (a : α) : Response σ α := ⟨none, .ok a, none⟩

def failed (reason : σ) : Response σ α := ⟨none, .error reason, none⟩

def withHeader (r : Response σ α) (header : Header) : Response σ α :=
  { r with header := some header }

def withDiagnostic (r : Response σ α) (diagnostic : String) : Response σ α :=
  { r with diagnostic := some diagnostic }

def map (f : α → β) (r : Response σ α) : Response σ β :=
  { r with outcome := r.outcome.map f }

def isOk (r : Response σ α) : Bool :=
  r.outcome.toBool

/-- What was found, or nothing. -/
def found (r : Response σ (List α)) : List α :=
  r.outcome.toOption.getD []

def status [Reason σ] (r : Response σ α) : String :=
  match r.outcome with
  | .ok _ => "OK"
  | .error reason => Reason.word reason

/-- The response with its content under `name`. -/
def encodeWith [Reason σ] (name : String) (content : Json) (r : Response σ α) : Json :=
  .object [("header", encode r.header), ("status", .string r.status), (name, content),
    ("diagnostic", encode r.diagnostic)]

end Response

abbrev NearbyResponse := Response Outage (List Location)

abbrev SuggestResponse := Response Outage (List Suggestion)

abbrev DeparturesResponse := Response NoDepartures (List Board)

def NearbyResponse.result (r : NearbyResponse) : Json :=
  r.encodeWith "locations" (encode r.found)

def SuggestResponse.result (r : SuggestResponse) : Json :=
  r.encodeWith "suggested" (encode r.found)

def DeparturesResponse.result (r : DeparturesResponse) : Json :=
  r.encodeWith "station_departures" (encode r.found)

/-- The board of a station. -/
def DeparturesResponse.boardOf? (r : DeparturesResponse) (station : String) : Option Board :=
  r.found.find? fun board => board.location.id = some station

/-- A page of trips, the places as they were understood, and the way to the neighbouring pages. -/
structure TripPage where
  origin : Option Location
  via : Option Location
  destination : Option Location
  trips : List Trip
  continuation : Continuation

/-- Nothing was looked for, and nothing lies beyond. -/
def TripPage.blank (network : NetworkId) : TripPage where
  origin := none
  via := none
  destination := none
  trips := []
  continuation := .terminal network

structure TripsResponse extends Response NoTrips TripPage where
  network : NetworkId

namespace TripsResponse

def ok (network : NetworkId) (page : TripPage) : TripsResponse :=
  { toResponse := Response.ok page, network }

def failed (network : NetworkId) (reason : NoTrips) : TripsResponse :=
  { toResponse := Response.failed reason, network }

def serviceDown (network : NetworkId) (diagnostic : String) : TripsResponse :=
  { toResponse := (Response.failed .serviceDown).withDiagnostic diagnostic, network }

def withHeader (r : TripsResponse) (header : Header) : TripsResponse :=
  { r with toResponse := r.toResponse.withHeader header }

/-- Without trips there are no places, and no way on. -/
def page (r : TripsResponse) : TripPage :=
  match r.outcome with
  | .ok page => page
  | .error _ => .blank r.network

def trips (r : TripsResponse) : List Trip :=
  r.page.trips

def continuation (r : TripsResponse) : Continuation :=
  r.page.continuation

/-- The response without its continuation. -/
def result (r : TripsResponse) : Json :=
  .object [("header", encode r.header), ("status", .string r.status),
    ("from", encode r.page.origin), ("via", encode r.page.via), ("to", encode r.page.destination),
    ("trips", encode r.trips), ("diagnostic", encode r.diagnostic)]

end TripsResponse

end JourneyPlanner

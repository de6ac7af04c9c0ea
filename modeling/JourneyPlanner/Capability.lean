import JourneyPlanner.Json.Record
import JourneyPlanner.Location.Ranking

set_option autoImplicit false

/-! What a provider can do. -/
namespace JourneyPlanner

inductive Capability where
  | suggestLocations
  | nearbyLocations
  | departures
  | trips
  /-- Trips through a place on the way. -/
  | tripsVia
  /-- Departures of the stations that belong together, on request. -/
  | equivalentStations
  deriving DecidableEq, Repr

namespace Capability

instance : Listed Capability where
  all := [.suggestLocations, .nearbyLocations, .departures, .trips, .tripsVia, .equivalentStations]
  complete := by intro a; cases a <;> decide
  distinct := by decide

instance : Worded Capability where
  word
    | .suggestLocations => "SUGGEST_LOCATIONS"
    | .nearbyLocations => "NEARBY_LOCATIONS"
    | .departures => "DEPARTURES"
    | .trips => "TRIPS"
    | .tripsVia => "TRIPS_VIA"
    | .equivalentStations => "EQUIVALENT_STATIONS"

/-- The name of a capability in messages. -/
def label : Capability → String
  | .suggestLocations => "SuggestLocations"
  | .nearbyLocations => "NearbyLocations"
  | .departures => "Departures"
  | .trips => "Trips"
  | .tripsVia => "TripsVia"
  | .equivalentStations => "EquivalentStations"

end Capability

structure Capabilities where
  operations : Selection Capability
  /-- The kinds of place that free text may be resolved to. -/
  suggestKinds : Selection LocationKind
  /-- The order of kinds among suggestions of one priority. -/
  kindOrder : List LocationKind
  deriving DecidableEq

namespace Capabilities

def ofOperations (operations : List Capability) : Capabilities where
  operations := .ofList operations
  suggestKinds := .empty
  kindOrder := defaultKindOrder

def supports (c : Capabilities) (capability : Capability) : Bool :=
  c.operations.contains capability

def supportsAll (c : Capabilities) (capabilities : List Capability) : Bool :=
  capabilities.all c.supports

instance : Codec Capabilities where
  encode c := .object [("operations", encode c.operations),
    ("suggest_types", encode c.suggestKinds), ("type_order", encode c.kindOrder)]
  decode := Record.decode <|
    mk <$> .required "operations" <*> .required "suggest_types" <*> .required "type_order"

end Capabilities

end JourneyPlanner

import JourneyPlanner.Badge.Table
import JourneyPlanner.Json.Record
import JourneyPlanner.Location.Basic
import JourneyPlanner.Time.Text

set_option autoImplicit false

/-! The records of a timetable document, as they are written and before they are checked. -/
namespace JourneyPlanner

structure PlaceRecord where
  id : String
  kind : LocationKind
  name : String
  place : Option String
  latitude : Int32
  longitude : Int32
  /-- Stations of one group belong together. -/
  group : Option String

structure LineRecord where
  label : String
  product : Product
  network : Option String
  name : Option String

structure CallRecord where
  station : String
  arrival : Option Instant
  departure : Option Instant
  platform : Option String

structure ServiceRecord where
  id : String
  line : LineRecord
  /-- The last call unless given. -/
  destination : Option String
  bikesAllowed : Bool
  wheelchairAccessible : Bool
  calls : List CallRecord

structure TimetableFile where
  network : String
  serverProduct : Option String
  version : Option String
  validFrom : Instant
  validUntil : Instant
  minChangeMinutes : Int64
  maxWalkMeters : UInt32
  places : List PlaceRecord
  services : List ServiceRecord
  badges : BadgeTable

instance : Codec PlaceRecord where
  encode r := .object [("id", encode r.id), ("type", encode r.kind), ("name", encode r.name),
    ("place", encode r.place), ("lat", encode r.latitude), ("lon", encode r.longitude),
    ("group", encode r.group)]
  decode := Record.decode <|
    PlaceRecord.mk <$> .required "id" <*> .defaulted "type" .station <*> .required "name"
      <*> .defaulted "place" none <*> .required "lat" <*> .required "lon"
      <*> .defaulted "group" none

instance : Codec LineRecord where
  encode r := .object [("label", encode r.label), ("product", encode r.product),
    ("network", encode r.network), ("name", encode r.name)]
  decode := Record.decode <|
    LineRecord.mk <$> .required "label" <*> .required "product" <*> .defaulted "network" none
      <*> .defaulted "name" none

instance : Codec CallRecord where
  encode r := .object [("station", encode r.station), ("arr", encode r.arrival),
    ("dep", encode r.departure), ("platform", encode r.platform)]
  decode := Record.decode <|
    CallRecord.mk <$> .required "station" <*> .defaulted "arr" none <*> .defaulted "dep" none
      <*> .defaulted "platform" none

instance : Codec ServiceRecord where
  encode r := .object [("id", encode r.id), ("line", encode r.line),
    ("destination", encode r.destination), ("bikes_allowed", encode r.bikesAllowed),
    ("wheelchair_accessible", encode r.wheelchairAccessible), ("calls", encode r.calls)]
  decode := Record.decode <|
    ServiceRecord.mk <$> .required "id" <*> .required "line" <*> .defaulted "destination" none
      <*> .defaulted "bikes_allowed" false <*> .defaulted "wheelchair_accessible" false
      <*> .required "calls"

namespace TimetableFile

def usualMinChangeMinutes : Int64 := 2

def usualMaxWalkMeters : UInt32 := 1500

def presentBadges (badges : BadgeTable) : List (String × Json) :=
  if badges.isEmpty then [] else [("styles", encode badges)]

instance : Codec TimetableFile where
  encode f := .object (
    [("network", encode f.network), ("server_product", encode f.serverProduct),
      ("version", encode f.version), ("valid_from", encode f.validFrom),
      ("valid_until", encode f.validUntil), ("min_change_minutes", encode f.minChangeMinutes),
      ("max_walk_meters", encode f.maxWalkMeters), ("places", encode f.places),
      ("services", encode f.services)] ++ presentBadges f.badges)
  decode := Record.decode <|
    mk <$> .required "network" <*> .defaulted "server_product" none <*> .defaulted "version" none
      <*> .required "valid_from" <*> .required "valid_until"
      <*> .defaulted "min_change_minutes" usualMinChangeMinutes
      <*> .defaulted "max_walk_meters" usualMaxWalkMeters <*> .required "places"
      <*> .defaulted "services" [] <*> .defaulted "styles" .empty

end TimetableFile

end JourneyPlanner

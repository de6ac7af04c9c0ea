import JourneyPlanner.Json.Record
import JourneyPlanner.Location.Identity
import JourneyPlanner.Time.Text

set_option autoImplicit false

/-! Calls of a vehicle at a place, as planned and as foreseen from its present delay. -/
namespace JourneyPlanner

/-- A platform or stand, with a section of it. -/
structure Platform where
  name : String
  sectionName : Option String
  deriving DecidableEq, Repr

namespace Platform

def named (name : String) : Platform := ⟨name, none⟩

def text (p : Platform) : String :=
  match p.sectionName with
  | some s => p.name ++ " " ++ s
  | none => p.name

instance : Codec Platform where
  encode p := .object [("name", encode p.name), ("section", encode p.sectionName)]
  decode := Record.decode <| mk <$> .required "name" <*> .optional "section"

end Platform

/-- Time and platform of an arrival or a departure. -/
structure CallEvent where
  planned : Option Instant
  predicted : Option Instant
  plannedPlatform : Option Platform
  predictedPlatform : Option Platform
  cancelled : Bool
  deriving DecidableEq

namespace CallEvent

/-- An event of which nothing is known. -/
def blank : CallEvent := ⟨none, none, none, none, false⟩

def ofPlan (time : Instant) (platform : Option Platform) : CallEvent :=
  { blank with planned := some time, plannedPlatform := platform }

/-- The predicted time if known; the planned one first where that is preferred. -/
def time (e : CallEvent) (preferPlanned : Bool) : Option Instant :=
  if preferPlanned then e.planned.or e.predicted else e.predicted.or e.planned

def isPredicted (e : CallEvent) (preferPlanned : Bool) : Bool :=
  !(preferPlanned && e.planned.isSome) && e.predicted.isSome

def platform (e : CallEvent) : Option Platform :=
  e.predictedPlatform.or e.plannedPlatform

/-- Nanoseconds by which the prediction is behind the plan. -/
def delay (e : CallEvent) : Option Int :=
  match e.planned, e.predicted with
  | some planned, some predicted => some (planned.spanTo predicted)
  | _, _ => none

def earliest (e : CallEvent) : Option Instant :=
  match e.planned, e.predicted with
  | some planned, some predicted => some (planned.earlier predicted)
  | planned, predicted => planned.or predicted

def latest (e : CallEvent) : Option Instant :=
  match e.planned, e.predicted with
  | some planned, some predicted => some (planned.later predicted)
  | planned, predicted => planned.or predicted

end CallEvent

structure Stop where
  location : Location
  arrival : CallEvent
  departure : CallEvent

namespace Stop

/-- A place where nothing is known to call. -/
def bare (location : Location) : Stop := ⟨location, .blank, .blank⟩

instance : BEq Stop :=
  ⟨fun a b => a.location == b.location && a.arrival = b.arrival && a.departure = b.departure⟩

/-- The earliest time of departure. -/
def minTime (s : Stop) : Option Instant :=
  s.departure.earliest

/-- The latest time of arrival. -/
def maxTime (s : Stop) : Option Instant :=
  s.arrival.latest

def encodeEvent (word : String) (e : CallEvent) : List (String × Json) :=
  [("planned_" ++ word ++ "_time", encode e.planned),
    ("predicted_" ++ word ++ "_time", encode e.predicted),
    ("planned_" ++ word ++ "_position", encode e.plannedPlatform),
    ("predicted_" ++ word ++ "_position", encode e.predictedPlatform),
    (word ++ "_cancelled", encode e.cancelled)]

def eventRecord (word : String) : Record CallEvent :=
  CallEvent.mk <$> .optional ("planned_" ++ word ++ "_time")
    <*> .optional ("predicted_" ++ word ++ "_time")
    <*> .optional ("planned_" ++ word ++ "_position")
    <*> .optional ("predicted_" ++ word ++ "_position")
    <*> .defaulted (word ++ "_cancelled") false

instance : Codec Stop where
  encode s := .object (
    ("location", encode s.location) :: encodeEvent "arrival" s.arrival ++
      encodeEvent "departure" s.departure)
  decode := Record.decode <|
    mk <$> .required "location" <*> eventRecord "arrival" <*> eventRecord "departure"

end Stop

end JourneyPlanner

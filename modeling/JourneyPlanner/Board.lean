import JourneyPlanner.Json.Record
import JourneyPlanner.Line
import JourneyPlanner.Stop

set_option autoImplicit false

/-! Departures, and the boards on which a station shows them in the order of their times. -/
namespace JourneyPlanner

inductive BoardError where
  | missingTime
  | notAStation (kind : LocationKind)
  deriving DecidableEq, Repr

def BoardError.message : BoardError → String
  | .missingTime => "departure needs a planned or predicted time"
  | .notAStation kind => "departures belong to a station, not " ++ kind.label

structure Departure where
  planned : Option Instant
  predicted : Option Instant
  line : Line
  platform : Option Platform
  destination : Option Location
  message : Option String
  timed : (predicted.or planned).isSome

namespace Departure

def ofTimes (planned predicted : Option Instant) (line : Line) (platform : Option Platform)
    (destination : Option Location) : Except BoardError Departure :=
  if timed : (predicted.or planned).isSome then
    .ok { planned, predicted, line, platform, destination, message := none, timed }
  else .error .missingTime

/-- A departure of which the plan alone is known. -/
def atTime (time : Instant) (line : Line) (platform : Option Platform)
    (destination : Option Location) : Departure :=
  { planned := some time, predicted := none, line, platform, destination, message := none,
    timed := by simp }

def withMessage (d : Departure) (message : String) : Departure :=
  { d with message := some message }

/-- Predicted where known. -/
def time (d : Departure) : Instant :=
  (d.predicted.or d.planned).get d.timed

instance : BEq Departure := ⟨fun a b =>
  a.planned == b.planned && a.predicted == b.predicted && a.line == b.line &&
    a.platform == b.platform && a.destination == b.destination && a.message == b.message⟩

def check (planned predicted : Option Instant) (line : Line) (platform : Option Platform)
    (destination : Option Location) (message : Option String) : Decoded Departure := do
  let departure ← Json.checked BoardError.message
    (ofTimes planned predicted line platform destination)
  return { departure with message := message }

instance : Codec Departure where
  encode d := .object [("planned_time", encode d.planned), ("predicted_time", encode d.predicted),
    ("line", encode d.line), ("position", encode d.platform),
    ("destination", encode d.destination), ("message", encode d.message)]
  decode := Record.decodeChecked <|
    check <$> .optional "planned_time" <*> .optional "predicted_time" <*> .required "line"
      <*> .optional "position" <*> .optional "destination" <*> .optional "message"

end Departure

/-- The departures of one station, by time, and the lines that serve it. -/
structure Board where
  location : Location
  departures : List Departure
  lines : Option (List LineDirection)
  station : location.kind = .station
  inOrder : departures.Pairwise fun a b => a.time ≤ b.time

namespace Board

def notAfter (a b : Departure) : Bool :=
  decide (a.time ≤ b.time)

theorem notAfter_trans (a b c : Departure) (ab : notAfter a b) (bc : notAfter b c) :
    notAfter a c := by
  have ab : a.time.rank ≤ b.time.rank := of_decide_eq_true ab
  have bc : b.time.rank ≤ c.time.rank := of_decide_eq_true bc
  exact decide_eq_true (show a.time.rank ≤ c.time.rank by omega)

theorem notAfter_total (a b : Departure) : (notAfter a b || notAfter b a) = true := by
  rcases Int.le_total a.time.rank b.time.rank with forward | backward
  · simp [notAfter, show a.time ≤ b.time from forward]
  · simp [notAfter, show b.time ≤ a.time from backward]

def byTime (departures : List Departure) : List Departure :=
  departures.mergeSort notAfter

theorem byTime_inOrder (departures : List Departure) :
    (byTime departures).Pairwise fun a b => a.time ≤ b.time :=
  (List.pairwise_mergeSort notAfter_trans notAfter_total departures).imp fun ordered =>
    of_decide_eq_true ordered

/-- Departures at one time keep the order in which they are given. -/
def ofDepartures (location : Location) (departures : List Departure)
    (lines : Option (List LineDirection)) : Except BoardError Board :=
  if station : location.kind = .station then
    .ok { location, departures := byTime departures, lines, station,
          inOrder := byTime_inOrder departures }
  else .error (.notAStation location.kind)

/-- The earliest departures, at most so many. -/
def truncated (b : Board) (count : Nat) : Board :=
  { b with
    departures := b.departures.take count
    inOrder := b.inOrder.sublist (List.take_sublist _ _) }

instance : BEq Board := ⟨fun a b =>
  a.location == b.location && a.departures == b.departures && a.lines == b.lines⟩

instance : Codec Board where
  encode b := .object [("location", encode b.location), ("departures", encode b.departures),
    ("lines", encode b.lines)]
  decode := Record.decodeChecked <|
    (fun location departures lines =>
      Json.checked BoardError.message (ofDepartures location departures lines))
      <$> .required "location" <*> .defaulted "departures" [] <*> .optional "lines"

end Board

end JourneyPlanner

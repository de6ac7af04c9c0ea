import JourneyPlanner.Badge.Basic
import JourneyPlanner.Json.Record
import JourneyPlanner.Location.Identity

set_option autoImplicit false

/-!
Lines of public transport. A line is identified by its network, its product and its label; all else
describes it.
-/
namespace JourneyPlanner

inductive LineAttribute where
  | circleClockwise
  | circleAnticlockwise
  | serviceReplacement
  | lineAirport
  | wheelChairAccess
  | bicycleCarriage
  deriving DecidableEq, Repr

instance : Listed LineAttribute where
  all := [.circleClockwise, .circleAnticlockwise, .serviceReplacement, .lineAirport,
    .wheelChairAccess, .bicycleCarriage]
  complete := by intro a; cases a <;> decide
  distinct := by decide

instance : Worded LineAttribute where
  word
    | .circleClockwise => "CIRCLE_CLOCKWISE"
    | .circleAnticlockwise => "CIRCLE_ANTICLOCKWISE"
    | .serviceReplacement => "SERVICE_REPLACEMENT"
    | .lineAirport => "LINE_AIRPORT"
    | .wheelChairAccess => "WHEEL_CHAIR_ACCESS"
    | .bicycleCarriage => "BICYCLE_CARRIAGE"

structure Line where
  id : Option String
  network : Option String
  product : Option Product
  /-- What stands on the vehicle. -/
  label : Option String
  name : Option String
  attributes : Selection LineAttribute
  message : Option String
  badge : Option Badge

namespace Line

/-- What a line is identified by. -/
def identity (l : Line) : Option String × Option Product × Option String :=
  (l.network, l.product, l.label)

instance : BEq Line := ⟨fun a b => a.identity = b.identity⟩

/-- Network, product and label, and nothing of what describes the line. -/
def hashInputs (l : Line) : List HashInput :=
  HashInput.ofOptional (fun network => [.text network]) l.network ++
    (HashInput.ofOptional (fun product => [.ofListed product]) l.product ++
      HashInput.ofOptional (fun label => [.text label]) l.label)

/-- A line of which nothing more is known. -/
def named (network : Option String) (product : Option Product) (label : Option String) : Line where
  id := none
  network := network
  product := product
  label := label
  name := none
  attributes := .empty
  message := none
  badge := none

def withAttribute (l : Line) (a : LineAttribute) : Line :=
  { l with attributes := l.attributes.insert a }

def withBadge (l : Line) (badge : Badge) : Line :=
  { l with badge := some badge }

/-- The code of the product, or a question mark. -/
def productCode (l : Line) : Char :=
  match l.product with
  | some p => p.code
  | none => '?'

/-- What is absent comes last. -/
def compareAbsentLast {α : Type} [Ord α] : Option α → Option α → Ordering
  | some a, some b => compare a b
  | none, none => .eq
  | none, some _ => .gt
  | some _, none => .lt

/-- By network, then product, then label. -/
instance : Ord Line where
  compare a b :=
    (compareAbsentLast a.network b.network).then
      ((compareAbsentLast a.product b.product).then (compareAbsentLast a.label b.label))

def presentAttributes (attributes : Selection LineAttribute) : List (String × Json) :=
  if attributes.isEmpty then [] else [("attributes", encode attributes)]

instance : Codec Line where
  encode l := .object (
    [("id", encode l.id), ("network", encode l.network), ("product", encode l.product),
      ("label", encode l.label), ("name", encode l.name)] ++ presentAttributes l.attributes ++
      ("message", encode l.message) :: Json.present "style" l.badge)
  decode := Record.decode <|
    mk <$> .optional "id" <*> .optional "network" <*> .optional "product" <*> .optional "label"
      <*> .optional "name" <*> .defaulted "attributes" .empty <*> .optional "message"
      <*> .defaulted "style" none

end Line

/-- A line together with where it runs to. -/
structure LineDirection where
  line : Line
  destination : Option Location

namespace LineDirection

def destinationName (d : LineDirection) : Option String :=
  d.destination.bind Location.shortName

/-- Destinations go by the name shown, since one place may be reported under several ids. -/
instance : BEq LineDirection :=
  ⟨fun a b => a.line == b.line && a.destinationName = b.destinationName⟩

def hashInputs (d : LineDirection) : List HashInput :=
  d.line.hashInputs ++ HashInput.ofOptional (fun name => [.text name]) d.destinationName

instance : Codec LineDirection where
  encode d := .object [("line", encode d.line), ("destination", encode d.destination)]
  decode := Record.decode <| mk <$> .required "line" <*> .optional "destination"

end LineDirection

end JourneyPlanner

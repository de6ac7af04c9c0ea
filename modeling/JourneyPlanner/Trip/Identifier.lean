import JourneyPlanner.Trip.Leg

set_option autoImplicit false

/-!
Identifiers of connections. Two lists of legs between the same places, on the same lines at the
same planned times, get one identifier whatever the predictions say.
-/
namespace JourneyPlanner

namespace Location

/-- The id, else the coordinates, else the name. -/
def key (l : Location) : String :=
  match l.id, l.point with
  | some id, _ => id
  | none, some point => point.text
  | none, none => l.name.getD ""

end Location

namespace Leg

/-- A planned time in whole seconds, followed by a dash. -/
def timeKey (time : Option Instant) : String :=
  match time with
  | some t => toString t.second ++ "-"
  | none => ""

def rideKey (leg : PublicLeg) : String :=
  timeKey leg.departureStop.departure.planned ++ timeKey leg.arrivalStop.arrival.planned ++
    String.singleton leg.line.productCode ++ leg.line.label.getD ""

def key (leg : Leg) : String :=
  leg.departure.key ++ "-" ++ leg.arrival.key ++ "-" ++
    match leg with
    | .ride publicLeg => rideKey publicLeg
    | .own _ => "individual"

/-- The keys of the legs with bars between them. -/
def identifier (legs : List Leg) : String :=
  "|".intercalate (legs.map key)

end Leg

end JourneyPlanner

import JourneyPlanner.Json.Record
import JourneyPlanner.Location.Identity
import JourneyPlanner.Representatives

set_option autoImplicit false

/-! Lists of places without doubles, and suggestions in the order of how well they answer. -/
namespace JourneyPlanner

/-- The order in which kinds of place are preferred among suggestions of one priority. -/
def defaultKindOrder : List LocationKind :=
  [.station, .address, .poi, .coord, .any]

/-- The locations that are not the same place as one kept before. -/
def dedupLocations (metric : Metric) (locations : List Location) : List Location :=
  representatives (Location.isSamePlace metric) locations

/-- A place offered for a free text. A higher priority is a better match. -/
structure Suggestion where
  location : Location
  priority : Int32

namespace Suggestion

instance : Codec Suggestion where
  encode s := .object [("location", encode s.location), ("priority", encode s.priority)]
  decode := Record.decode <| mk <$> .required "location" <*> .required "priority"

instance : BEq Suggestion := ⟨fun a b => a.location == b.location && a.priority = b.priority⟩

/-- The position of the kind in the order; kinds that are not listed come last. -/
def kindRank (order : List LocationKind) (s : Suggestion) : Nat :=
  order.findIdx (· = s.location.kind)

/-- Shorter names first, by their bytes, and the nameless last. -/
def compareNames (a b : Suggestion) : Ordering :=
  match a.location.name, b.location.name with
  | some x, some y => compare x.utf8ByteSize y.utf8ByteSize
  | some _, none => .lt
  | none, some _ => .gt
  | none, none => .eq

/-- Higher priorities first, then kinds in their order, then shorter names. -/
def compareRank (order : List LocationKind) (a b : Suggestion) : Ordering :=
  (compare b.priority.toInt a.priority.toInt).then
    ((compare (a.kindRank order) (b.kindRank order)).then (compareNames a b))

/-- Best first; of suggestions for one place the best is kept. -/
def ranked (metric : Metric) (order : List LocationKind) (suggestions : List Suggestion) :
    List Suggestion :=
  representatives (fun kept s => kept.location.isSamePlace metric s.location)
    (suggestions.mergeSort fun a b => (compareRank order a b).isLE)

end Suggestion

end JourneyPlanner

import JourneyPlanner.Location.Basic
import JourneyPlanner.Geo.Distance
import JourneyPlanner.Hashing

set_option autoImplicit false

/-!
When two locations are the same. Equality goes by the first of id, point and name that either side
has; the tolerant relation takes points close together for one place and is not transitive.
-/
namespace JourneyPlanner

namespace Location

/-- What identifies a location: its id, else its point, else its name and place. -/
inductive Identity where
  | id (id : String)
  | point (point : GeoPoint)
  | name (place name : Option String)
  deriving DecidableEq

def identity (l : Location) : Identity :=
  match l.id, l.point with
  | some id, _ => .id id
  | none, some point => .point point
  | none, none => .name l.place l.name

/-- Equal kinds, and the same id; without ids the same point; without points the same names. -/
def isSame (a b : Location) : Bool :=
  if a.kind ≠ b.kind then false
  else if a.id.isSome || b.id.isSome then a.id = b.id
  else if a.point.isSome || b.point.isSome then a.point = b.point
  else a.place = b.place && a.name = b.name

instance : BEq Location := ⟨isSame⟩

/-- The kind, and of id, point and names only what equality goes by. -/
def hashInputs (l : Location) : List HashInput :=
  .ofListed l.kind :: match l.id, l.point with
    | some id, _ => [.text id]
    | none, some point => [.number point.latitude, .number point.longitude]
    | none, none =>
        HashInput.ofOptional (fun place => [.text place]) l.place ++
          HashInput.ofOptional (fun name => [.text name]) l.name

/-- Points at most this many metres apart are taken for one place. -/
def samePlaceTolerance : Rat := 1

/-- Of one kind and, if both have an id, of one id; else with points close together, or, where
there is neither id nor point, equal. -/
def isSamePlace (metric : Metric) (a b : Location) : Bool :=
  if a.kind ≠ b.kind then false
  else match a.id, b.id with
    | some i, some j => i = j
    | i, j =>
      match a.point, b.point with
      | some p, some q => metric p q ≤ samePlaceTolerance
      | none, none => i.isNone && j.isNone && a == b
      | _, _ => false

/-- Agreement in every detail and in the products. -/
def agreesWith (a b : Location) : Bool :=
  a.toLocationDetails = b.toLocationDetails && a.products = b.products

end Location

end JourneyPlanner

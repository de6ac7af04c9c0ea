import JourneyPlanner.Json.Codec

set_option autoImplicit false

/-!
Records read field by field. A record is written as an object, or as an array of the values of its
fields in their order. Every field is read before the value is made: of several faults the one that
stands first in the document counts, and what is missing comes last.
-/
namespace JourneyPlanner

/-- A value, or a fault and its place among the fields that are given. -/
abbrev Located (α : Type) := Except (Nat × DecodeError) α

namespace Located

/-- Both values; of two faults the one that stands first. -/
def both {α β : Type} : Located α → Located β → Located (α × β)
  | .ok a, .ok b => .ok (a, b)
  | .error e, .ok _ => .error e
  | .ok _, .error e => .error e
  | .error e, .error other => .error (if other.1 < e.1 then other else e)

theorem both_eq_ok {α β : Type} {x : Located α} {y : Located β} {a : α} {b : β} :
    both x y = .ok (a, b) ↔ x = .ok a ∧ y = .ok b := by
  cases x <;> cases y <;> simp [both]

end Located

/-- How a value is made of the fields of a record. -/
structure Record (α : Type) where
  /-- The fields in their order, and for each whether an array may end before it. -/
  fields : List (String × Bool)
  read : List (String × Json) → Located α

namespace Record

instance : Applicative Record where
  pure a := ⟨[], fun _ => .ok a⟩
  map f x := ⟨x.fields, fun given => (x.read given).map f⟩
  seq f x := ⟨f.fields ++ (x ()).fields, fun given =>
    ((f.read given).both ((x ()).read given)).map fun found => found.1 found.2⟩

theorem read_seq_of_ok {α β : Type} {f : Record (α → β)} {x : Record α}
    {given : List (String × Json)} {g : α → β} {a : α}
    (left : f.read given = .ok g) (right : x.read given = .ok a) :
    (f <*> x).read given = .ok (g a) := by
  simp [Seq.seq, left, right, Located.both, Except.map]

/-- A field, which must not occur twice, and what its absence means. -/
def field {α : Type} (name : String) (omittable : Bool) (decode : Json → Decoded α)
    (absent : Option α) : Record α where
  fields := [(name, omittable)]
  read given :=
    match given.zipIdx.filter fun entry => entry.1.1 == name with
    | [] => absent.elim (.error (given.length, .malformed)) .ok
    | (entry, place) :: later =>
        match decode entry.2, later with
        | .error e, _ => .error (place, e)
        | .ok a, [] => .ok a
        | .ok _, (_, again) :: _ => .error (again, .malformed)

/-- A field that must be there. -/
def required {α : Type} [Codec α] (name : String) : Record α :=
  field name false decode none

/-- A field that may be null, or absent from an object. -/
def optional {α : Type} [Codec α] (name : String) : Record (Option α) :=
  field name false decode (some none)

/-- A field that may be absent. -/
def defaulted {α : Type} [Codec α] (name : String) (default : α) : Record α :=
  field name true decode (some default)

/-- An array has a value for each field, except for the last ones that may be absent. -/
def fits {α : Type} (r : Record α) (items : List Json) : Bool :=
  items.length ≤ r.fields.length && (r.fields.drop items.length).all (·.2)

def decode {α : Type} (r : Record α) : Json → Decoded α
  | .object given => (r.read given).mapError (·.2)
  | .fragment given =>
      match r.read given with
      | .error fault => .error fault.2
      | .ok _ => .error .malformed
  | .array items =>
      match r.read ((r.fields.map (·.1)).zip items) with
      | .error fault => .error fault.2
      | .ok a => if r.fits items then .ok a else .error .malformed
  | _ => .error .malformed

/-- A record whose value has rules of its own, which are looked at when all fields are read. -/
def decodeChecked {α : Type} (r : Record (Decoded α)) (json : Json) : Decoded α :=
  r.decode json >>= id

end Record

end JourneyPlanner

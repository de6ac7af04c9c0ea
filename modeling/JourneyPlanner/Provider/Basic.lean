import JourneyPlanner.Badge.Table
import JourneyPlanner.Capability
import JourneyPlanner.Log
import JourneyPlanner.Query
import JourneyPlanner.Response

set_option autoImplicit false

/-!
The five enquiries that a provider answers for its network. An enquiry that is not well put is an
error; all else that may happen is a response.
-/
namespace JourneyPlanner

inductive Argument where
  | location
  | stationId
  | origin
  | destination
  | via
  deriving DecidableEq, Repr

def Argument.label : Argument → String
  | .location => "location"
  | .stationId => "station_id"
  | .origin => "from"
  | .destination => "to"
  | .via => "via"

/-- What an argument must have. -/
def Argument.demand : Argument → String
  | .location => "needs an id or a point"
  | .stationId => "must not be blank"
  | .origin | .destination | .via => "needs an id, a point or a name"

inductive QueryError where
  | invalidArgument (argument : Argument)
  /-- The continuation leads nowhere in this direction. -/
  | pagingNotAllowed (later : Bool)
  /-- The continuation comes from another network. -/
  | foreignContinuation (expected found : NetworkId)
  | unknownNetwork (network : NetworkId)
  | unsupported (capability : Capability)
  /-- A time needed on the way to the answer lies beyond the calendar. -/
  | timeOutOfRange
  deriving DecidableEq, Repr

def QueryError.message : QueryError → String
  | .invalidArgument argument => "invalid argument " ++ argument.label ++ ": " ++ argument.demand
  | .pagingNotAllowed later =>
      "context does not allow querying " ++ (if later then "later" else "earlier") ++ " trips"
  | .foreignContinuation expected found =>
      "context belongs to network " ++ found.name ++ ", not " ++ expected.name
  | .unknownNetwork network => "no provider for network " ++ network.name
  | .unsupported capability => "provider does not support " ++ capability.label
  | .timeOutOfRange => "time out of range"

/-- An answer or the error in the question, with the events on the way. -/
abbrev Enquiry (α : Type) := ExceptT QueryError Logged α

namespace Enquiry

def report (level : Level) (message : String) (fields : List (String × String)) : Enquiry Unit :=
  ExceptT.lift (Logged.report level message fields)

/-- A failed check is reported before it ends the enquiry. -/
def require (rejection : String) (check : Except QueryError Unit) : Enquiry Unit :=
  match check with
  | .ok () => pure ()
  | .error e => do
      report .warn rejection [("error", e.message)]
      throw e

end Enquiry

/-- Places around one. A distance or count of zero is no limit. -/
structure NearbyQuery where
  location : Location
  kinds : Selection LocationKind
  maxDistance : UInt32
  maxCount : UInt32

structure SuggestQuery where
  text : String
  kinds : Selection LocationKind
  maxCount : UInt32

structure DeparturesQuery where
  station : String
  time : Option Instant
  maxCount : UInt32
  /-- Also show the boards of the stations that belong together with this one. -/
  equivalents : Bool

/-- A network without badges of its own has the standard ones, and one that does not say what it
runs is taken to run all but high-speed trains. -/
structure Provider where
  network : NetworkId
  capabilities : Capabilities
  defaultProducts : Selection Product := Product.allButHighSpeed
  lineBadge : Option String → Option Product → Option String → Badge :=
    fun _ product _ => Badge.standard product
  /-- A ring of points around all that the network serves. -/
  area : Option (List GeoPoint) := none
  nearby : NearbyQuery → Enquiry NearbyResponse
  suggest : SuggestQuery → Enquiry SuggestResponse
  departures : DeparturesQuery → Enquiry DeparturesResponse
  trips : TripQuery → Enquiry TripsResponse
  moreTrips : Continuation → Bool → Enquiry TripsResponse

/-- The first elements, at most so many; zero is no limit. -/
def limited {α : Type} (count : UInt32) (elements : List α) : List α :=
  if count = 0 then elements else elements.take count.toNat

section Cutting

variable {α β : Type}

theorem limited_sublist (count : UInt32) (elements : List α) :
    (limited count elements).Sublist elements := by
  unfold limited
  split
  · exact List.Sublist.refl elements
  · exact List.take_sublist ..

theorem limited_map (count : UInt32) (f : α → β) (elements : List α) :
    limited count (elements.map f) = (limited count elements).map f := by
  unfold limited
  split
  · rfl
  · exact List.map_take.symm

theorem length_limited_le {count : UInt32} (given : count ≠ 0) (elements : List α) :
    (limited count elements).length ≤ count.toNat := by
  rw [limited, if_neg given]
  exact List.length_take_le ..

theorem limited_eq_self {count : UInt32} {elements : List α}
    (short : count ≠ 0 → elements.length ≤ count.toNat) : limited count elements = elements := by
  unfold limited
  split
  · rfl
  · rename_i given
    exact List.take_of_length_le (short given)

/-- What the cut leaves out does not fit below the limit. -/
theorem mem_limited_or_full {count : UInt32} {elements : List α} {a : α} (mem : a ∈ elements) :
    a ∈ limited count elements ∨
      (count ≠ 0 ∧ (limited count elements).length = count.toNat) := by
  by_cases fits : count ≠ 0 → elements.length ≤ count.toNat
  · exact .inl ((limited_eq_self fits).symm ▸ mem)
  · obtain ⟨given, long⟩ := Classical.not_imp.mp fits
    refine .inr ⟨given, ?_⟩
    rw [limited, if_neg given, List.length_take]
    omega

end Cutting

/-- No kinds, or any kind among them, let every place pass. -/
def kindAllowed (kinds : Selection LocationKind) (l : Location) : Bool :=
  kinds.isEmpty || kinds.contains .any || kinds.contains l.kind

end JourneyPlanner

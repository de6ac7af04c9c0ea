import JourneyPlanner.Provider.Basic

set_option autoImplicit false

/-! Providers by the network they answer for. A continuation finds its way back to its provider. -/
namespace JourneyPlanner

/-- Every network stands once. -/
structure Registry where
  entries : List (NetworkId × Provider)

namespace Registry

def empty : Registry := ⟨[]⟩

def get? (r : Registry) (network : NetworkId) : Option Provider :=
  r.entries.lookup network

def networks (r : Registry) : List NetworkId :=
  r.entries.map (·.1)

def size (r : Registry) : Nat :=
  r.entries.length

/-- The provider takes the place of an earlier one for the same network. -/
def insert (r : Registry) (p : Provider) : Registry :=
  ⟨(r.entries.filter fun entry => entry.1 ≠ p.network) ++ [(p.network, p)]⟩

def register (r : Registry) (p : Provider) : Logged (Option Provider × Registry) := do
  Logged.report .debug "registering provider" [("network", p.network.name)]
  return (r.get? p.network, r.insert p)

/-- The page is asked of the provider that the continuation comes from. -/
def moreTrips (r : Registry) (c : Continuation) (later : Bool) : Enquiry TripsResponse :=
  match r.get? c.network with
  | some p => p.moreTrips c later
  | none => throw (.unknownNetwork c.network)

theorem lookup_append_self (network : NetworkId) (p : Provider)
    (entries : List (NetworkId × Provider)) :
    ((entries.filter fun entry => entry.1 ≠ network) ++ [(network, p)]).lookup network =
      some p := by
  induction entries with
  | nil => simp
  | cons entry rest ih =>
    obtain ⟨name, old⟩ := entry
    by_cases same : name = network
    · simpa [same] using ih
    · have different := beq_eq_false_iff_ne.mpr (Ne.symm same)
      simpa [same, List.lookup_cons, different] using ih

theorem lookup_append_of_ne {network other : NetworkId} (different : other ≠ network)
    (p : Provider) (entries : List (NetworkId × Provider)) :
    ((entries.filter fun entry => entry.1 ≠ network) ++ [(network, p)]).lookup other =
      entries.lookup other := by
  induction entries with
  | nil => simp [List.lookup_cons, beq_eq_false_iff_ne.mpr different]
  | cons entry rest ih =>
    obtain ⟨name, old⟩ := entry
    by_cases same : name = network
    · subst same
      simpa [List.lookup_cons, beq_eq_false_iff_ne.mpr different] using ih
    · simp only [List.filter_cons, same, ne_eq, not_false_eq_true, decide_true, if_true,
        List.cons_append, List.lookup_cons]
      rw [← ih]

/-- The provider inserted last answers for its network. -/
theorem get?_insert_self (r : Registry) (p : Provider) :
    (r.insert p).get? p.network = some p :=
  lookup_append_self p.network p r.entries

theorem get?_insert_of_ne (r : Registry) {p : Provider} {network : NetworkId}
    (different : network ≠ p.network) : (r.insert p).get? network = r.get? network :=
  lookup_append_of_ne different p r.entries

def description (r : Registry) : String :=
  "\x7b" ++ ", ".intercalate (r.networks.map NetworkId.description) ++ "\x7d"

end Registry

end JourneyPlanner

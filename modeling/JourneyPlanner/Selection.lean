set_option autoImplicit false

/-!
Kinds with finitely many values in a fixed order, and selections of them. A selection keeps its
members in that order, so two selections with the same members are the same.
-/
namespace JourneyPlanner

/-- A kind whose values are listed once each, in their order. -/
class Listed (α : Type) where
  all : List α
  complete : ∀ a : α, a ∈ all
  distinct : all.Nodup

/-- A set of values of a listed kind. -/
structure Selection (α : Type) [DecidableEq α] [Listed α] where
  members : List α
  ordered : (Listed.all : List α).filter (fun a => decide (a ∈ members)) = members

namespace Selection

variable {α : Type} [DecidableEq α] [Listed α]

theorem ext_members {s t : Selection α} (same : s.members = t.members) : s = t := by
  cases s
  cases t
  cases same
  rfl

instance : DecidableEq (Selection α) := fun s t =>
  if same : s.members = t.members then isTrue (ext_members same)
  else isFalse fun equal => same (by rw [equal])

/-- The values that occur in a list, however often and in whatever order. -/
def ofList (values : List α) : Selection α where
  members := (Listed.all : List α).filter (fun a => decide (a ∈ values))
  ordered := by
    apply List.filter_congr
    intro a listed
    simp [List.mem_filter, listed]

def empty : Selection α :=
  ofList []

instance : Inhabited (Selection α) := ⟨empty⟩

def contains (s : Selection α) (a : α) : Bool :=
  decide (a ∈ s.members)

def isEmpty (s : Selection α) : Bool :=
  s.members.isEmpty

def insert (s : Selection α) (a : α) : Selection α :=
  ofList (a :: s.members)

theorem mem_ofList {values : List α} {a : α} : a ∈ (ofList values).members ↔ a ∈ values := by
  simp [ofList, List.mem_filter, Listed.complete]

/-- A selection is what its members make. -/
theorem ofList_members (s : Selection α) : ofList s.members = s :=
  ext_members s.ordered

end Selection

end JourneyPlanner

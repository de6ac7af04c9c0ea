import JourneyPlanner.Proofs.Sorting
import JourneyPlanner.Proofs.Timetable.Offered

set_option autoImplicit false

/-!
All that is suggested for a text, in its order. The places of a loaded timetable have ids that
differ, so none of those that answer gives way to another, and what the cut leaves is the beginning
of the whole list.
-/
namespace JourneyPlanner

/-- A place and the priority that a text gives it. -/
structure Match where
  place : Place
  priority : Int32

namespace Match

def suggestion (m : Match) : Suggestion := ⟨m.place.location, m.priority⟩

/-- The position of the kind of the place in the order of kinds. -/
def kindPosition (m : Match) : Nat :=
  TimetableService.capabilities.kindOrder.idxOf m.place.location.kind

def nameBytes (m : Match) : Nat :=
  (m.place.location.name.getD "").utf8ByteSize

/-- The better match, else the kind that comes first, else the shorter name, else the place that
comes first in the timetable. -/
def Before (m n : Match) : Prop :=
  n.priority < m.priority ∨ (m.priority = n.priority ∧
    (m.kindPosition < n.kindPosition ∨ (m.kindPosition = n.kindPosition ∧
      (m.nameBytes < n.nameBytes ∨ (m.nameBytes = n.nameBytes ∧
        m.place.number < n.place.number)))))

end Match

namespace Timetable

end Timetable

namespace Match

variable {m n : Match}

theorem compareNames_suggestion (named : m.place.location.name.isSome = true)
    (namedToo : n.place.location.name.isSome = true) :
    Suggestion.compareNames m.suggestion n.suggestion = compare m.nameBytes n.nameBytes := by
  obtain ⟨name, here⟩ := Option.isSome_iff_exists.mp named
  obtain ⟨nameToo, there⟩ := Option.isSome_iff_exists.mp namedToo
  simp only [Suggestion.compareNames, nameBytes, suggestion, here, there, Option.getD_some]

/-- The comparison of what is suggested. -/
def compareRank (m n : Match) : Ordering :=
  Suggestion.compareRank TimetableService.capabilities.kindOrder m.suggestion n.suggestion

instance : Std.TransCmp compareRank :=
  let suggested : Std.TransCmp (Suggestion.compareRank TimetableService.capabilities.kindOrder) :=
    inferInstance
  { eq_swap := suggested.eq_swap, isLE_trans := suggested.isLE_trans }

theorem isLE_compareRank_iff (named : m.place.location.name.isSome = true)
    (namedToo : n.place.location.name.isSome = true) :
    (compareRank m n).isLE = true ↔
        n.priority.toInt < m.priority.toInt ∨ (n.priority.toInt = m.priority.toInt ∧
          (m.kindPosition < n.kindPosition ∨ (m.kindPosition = n.kindPosition ∧
            m.nameBytes ≤ n.nameBytes))) := by
  rw [compareRank, Suggestion.isLE_compareRank, compareNames_suggestion named namedToo,
    Nat.isLE_compare]
  exact Iff.rfl

/-- What the comparison of suggestions leaves open between places with names is which of them comes
first in the timetable. -/
theorem before_of_isLE (named : m.place.location.name.isSome = true)
    (namedToo : n.place.location.name.isSome = true)
    (sorted : (compareRank m n).isLE = true)
    (stable : (compareRank n m).isLE = true → m.place.number < n.place.number) : m.Before n := by
  rw [isLE_compareRank_iff named namedToo] at sorted
  rw [isLE_compareRank_iff namedToo named] at stable
  rw [Before, Int32.lt_iff_toInt_lt, ← Int32.toInt_inj]
  omega

end Match

namespace Timetable

variable {tt : Timetable} {kinds : Selection LocationKind} {needle : String} {m : Match}

end Timetable

end JourneyPlanner

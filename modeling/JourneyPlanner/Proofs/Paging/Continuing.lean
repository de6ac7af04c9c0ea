import Mathlib
import JourneyPlanner.Proofs.Paging.Coverage

set_option autoImplicit false

/-!
Continuations of any origin: made up, damaged, or made for the network when it had other trips. What
is answered depends on the network, the direction and the payload, in this order, and a cursor that
can be read leads to what the timetable has now beside it.
-/
namespace JourneyPlanner

/-- The trips next to the page of the cursor on one side, at most so many. -/
def Cursor.nearest (cursor : Cursor) (later : Bool) (size : Nat) (trips : List Trip) : List Trip :=
  if later then (Trip.beyond cursor.last trips).take size
  else Page.lastOf size (Trip.ahead cursor.first trips)

section Planning

variable {ts : TimetableService} {q : TripQuery} {page : Page} {r : TripsResponse}

/-- A page is always answered, unless the trips cannot be timed. -/
theorem exists_answer_plan (ts : TimetableService) (page : Page)
    (inRange : ∀ search, ts.timetable.searchFor ts.metric q = .ok search →
      search.trips? ts.timetable ≠ none) :
    ∃ r, (ts.plan q page).answer = .ok r := by
  rcases plan_outcomes ts q page with
    ⟨search, resolved, beyond, -⟩ | ⟨reason, told⟩ | ⟨search, trips, cut, -, -, -, shown⟩
  · exact absurd beyond (inRange search resolved)
  · exact ⟨_, told⟩
  · exact ⟨_, shown⟩

end Planning

namespace Timetable

variable {tt : Timetable} {metric : Metric} {settings : Settings} {c : Continuation} {later : Bool}

end Timetable

end JourneyPlanner

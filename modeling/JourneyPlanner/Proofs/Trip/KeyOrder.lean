import JourneyPlanner.Proofs.Sorting
import JourneyPlanner.Proofs.Time.Order
import JourneyPlanner.Timetable.Connection

set_option autoImplicit false

/-!
Trips in the order of their keys. The keys of a list that a search ends in ascend strictly: trips of
one key have one identifier, so that they stand side by side and only the first of them stays.
-/
namespace JourneyPlanner

namespace TripKey

theorem compare_eq (a b : TripKey) :
    compare a b = compareLex (compareOn departure)
      (compareLex (compareOn arrival) (compareOn id)) a b := rfl

instance : Std.TransOrd TripKey :=
  inferInstanceAs (Std.TransCmp (compareLex (compareOn departure)
    (compareLex (compareOn arrival) (compareOn id))))

instance : Std.LawfulEqOrd TripKey where
  eq_of_compare {a b} same := by
    simp only [compare_eq, compareLex_eq_eq, compareOn] at same
    obtain ⟨departure, arrival, id⟩ := same
    cases a
    cases b
    cases Std.LawfulEqOrd.eq_of_compare departure
    cases Std.LawfulEqOrd.eq_of_compare arrival
    cases Std.LawfulEqOrd.eq_of_compare id
    rfl

theorem precedes_iff {a b : TripKey} : a.precedes b = true ↔ compare a b = .lt := by
  rw [precedes, Ordering.isLT_iff_eq_lt]

theorem precedes_irrefl (k : TripKey) : k.precedes k = false := by
  rw [precedes, Std.compare_self]
  rfl

theorem precedes_trans {a b c : TripKey} (first : a.precedes b = true)
    (second : b.precedes c = true) : a.precedes c = true := by
  rw [precedes_iff] at first second ⊢
  exact Std.TransCmp.lt_trans first second

theorem precedes_asymm {a b : TripKey} (first : a.precedes b = true) : b.precedes a = false := by
  cases back : b.precedes a with
  | false => rfl
  | true => rw [← precedes_irrefl a, precedes_trans first back]

theorem precedes_of_isLE {a b : TripKey} (notAfter : (compare a b).isLE = true)
    (different : a ≠ b) : a.precedes b = true := by
  rw [precedes_iff]
  cases order : compare a b with
  | lt => rfl
  | eq => exact absurd (Std.LawfulEqOrd.eq_of_compare order) different
  | gt => simp [order] at notAfter

/-- Later keys do not depart earlier. -/
theorem departure_le_of_precedes {a b : TripKey} (first : a.precedes b = true) :
    a.departure ≤ b.departure := by
  rw [precedes_iff, compare_eq, compareLex, Ordering.then_eq_lt] at first
  rw [← Instant.compare_isLE]
  rcases first with earlier | ⟨same, -⟩
  · exact Ordering.isLE_of_eq_lt earlier
  · exact Ordering.isLE_of_eq_eq same

theorem isLE_of_not_precedes {a b : TripKey} (notEarlier : b.precedes a = false) :
    (compare a b).isLE = true := by
  have swapped : compare a b = (compare b a).swap := Std.OrientedCmp.eq_swap
  rw [precedes] at notEarlier
  rw [swapped]
  cases order : compare b a with
  | lt =>
    rw [order] at notEarlier
    cases notEarlier
  | eq => rfl
  | gt => rfl

/-- Keys that are not earlier do not depart earlier. -/
theorem departure_le_of_not_precedes {a b : TripKey} (notEarlier : b.precedes a = false) :
    a.departure ≤ b.departure := by
  by_cases same : a = b
  · rw [same]
    exact Instant.le_refl _
  · exact departure_le_of_precedes (precedes_of_isLE (isLE_of_not_precedes notEarlier) same)

theorem precedes_of_precedes_of_not {a b c : TripKey} (first : a.precedes b = true)
    (notEarlier : c.precedes b = false) : a.precedes c = true := by
  rw [precedes_iff] at first ⊢
  exact Std.TransCmp.lt_of_lt_of_isLE first (isLE_of_not_precedes notEarlier)

theorem precedes_of_not_of_precedes {a b c : TripKey} (notEarlier : b.precedes a = false)
    (second : b.precedes c = true) : a.precedes c = true := by
  rw [precedes_iff] at second ⊢
  exact Std.TransCmp.lt_of_isLE_of_lt (isLE_of_not_precedes notEarlier) second

end TripKey

namespace Trip

/-- Each trip before the next in the order of keys. -/
def Ascending (trips : List Trip) : Prop :=
  trips.Pairwise fun a b => a.key.precedes b.key = true

theorem dropRepeatsAfter_ascending (last : Trip) (trips : List Trip)
    (sorted : (last :: trips).Pairwise fun a b => (compare a.key b.key).isLE = true) :
    Ascending (last :: dropRepeatsAfter last trips) := by
  induction trips generalizing last with
  | nil => exact List.pairwise_singleton _ _
  | cons t rest ih =>
    obtain ⟨bound, sorted⟩ := List.pairwise_cons.mp sorted
    rw [dropRepeatsAfter]
    split
    · apply ih
      exact List.pairwise_cons.mpr
        ⟨fun u mem => bound u (List.mem_cons_of_mem t mem), (List.pairwise_cons.mp sorted).2⟩
    · rename_i other
      have tail := ih t sorted
      have step : last.key.precedes t.key = true :=
        TripKey.precedes_of_isLE (bound t List.mem_cons_self)
          fun same => other (congrArg TripKey.id same).symm
      refine List.pairwise_cons.mpr ⟨fun u mem => ?_, tail⟩
      rcases List.mem_cons.mp mem with rfl | later
      · exact step
      · exact TripKey.precedes_trans step ((List.pairwise_cons.mp tail).1 u later)

theorem inOrder_ascending (trips : List Trip) : Ascending (inOrder trips) := by
  have sorted : (trips.mergeSort fun a b => (compare a.key b.key).isLE).Pairwise
      fun a b => (compare a.key b.key).isLE = true := mergeSort_inOrder (compareOn key) trips
  unfold inOrder
  cases order : trips.mergeSort fun a b => (compare a.key b.key).isLE with
  | nil => exact List.Pairwise.nil
  | cons t rest =>
    rw [order] at sorted
    exact dropRepeatsAfter_ascending t rest sorted

theorem dropRepeatsAfter_sublist (last : Trip) (trips : List Trip) :
    (dropRepeatsAfter last trips).Sublist trips := by
  induction trips generalizing last with
  | nil => exact List.Sublist.refl []
  | cons t rest ih =>
    rw [dropRepeatsAfter]
    split
    · exact (ih last).cons t
    · exact (ih t).cons_cons t

theorem mem_of_mem_inOrder {trips : List Trip} {t : Trip} (mem : t ∈ inOrder trips) :
    t ∈ trips := by
  have inside : t ∈ trips.mergeSort fun a b => (compare a.key b.key).isLE := by
    unfold inOrder at mem
    cases order : trips.mergeSort fun a b => (compare a.key b.key).isLE with
    | nil =>
      rw [order] at mem
      cases mem
    | cons first rest =>
      rw [order] at mem
      rcases List.mem_cons.mp mem with rfl | later
      · exact List.mem_cons_self
      · exact List.mem_cons_of_mem first ((dropRepeatsAfter_sublist first rest).subset later)
  exact List.mem_mergeSort.mp inside

/-- What is dropped has the identifier of the trip it stood after. -/
theorem exists_dropRepeatsAfter (last : Trip) {trips : List Trip} {t : Trip}
    (mem : t ∈ last :: trips) : ∃ u ∈ last :: dropRepeatsAfter last trips, u.id = t.id := by
  induction trips generalizing last with
  | nil => exact ⟨t, mem, rfl⟩
  | cons next rest ih =>
    rw [dropRepeatsAfter]
    rcases List.mem_cons.mp mem with rfl | later
    · exact ⟨t, List.mem_cons_self, rfl⟩
    · split
      · rename_i same
        rcases List.mem_cons.mp later with rfl | later
        · exact ⟨last, List.mem_cons_self, same.symm⟩
        · exact ih last (List.mem_cons_of_mem last later)
      · obtain ⟨u, kept, same⟩ := ih next later
        exact ⟨u, List.mem_cons_of_mem last kept, same⟩

theorem dropRepeatsAfter_of_distinct (last : Trip) (trips : List Trip)
    (distinct : (last :: trips).Pairwise fun t u => t.id ≠ u.id) :
    dropRepeatsAfter last trips = trips := by
  induction trips generalizing last with
  | nil => rfl
  | cons next rest ih =>
    obtain ⟨other, distinct⟩ := List.pairwise_cons.mp distinct
    have different : ¬ next.id = last.id := fun same => other next List.mem_cons_self same.symm
    rw [dropRepeatsAfter, if_neg different, ih next distinct]

/-- Trips of distinct identifiers are only put in order. -/
theorem inOrder_perm {trips : List Trip} (distinct : trips.Pairwise fun t u => t.id ≠ u.id) :
    (inOrder trips).Perm trips := by
  have sorted : (trips.mergeSort fun a b => (compare a.key b.key).isLE).Perm trips :=
    List.mergeSort_perm trips _
  have still := sorted.symm.pairwise distinct fun other => other.symm
  unfold inOrder
  cases order : trips.mergeSort fun a b => (compare a.key b.key).isLE with
  | nil =>
    rw [order] at sorted
    exact sorted
  | cons first rest =>
    rw [order] at sorted still
    rw [dropRepeats, dropRepeatsAfter_of_distinct first rest still]
    exact sorted

/-- Every identifier stays. -/
theorem exists_mem_inOrder {trips : List Trip} {t : Trip} (mem : t ∈ trips) :
    ∃ u ∈ inOrder trips, u.id = t.id := by
  have inside : t ∈ trips.mergeSort fun a b => (compare a.key b.key).isLE :=
    List.mem_mergeSort.mpr mem
  unfold inOrder
  cases order : trips.mergeSort fun a b => (compare a.key b.key).isLE with
  | nil =>
    rw [order] at inside
    cases inside
  | cons first rest =>
    rw [order] at inside
    exact exists_dropRepeatsAfter first inside

end Trip

namespace Search

theorem trips?_ascending {s : Search} {tt : Timetable} {trips : List Trip}
    (found : s.trips? tt = some trips) : Trip.Ascending trips := by
  unfold trips? at found
  cases explored : s.itineraries? tt with
  | none => simp [explored] at found
  | some itineraries =>
    rw [explored] at found
    cases found
    exact Trip.inOrder_ascending _

end Search

end JourneyPlanner

import JourneyPlanner.Proofs.Representatives
import JourneyPlanner.Proofs.Time.Order
import JourneyPlanner.Timetable.Journey

set_option autoImplicit false

/-!
What is kept of the itineraries found: some of them, and for each of them one that is at least as
good. A kept one covers only those that come after it, so nothing is lost with what it covers.
-/
namespace JourneyPlanner

namespace Itinerary

/-- No earlier departure, no later arrival and no more changes. -/
structure AtLeastAsGood (k it : Itinerary) : Prop where
  departure : it.departure ≤ k.departure
  arrival : k.arrival ≤ it.arrival
  changes : k.changes ≤ it.changes

theorem AtLeastAsGood.refl (it : Itinerary) : it.AtLeastAsGood it :=
  ⟨Instant.le_refl _, Instant.le_refl _, Nat.le_refl _⟩

theorem AtLeastAsGood.trans {a b c : Itinerary} (first : a.AtLeastAsGood b)
    (second : b.AtLeastAsGood c) : a.AtLeastAsGood c where
  departure := Instant.le_trans second.departure first.departure
  arrival := Instant.le_trans first.arrival second.arrival
  changes := Nat.le_trans first.changes second.changes

theorem atLeastAsGood_of_covered {k it : Itinerary}
    (covered : (it.isBeatenBy k || it.ties k) = true) : k.AtLeastAsGood it := by
  rcases Bool.or_eq_true_iff.mp covered with beaten | tied
  · simp only [isBeatenBy, Bool.and_eq_true, decide_eq_true_eq] at beaten
    exact ⟨beaten.1.1.1, beaten.1.1.2, beaten.1.2⟩
  · simp only [ties, Bool.and_eq_true, decide_eq_true_eq] at tied
    obtain ⟨⟨departure, arrival⟩, changes⟩ := tied
    refine ⟨?_, ?_, Nat.le_of_eq changes.symm⟩
    · rw [departure]
      exact Instant.le_refl _
    · rw [arrival]
      exact Instant.le_refl _

theorem mem_of_mem_best {its : List Itinerary} {it : Itinerary} (mem : it ∈ best its) :
    it ∈ its :=
  List.mem_mergeSort.mp ((representatives_sublist _ _).subset mem)

/-- Of those that are kept none ties with one kept before it. -/
theorem best_pairwise (its : List Itinerary) :
    (best its).Pairwise fun k it => it.ties k = false := by
  refine (representatives_pairwise _).imp fun apart => ?_
  exact (Bool.or_eq_false_iff.mp apart).2

instance : Std.TransCmp compareQuality :=
  inferInstanceAs (Std.TransCmp (compareLex (fun a b => compareOn departure b a)
    (compareLex (compareOn arrival) (compareLex (compareOn changes) (compareOn walkMeters)))))

/-- What beats another is sorted before it. -/
theorem isBeatenBy_of_isLE {it k : Itinerary} (sorted : (compareQuality it k).isLE = true) :
    it.isBeatenBy k = false := by
  rw [Bool.eq_false_iff]
  intro beaten
  simp only [isBeatenBy, Bool.and_eq_true, Bool.or_eq_true, decide_eq_true_eq] at beaten
  obtain ⟨⟨⟨departure, arrival⟩, changes⟩, better⟩ := beaten
  simp only [compareQuality, Ordering.isLE_then_iff_or, Instant.compare_lt, Std.compare_eq_iff_eq,
    Std.compare_eq_lt] at sorted
  rcases sorted with sooner | ⟨departures, later | ⟨arrivals, more | ⟨same, -⟩⟩⟩
  · exact Instant.not_le.mpr sooner departure
  · exact Instant.not_le.mpr later arrival
  · omega
  · rw [departures, arrivals, same] at better
    simp only [Instant.lt_irrefl, Nat.lt_irrefl, or_self] at better

/-- None of those that are kept beats another: the sort rules out one order, and the way through the
sorted list the other. -/
theorem best_unbeaten {its : List Itinerary} {it k : Itinerary} (mem : it ∈ best its)
    (memToo : k ∈ best its) : it.isBeatenBy k = false := by
  have sorted : (best its).Pairwise fun a b => (compareQuality a b).isLE = true :=
    (mergeSort_inOrder compareQuality its).sublist (representatives_sublist _ _)
  have uncovered : (best its).Pairwise fun a b => (b.isBeatenBy a || b.ties a) = false :=
    representatives_pairwise _
  obtain ⟨i, inside, rfl⟩ := List.mem_iff_getElem.mp mem
  obtain ⟨j, insideToo, rfl⟩ := List.mem_iff_getElem.mp memToo
  rcases Nat.lt_trichotomy i j with before | same | after
  · exact isBeatenBy_of_isLE (List.pairwise_iff_getElem.mp sorted i j inside insideToo before)
  · subst same
    have itself : compareQuality (best its)[i] (best its)[i] = .eq := Std.ReflCmp.compare_self
    exact isBeatenBy_of_isLE (Ordering.isLE_of_eq_eq itself)
  · have apart := List.pairwise_iff_getElem.mp uncovered j i insideToo inside after
    exact (Bool.or_eq_false_iff.mp apart).1

theorem exists_best {its : List Itinerary} {it : Itinerary} (mem : it ∈ its) :
    ∃ k ∈ best its, k.AtLeastAsGood it := by
  have found : ∃ k ∈ best its, k = it ∨ (it.isBeatenBy k || it.ties k) = true :=
    exists_representative (List.mem_mergeSort.mpr mem)
  obtain ⟨k, kept, rfl | covered⟩ := found
  · exact ⟨k, kept, .refl k⟩
  · exact ⟨k, kept, atLeastAsGood_of_covered covered⟩

end Itinerary

end JourneyPlanner

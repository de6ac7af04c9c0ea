import Mathlib
import JourneyPlanner.Proofs.Search.Dominance
import JourneyPlanner.Proofs.Timetable.Loaded

set_option autoImplicit false

/-!
The itineraries that are kept are the Pareto front of those that were found: no itinerary found is
better than one of them, and each one found is matched by one of them. The front is told without the
order in which the itineraries were found, so that order has no part in what is kept.
-/
namespace JourneyPlanner

namespace Itinerary

variable {its kept : List Itinerary} {a b c k it : Itinerary}

/-- At least as good on departure, arrival and changes, and better on one of them. -/
structure Dominates (k it : Itinerary) : Prop extends AtLeastAsGood k it where
  better : it.departure < k.departure ∨ k.arrival < it.arrival ∨ k.changes < it.changes

structure Agrees (a b : Itinerary) : Prop where
  departure : a.departure = b.departure
  arrival : a.arrival = b.arrival
  changes : a.changes = b.changes

/-- What one itinerary has over another: its times, its changes and the metres on foot. -/
structure Quality where
  departure : Instant
  arrival : Instant
  changes : Nat
  walkMeters : Nat

def quality (it : Itinerary) : Quality :=
  ⟨it.departure, it.arrival, it.changes, it.walkMeters⟩

/-- What is kept of the itineraries found is their front. -/
structure IsFront (its kept : List Itinerary) : Prop where
  drawn : kept.Subperm its
  undominated : ∀ k ∈ kept, ∀ it ∈ its, ¬ it.Dominates k
  distinct : kept.Pairwise fun a b => ¬ a.Agrees b
  matched : ∀ it ∈ its, ∃ k ∈ kept, k.Dominates it ∨ k.Agrees it
  /-- Of those that agree the one with the least to walk. -/
  shortest : ∀ k ∈ kept, ∀ it ∈ its, it.Agrees k → k.walkMeters ≤ it.walkMeters

/-- Of the itineraries found one has this quality, none is better, and none that agrees with it has
less to walk. -/
def Attains (its : List Itinerary) (q : Quality) : Prop :=
  ∃ it ∈ its, it.quality = q ∧ (∀ other ∈ its, ¬ other.Dominates it) ∧
    ∀ other ∈ its, other.Agrees it → it.walkMeters ≤ other.walkMeters

theorem Agrees.symm (agree : a.Agrees b) : b.Agrees a :=
  ⟨agree.departure.symm, agree.arrival.symm, agree.changes.symm⟩

theorem Agrees.trans (first : a.Agrees b) (second : b.Agrees c) : a.Agrees c :=
  ⟨first.departure.trans second.departure, first.arrival.trans second.arrival,
    first.changes.trans second.changes⟩

theorem isBeatenBy_iff : it.isBeatenBy k = true ↔ k.Dominates it := by
  simp only [isBeatenBy, Bool.and_eq_true, Bool.or_eq_true, decide_eq_true_eq]
  constructor
  · intro beaten
    exact ⟨⟨beaten.1.1.1, beaten.1.1.2, beaten.1.2⟩, or_assoc.mp beaten.2⟩
  · intro dominates
    exact ⟨⟨⟨dominates.departure, dominates.arrival⟩, dominates.changes⟩,
      or_assoc.mpr dominates.better⟩

theorem ties_iff : it.ties k = true ↔ it.Agrees k := by
  simp only [ties, Bool.and_eq_true, decide_eq_true_eq]
  constructor
  · intro tied
    exact ⟨tied.1.1, tied.1.2, tied.2⟩
  · intro agree
    exact ⟨⟨agree.departure, agree.arrival⟩, agree.changes⟩

theorem AtLeastAsGood.dominates_or_agrees (good : k.AtLeastAsGood it) :
    k.Dominates it ∨ k.Agrees it := by
  by_cases departure : k.departure ≤ it.departure
  · by_cases arrival : it.arrival ≤ k.arrival
    · by_cases changes : it.changes ≤ k.changes
      · apply Or.inr
        exact ⟨Instant.le_antisymm departure good.departure,
          Instant.le_antisymm good.arrival arrival, Nat.le_antisymm good.changes changes⟩
      · exact .inl ⟨good, .inr (.inr (Nat.not_le.mp changes))⟩
    · exact .inl ⟨good, .inr (.inl (Instant.not_le.mp arrival))⟩
  · exact .inl ⟨good, .inl (Instant.not_le.mp departure)⟩

/-- What is as good as an itinerary is better than all that this one is better than. -/
theorem AtLeastAsGood.trans_dominates (good : a.AtLeastAsGood b) (better : b.Dominates c) :
    a.Dominates c := by
  refine ⟨good.trans better.toAtLeastAsGood, ?_⟩
  rcases better.better with later | sooner | fewer
  · apply Or.inl
    exact Instant.not_le.mp fun early => Instant.not_le.mpr later
      (Instant.le_trans good.departure early)
  · exact .inr (.inl (Instant.lt_of_le_of_lt good.arrival sooner))
  · exact .inr (.inr (Nat.lt_of_le_of_lt good.changes fewer))

/-- One that dominates an itinerary dominates those that agree with it. -/
theorem Dominates.of_agrees (better : a.Dominates b) (agree : b.Agrees c) : a.Dominates c := by
  obtain ⟨departure, arrival, changes⟩ := agree
  refine ⟨⟨?_, ?_, ?_⟩, ?_⟩
  · rw [← departure]
    exact better.departure
  · rw [← arrival]
    exact better.arrival
  · rw [← changes]
    exact better.changes
  · rw [← departure, ← arrival, ← changes]
    exact better.better

/-- A front has just the qualities that the itineraries attain. -/
theorem IsFront.mem_quality_iff (front : IsFront its kept) (q : Quality) :
    q ∈ kept.map quality ↔ Attains its q := by
  rw [List.mem_map]
  constructor
  · rintro ⟨k, mem, rfl⟩
    exact ⟨k, front.drawn.subset mem, rfl, front.undominated k mem, front.shortest k mem⟩
  · rintro ⟨it, found, rfl, undominated, shortest⟩
    obtain ⟨k, mem, dominates | agree⟩ := front.matched it found
    · exact absurd dominates (undominated k (front.drawn.subset mem))
    · have walk := Nat.le_antisymm (front.shortest k mem it found agree.symm)
        (shortest k (front.drawn.subset mem) agree)
      refine ⟨k, mem, ?_⟩
      rw [quality, quality, agree.departure, agree.arrival, agree.changes, walk]

/-! The front is what is kept -/

theorem subperm_best (its : List Itinerary) : (best its).Subperm its :=
  (representatives_sublist _ _).subperm.trans (List.mergeSort_perm its _).subperm

/-- No itinerary found dominates one that is kept, since then a kept one would. -/
theorem best_undominated (kept : k ∈ best its) (found : it ∈ its) : ¬ it.Dominates k := by
  intro dominates
  obtain ⟨better, keptToo, good⟩ := exists_best found
  have beaten := isBeatenBy_iff.mpr (good.trans_dominates dominates)
  rw [best_unbeaten kept keptToo] at beaten
  cases beaten

theorem best_distinct (its : List Itinerary) : (best its).Pairwise fun a b => ¬ a.Agrees b := by
  apply (best_pairwise its).imp
  intro a b untied agree
  rw [ties_iff.mpr agree.symm] at untied
  cases untied

/-- Of those that are kept no two agree. -/
theorem eq_of_agrees (kept : a ∈ best its) (keptToo : b ∈ best its) (agree : a.Agrees b) :
    a = b := by
  have symmetric : Std.Symm fun a b : Itinerary => ¬ a.Agrees b :=
    ⟨fun a b apart agree => apart agree.symm⟩
  by_contra different
  exact (best_distinct its).forall kept keptToo different agree

/-- What agrees with a kept itinerary is covered by no other one, and comes after it in the sort. -/
theorem best_shortest (kept : k ∈ best its) (found : it ∈ its) (agree : it.Agrees k) :
    k.walkMeters ≤ it.walkMeters := by
  have sorted := mergeSort_inOrder compareQuality its
  have covering : ∃ leader ∈ best its, leader = it ∨
      ((it.isBeatenBy leader || it.ties leader) = true ∧
        (compareQuality leader it).isLE = true) :=
    exists_representative_before sorted (List.mem_mergeSort.mpr found)
  obtain ⟨leader, keptToo, rfl | ⟨covered, before⟩⟩ := covering
  · exact Nat.le_of_eq (congrArg walkMeters (eq_of_agrees kept keptToo agree.symm))
  · have leads : leader.Agrees k := by
      apply (atLeastAsGood_of_covered covered).dominates_or_agrees.elim
      · intro dominates
        exact absurd (dominates.of_agrees agree)
          (best_undominated kept (mem_of_mem_best keptToo))
      · intro agreeToo
        exact agreeToo.trans agree
    rw [eq_of_agrees keptToo kept leads, compareQuality, ← agree.departure, ← agree.arrival,
      ← agree.changes] at before
    simpa only [Std.ReflCmp.compare_self, Ordering.eq_then, Std.isLE_compare] using before

/-- The itineraries kept are the front of those found, and their qualities are the same in whatever
order, and however often, the itineraries were found. -/
theorem best_isFront (its : List Itinerary) :
    IsFront its (best its) ∧
      ∀ others : List Itinerary, (∀ it, it ∈ others ↔ it ∈ its) →
        ∀ q, q ∈ (best others).map quality ↔ q ∈ (best its).map quality := by
  have front (its : List Itinerary) : IsFront its (best its) := {
    drawn := subperm_best its
    undominated := fun k kept it found => best_undominated kept found
    distinct := best_distinct its
    matched := fun it found => by
      obtain ⟨k, kept, good⟩ := exists_best found
      exact ⟨k, kept, good.dominates_or_agrees⟩
    shortest := fun k kept it found agree => best_shortest kept found agree }
  refine ⟨front its, fun others same q => ?_⟩
  rw [(front others).mem_quality_iff, (front its).mem_quality_iff]
  simp only [Attains, same]

end Itinerary

/-! Three buses to which there are two ways of as many minutes, one of them longer. The first bus
leaves before the second and is late. -/
namespace TwoWays

def file : TimetableFile :=
  Sample.file (Sample.morning 0) (Sample.morning 600)
    [Sample.station "A" 52000000, Sample.station "D" 52100000]
    [Sample.bus "1" [Sample.call "A" (Sample.morning 10), Sample.call "D" (Sample.morning 70)],
      Sample.bus "2" [Sample.call "A" (Sample.morning 20), Sample.call "D" (Sample.morning 60)],
      Sample.bus "3" [Sample.call "A" (Sample.morning 30), Sample.call "D" (Sample.morning 80)]]

def search (origin station : Place) : Search where
  origin := { location := origin.location
              accesses := [.walking origin 310, .walking origin 300] }
  via := none
  destination := { location := station.location, accesses := [.atStation station] }
  preferences := .none

theorem best_isFront_twoWays :
    ∃ (tt : Timetable) (s : Search) (its : List Itinerary),
      (Timetable.ofFile file).value = .ok tt ∧ s.itineraries? tt = some its ∧ its.length = 6 ∧
      (Itinerary.best its).length = 2 ∧ (∀ k ∈ Itinerary.best its, k.walkMeters = 300) ∧
      Itinerary.IsFront its (Itinerary.best its) ∧ (∀ it, it ∈ its.reverse ↔ it ∈ its) ∧
      ∀ q, q ∈ (Itinerary.best its.reverse).map Itinerary.quality ↔
        q ∈ (Itinerary.best its).map Itinerary.quality := by
  have checked : ((Timetable.ofFile file).value.toOption.any fun tt =>
      tt.places.any fun origin => tt.places.any fun station =>
        ((search origin station).itineraries? tt).any fun its =>
          decide (its.length = 6) && decide ((Itinerary.best its).length = 2) &&
            (Itinerary.best its).all fun k => k.walkMeters = 300) = true := by
    cbv
  obtain ⟨tt, loaded, checked⟩ := exists_ok_of_any checked
  obtain ⟨origin, -, checked⟩ := List.any_eq_true.mp checked
  obtain ⟨station, -, checked⟩ := List.any_eq_true.mp checked
  obtain ⟨its, found, checked⟩ := (Option.any_eq_true _ _).mp checked
  simp only [Bool.and_eq_true, decide_eq_true_eq, List.all_eq_true] at checked
  obtain ⟨⟨six, two⟩, short⟩ := checked
  have same : ∀ it, it ∈ its.reverse ↔ it ∈ its := fun it => List.mem_reverse
  exact ⟨tt, search origin station, its, loaded, found, six, two, short,
    (Itinerary.best_isFront its).1, same, (Itinerary.best_isFront its).2 its.reverse same⟩

end TwoWays

end JourneyPlanner

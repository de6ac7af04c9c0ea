import JourneyPlanner.Proofs.Location.Identity
import JourneyPlanner.Proofs.Location.Ranking

set_option autoImplicit false

/-!
Lists of places without doubles. To be the same place is no transitive relation, so it is not all
one which places are kept: the first of each stays, and of suggestions the best.
-/
namespace JourneyPlanner

/-! Locations -/

/-- The first location stays, and each later one unless it is the same place as one that stayed. The
locations kept come with their positions, which tell two equal ones apart. -/
structure KeepsFirsts (metric : Metric) (locations kept : List Location) : Prop where
  inside : kept.Sublist locations
  first : kept.head? = locations.head?
  apart : kept.Pairwise fun a b => a.isSamePlace metric b = false
  covered : ∃ placed : List (Location × Nat), placed.Sublist locations.zipIdx ∧
    placed.map Prod.fst = kept ∧ ∀ l ∈ locations.zipIdx, l ∉ placed →
      ∃ k ∈ placed, k.2 < l.2 ∧ k.1.isSamePlace metric l.1 = true

theorem keepsFirsts_dedupLocations (metric : Metric) (locations : List Location) :
    KeepsFirsts metric locations (dedupLocations metric locations) where
  inside := representatives_sublist ..
  first := head?_representatives locations
  apart := representatives_pairwise locations
  covered := exists_positions locations

/-- The first location of each place is kept whatever the distances are. Once the doubles are gone
nothing goes any more, and they may go before or after kinds that are not wanted. -/
theorem dedupLocations_lawful (metric : Metric) (locations : List Location) :
    KeepsFirsts metric locations (dedupLocations metric locations) ∧
      dedupLocations metric (dedupLocations metric locations) = dedupLocations metric locations ∧
      ∀ kinds : Selection LocationKind,
        dedupLocations metric (locations.filter fun l => kinds.contains l.kind) =
          (dedupLocations metric locations).filter fun l => kinds.contains l.kind :=
  ⟨keepsFirsts_dedupLocations metric locations, representatives_self locations,
    fun kinds => dedupLocations_filter_kind metric kinds.contains locations⟩

/-! Suggestions -/

namespace Suggestion

variable {metric : Metric} {order : List LocationKind} {suggestions : List Suggestion}
  {a b c : Suggestion}

/-- The name is at most as long in bytes; without a name it is longest. -/
def NameNoLonger (a b : Suggestion) : Prop :=
  ∀ name, b.location.name = some name →
    ∃ short, a.location.name = some short ∧ short.utf8ByteSize ≤ name.utf8ByteSize

/-- The higher priority ranks first, then the kind that comes first in the order, where those that
do not stand in it come last, and then the shorter name. -/
def NoWorse (order : List LocationKind) (a b : Suggestion) : Prop :=
  b.priority < a.priority ∨ (a.priority = b.priority ∧
    (order.idxOf a.location.kind < order.idxOf b.location.kind ∨
      (order.idxOf a.location.kind = order.idxOf b.location.kind ∧ a.NameNoLonger b)))

theorem isLE_compareNames_iff : (compareNames a b).isLE = true ↔ a.NameNoLonger b := by
  unfold compareNames NameNoLonger
  cases a.location.name <;> cases b.location.name <;> simp [Nat.isLE_compare]

theorem isLE_compareRank_iff : (compareRank order a b).isLE = true ↔ a.NoWorse order b := by
  rw [isLE_compareRank, isLE_compareNames_iff, eq_comm, Int32.toInt_inj, ← Int32.lt_iff_toInt_lt]
  exact Iff.rfl

/-- Suggestions are compared by a relation that is total and transitive. -/
structure ComparesBy (compare : Suggestion → Suggestion → Ordering)
    (noWorse : Suggestion → Suggestion → Prop) : Prop where
  isLE_iff : ∀ a b, (compare a b).isLE = true ↔ noWorse a b
  swap : ∀ a b, compare b a = (compare a b).swap
  total : ∀ a b, noWorse a b ∨ noWorse b a
  trans : ∀ a b c, noWorse a b → noWorse b c → noWorse a c

theorem comparesBy_compareRank (order : List LocationKind) :
    ComparesBy (compareRank order) (NoWorse order) where
  isLE_iff a b := isLE_compareRank_iff
  swap a b := Std.OrientedCmp.eq_swap
  total a b := by
    have total := isLE_total (compareRank order) a b
    rwa [Bool.or_eq_true, isLE_compareRank_iff, isLE_compareRank_iff] at total
  trans a b c first second := by
    rw [← isLE_compareRank_iff] at first second ⊢
    exact Std.TransCmp.isLE_trans first second

/-- What is kept stands in the order of the sorted suggestions, no two are the same place, and each
suggestion gives way to none but a better or equal one for its place. -/
structure KeepsBest (metric : Metric) (order : List LocationKind)
    (suggestions kept : List Suggestion) : Prop where
  inside : ∃ sorted, SortsStably (NoWorse order) suggestions sorted ∧ kept.Sublist sorted
  apart : kept.Pairwise fun a b => a.location.isSamePlace metric b.location = false
  covered : ∀ s ∈ suggestions, ∃ k ∈ kept,
    k.location.isSamePlace metric s.location = true ∧ k.NoWorse order s

theorem sortsStably_compareRank (order : List LocationKind) (suggestions : List Suggestion) :
    SortsStably (NoWorse order) suggestions
      (suggestions.mergeSort fun a b => (compareRank order a b).isLE) := by
  have relation : (fun a b => (compareRank order a b).isLE = true) = NoWorse order :=
    funext fun a => funext fun b => propext isLE_compareRank_iff
  rw [← relation]
  exact sortsStably_mergeSort (fun _ _ _ => Std.TransCmp.isLE_trans)
    (isLE_total (compareRank order)) suggestions

theorem keepsBest_ranked (grounded : ∀ p, metric p p = 0) (order : List LocationKind)
    (suggestions : List Suggestion) :
    KeepsBest metric order suggestions (ranked metric order suggestions) where
  inside := ⟨_, sortsStably_compareRank order suggestions,
    ranked_sublist metric order suggestions⟩
  apart := ranked_apart metric order suggestions
  covered s mem := by
    obtain ⟨k, kept, rfl | ⟨same, noWorse⟩⟩ := exists_ranked mem
    · have self : (compareRank order k k).isLE = true := Std.ReflCmp.isLE_rfl
      exact ⟨k, kept, Location.isSamePlace_refl grounded k.location, isLE_compareRank_iff.mp self⟩
    · exact ⟨k, kept, same, isLE_compareRank_iff.mp noWorse⟩

/-- Ranking keeps the best suggestion for each place, and ranking again keeps all. -/
theorem ranked_lawful (grounded : ∀ p, metric p p = 0) (order : List LocationKind)
    (suggestions : List Suggestion) :
    ComparesBy (compareRank order) (NoWorse order) ∧
      KeepsBest metric order suggestions (ranked metric order suggestions) ∧
      ranked metric order (ranked metric order suggestions) = ranked metric order suggestions :=
  ⟨comparesBy_compareRank order, keepsBest_ranked grounded order suggestions,
    ranked_of_sublist (List.Sublist.refl _)⟩

end Suggestion

/-! Three doors in a row, of which the second is within a metre of both others. -/
namespace DoorToDoor

def door (name : String) (point : GeoPoint) : Location where
  kind := .address
  id := none
  point := some point
  place := none
  name := some name
  sound := by simp [LocationDetails.violation]
  products := none

def first : Location := door "Hauptstr. 1" ⟨48137154, 11576124, by decide, by decide⟩

def second : Location := door "Hauptstr. 2" ⟨48137154, 11576125, by decide, by decide⟩

def third : Location := door "Hauptstr. 3" ⟨48137154, 11576126, by decide, by decide⟩

def suggestions : List Suggestion :=
  [⟨first, 30⟩, ⟨second, 20⟩, ⟨third, 10⟩]

open Suggestion in
/-- Only the second goes: it gives way to the first, and the third to nothing that is kept. -/
theorem ranked_lawful_doorToDoor :
    (∀ p, Sample.metric p p = 0) ∧ (∀ p, geodesic p p = 0) ∧
      first.isSamePlace Sample.metric second = true ∧
      second.isSamePlace Sample.metric third = true ∧
      (ranked Sample.metric defaultKindOrder suggestions).map (·.priority) = [30, 10] ∧
      KeepsBest Sample.metric defaultKindOrder suggestions
        (ranked Sample.metric defaultKindOrder suggestions) ∧
      KeepsBest geodesic defaultKindOrder suggestions
        (ranked geodesic defaultKindOrder suggestions) := by
  have kept : (ranked Sample.metric defaultKindOrder suggestions).map (·.priority) = [30, 10] := by
    rw [ranked, List.mergeSort_of_pairwise (by decide)]
    decide
  exact ⟨Sample.metric_self, geodesic_self, by decide, by decide, kept,
    (ranked_lawful Sample.metric_self defaultKindOrder suggestions).2.1,
    (ranked_lawful geodesic_self defaultKindOrder suggestions).2.1⟩

end DoorToDoor

end JourneyPlanner

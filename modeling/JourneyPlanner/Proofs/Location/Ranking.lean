import JourneyPlanner.Proofs.Representatives
import JourneyPlanner.Provider.Basic

set_option autoImplicit false

/-!
What dedup, ranking and the filter by kind leave of a list of places. Only places of one kind are
taken for the same, so it is all one whether the filter comes before the dedup or after it.
-/
namespace JourneyPlanner

namespace Location

variable {metric : Metric} {a b : Location}

theorem kind_eq_of_isSamePlace (same : a.isSamePlace metric b = true) : a.kind = b.kind := by
  unfold isSamePlace at same
  by_cases kinds : a.kind ≠ b.kind
  · rw [if_pos kinds] at same
    cases same
  · exact Decidable.not_not.mp kinds

theorem kindAllowed_eq_of_isSamePlace {kinds : Selection LocationKind}
    (same : a.isSamePlace metric b = true) : kindAllowed kinds a = kindAllowed kinds b := by
  rw [kindAllowed, kindAllowed, kind_eq_of_isSamePlace same]

/-- Two ids tell two places apart, however close together they are. -/
theorem isSamePlace_of_ids {i j : String} (first : a.id = some i) (second : b.id = some j)
    (apart : i ≠ j) : a.isSamePlace metric b = false := by
  unfold isSamePlace
  split
  · rfl
  · simp only [first, second]
    exact decide_eq_false apart

end Location

/-- Places of different kinds do not stand in each other's way, so it is all one whether kinds that
are not wanted go before the doubles or after them. -/
theorem dedupLocations_filter_kind (metric : Metric) (chosen : LocationKind → Bool)
    (locations : List Location) :
    dedupLocations metric (locations.filter fun l => chosen l.kind) =
      (dedupLocations metric locations).filter fun l => chosen l.kind := by
  rw [dedupLocations, dedupLocations, representatives_eq_leading, representatives_eq_leading]
  refine (filter_leading (fun a b same => ?_) locations).symm
  rw [Location.kind_eq_of_isSamePlace same]

theorem filter_dedupLocations (metric : Metric) (kinds : Selection LocationKind)
    (locations : List Location) :
    (dedupLocations metric locations).filter (kindAllowed kinds) =
      leading (Location.isSamePlace metric) (locations.filter (kindAllowed kinds)) := by
  rw [← representatives_eq_leading]
  exact (dedupLocations_filter_kind metric
    (fun kind => kinds.isEmpty || kinds.contains .any || kinds.contains kind) locations).symm

theorem dedupLocations_of_pairwise {metric : Metric} {locations : List Location}
    (apart : locations.Pairwise fun a b => a.isSamePlace metric b = false) :
    dedupLocations metric locations = locations :=
  representatives_of_pairwise apart

namespace Suggestion

variable {metric : Metric} {order : List LocationKind} {suggestions : List Suggestion}

/-- Whether there is no name, and how long it is. -/
def lengthKey (s : Suggestion) : Nat × Nat :=
  match s.location.name with
  | some name => (0, name.utf8ByteSize)
  | none => (1, 0)

theorem compareNames_eq (a b : Suggestion) :
    compareNames a b =
      (compare a.lengthKey.1 b.lengthKey.1).then (compare a.lengthKey.2 b.lengthKey.2) := by
  unfold compareNames lengthKey
  cases a.location.name <;> cases b.location.name <;> rfl

instance : Std.TransCmp compareNames := by
  have keys : compareNames =
      compareLex (compareOn fun s => s.lengthKey.1) (compareOn fun s => s.lengthKey.2) :=
    funext fun a => funext fun b => compareNames_eq a b
  rw [keys]
  infer_instance

instance (order : List LocationKind) : Std.TransCmp (compareRank order) :=
  inferInstanceAs (Std.TransCmp (compareLex (fun a b => compareOn (·.priority.toInt) b a)
    (compareLex (compareOn (kindRank order)) compareNames)))

/-- The priorities decide, then the kinds and then the names. -/
theorem isLE_compareRank {a b : Suggestion} :
    (compareRank order a b).isLE = true ↔
      b.priority.toInt < a.priority.toInt ∨ (b.priority.toInt = a.priority.toInt ∧
        (a.kindRank order < b.kindRank order ∨ (a.kindRank order = b.kindRank order ∧
          (compareNames a b).isLE = true))) := by
  rw [compareRank]
  simp only [Ordering.isLE_then_iff_or, Std.compare_eq_lt, Std.LawfulEqOrd.compare_eq_iff_eq]

theorem ranked_sublist (metric : Metric) (order : List LocationKind)
    (suggestions : List Suggestion) :
    (ranked metric order suggestions).Sublist
      (suggestions.mergeSort fun a b => (compareRank order a b).isLE) :=
  representatives_sublist ..

theorem mem_of_mem_ranked {s : Suggestion} (mem : s ∈ ranked metric order suggestions) :
    s ∈ suggestions :=
  List.mem_mergeSort.mp ((ranked_sublist metric order suggestions).subset mem)

theorem ranked_inOrder (metric : Metric) (order : List LocationKind)
    (suggestions : List Suggestion) :
    (ranked metric order suggestions).Pairwise fun a b => (compareRank order a b).isLE = true :=
  (mergeSort_inOrder (compareRank order) suggestions).sublist
    (ranked_sublist metric order suggestions)

theorem ranked_apart (metric : Metric) (order : List LocationKind)
    (suggestions : List Suggestion) :
    (ranked metric order suggestions).Pairwise fun a b =>
      a.location.isSamePlace metric b.location = false :=
  representatives_pairwise _

/-- Each suggestion is kept or gives way to one for the same place that is no worse. -/
theorem exists_ranked {s : Suggestion} (mem : s ∈ suggestions) :
    ∃ k ∈ ranked metric order suggestions, k = s ∨
      (k.location.isSamePlace metric s.location = true ∧ (compareRank order k s).isLE = true) :=
  exists_representative_before (mergeSort_inOrder (compareRank order) suggestions)
    (List.mem_mergeSort.mpr mem)

/-- What was ranked stays as it is, also where some of it was left out since. -/
theorem ranked_of_sublist {left : List Suggestion}
    (inside : left.Sublist (ranked metric order suggestions)) :
    ranked metric order left = left := by
  have inOrder := (ranked_inOrder metric order suggestions).sublist inside
  have apart := (ranked_apart metric order suggestions).sublist inside
  rw [ranked, List.mergeSort_of_pairwise inOrder]
  exact representatives_of_pairwise apart

end Suggestion

end JourneyPlanner

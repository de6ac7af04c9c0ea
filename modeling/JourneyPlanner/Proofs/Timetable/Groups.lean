import JourneyPlanner.Proofs.Timetable.Consistent

set_option autoImplicit false

/-!
Stations of one group. The timetable lists them from each of them, that one first and the others in
the order of their ids, so that all of them list the same stations.
-/
namespace JourneyPlanner

namespace Timetable

variable {tt : Timetable} {p s : Place}

/-- A station and after it the others of its group, in the order of their ids. -/
structure ListsGroup (tt : Timetable) (p : Place) (stations : List Place) : Prop where
  first : ∃ others, stations = p :: others ∧ others.Pairwise fun s t => s.id < t.id
  distinct : stations.Nodup
  members : ∀ s, s ∈ stations ↔ s ∈ tt.places ∧ s.isStation = true ∧
    (s = p ∨ (p.group.isSome = true ∧ s.group = p.group))

/-- The other stations of a group, as they stand in the timetable. -/
theorem mem_others_iff (sound : tt.Sound) (known : p ∈ tt.places) {group : String} :
    s ∈ tt.places.filter (fun q => !q.is p && q.isStation && q.group = some group) ↔
      s ∈ tt.places ∧ s.isStation = true ∧ s ≠ p ∧ s.group = some group := by
  rw [List.mem_filter, Bool.and_eq_true, Bool.and_eq_true, Bool.not_eq_true', decide_eq_true_iff]
  apply and_congr_right
  intro knownToo
  rw [← Bool.not_eq_true, is_iff sound knownToo known]
  constructor
  · rintro ⟨⟨other, station⟩, together⟩
    exact ⟨station, other, together⟩
  · rintro ⟨station, other, together⟩
    exact ⟨⟨other, station⟩, together⟩

theorem pairwise_sorted_ids {places : List Place} (distinct : (places.map Place.id).Nodup) :
    (places.mergeSort fun s t => s.id ≤ t.id).Pairwise fun s t => s.id < t.id := by
  have sorted : (places.mergeSort fun s t => s.id ≤ t.id).Pairwise
      fun s t => decide (s.id ≤ t.id) = true := by
    apply List.pairwise_mergeSort
    · intro s t u first second
      exact decide_eq_true (String.le_trans (of_decide_eq_true first) (of_decide_eq_true second))
    · intro s t
      rcases String.le_total s.id t.id with forth | back
      · simp [forth]
      · simp [back]
  have ids := ((List.mergeSort_perm places fun s t => s.id ≤ t.id).map Place.id).nodup_iff.mpr
    distinct
  refine sorted.imp₂ (fun s t ordered different => ?_) (List.pairwise_map.mp ids)
  rw [decide_eq_true_iff] at ordered
  apply String.not_le.mp
  intro back
  exact different (String.le_antisymm ordered back)

theorem listsGroup (sound : tt.Sound) (named : NamedPlaces tt.places) (known : p ∈ tt.places)
    (station : p.isStation = true) : tt.ListsGroup p (tt.equivalents p) := by
  unfold equivalents
  cases together : p.group with
  | none =>
    refine ⟨⟨[], rfl, .nil⟩, List.nodup_singleton p, fun s => ?_⟩
    simp only [List.mem_singleton, together, Option.isSome_none, Bool.false_eq_true, false_and,
      or_false]
    constructor
    · rintro rfl
      exact ⟨known, station, rfl⟩
    · rintro ⟨-, -, same⟩
      exact same
  | some group =>
    simp only
    have others := List.mergeSort_perm
      (tt.places.filter fun q => !q.is p && q.isStation && q.group = some group)
      fun s t => s.id ≤ t.id
    have ascending := pairwise_sorted_ids ((List.filter_sublist.map Place.id).nodup
      named.distinct : ((tt.places.filter fun q =>
        !q.is p && q.isStation && q.group = some group).map Place.id).Nodup)
    refine ⟨⟨_, rfl, ascending⟩, List.nodup_cons.mpr ⟨?_, ?_⟩, fun s => ?_⟩
    · rw [others.mem_iff, mem_others_iff sound known]
      rintro ⟨-, -, other, -⟩
      exact other rfl
    · apply ascending.imp
      intro s t before same
      rw [same] at before
      exact String.lt_irrefl _ before
    · rw [List.mem_cons, others.mem_iff, mem_others_iff sound known, together]
      constructor
      · rintro (rfl | ⟨knownToo, stationToo, -, alike⟩)
        · exact ⟨known, station, .inl rfl⟩
        · exact ⟨knownToo, stationToo, .inr ⟨rfl, alike⟩⟩
      · rintro ⟨knownToo, stationToo, same⟩
        by_cases here : s = p
        · exact .inl here
        · exact .inr ⟨knownToo, stationToo, here, (same.resolve_left here).2⟩

/-- A station without a group is alone. -/
theorem ListsGroup.eq_singleton {stations : List Place} (lists : tt.ListsGroup p stations)
    (alone : p.group = none) : stations = [p] := by
  obtain ⟨others, rfl, -⟩ := lists.first
  cases others with
  | nil => rfl
  | cons s rest =>
    have mem : s ∈ p :: s :: rest := List.mem_cons_of_mem p List.mem_cons_self
    obtain ⟨-, -, same⟩ := (lists.members s).mp mem
    rw [alone] at same
    simp only [Option.isSome_none, Bool.false_eq_true, false_and, or_false] at same
    rw [same] at lists
    exact absurd List.mem_cons_self (List.nodup_cons.mp lists.distinct).1

/-- Stations of one group have the same stations with them. -/
theorem ListsGroup.perm {a b : Place} {stations stationsToo : List Place}
    (lists : tt.ListsGroup a stations) (listsToo : tt.ListsGroup b stationsToo)
    (together : a.group = b.group) (grouped : a.group.isSome = true) :
    stations.Perm stationsToo := by
  rw [List.perm_ext_iff_of_nodup lists.distinct listsToo.distinct]
  intro s
  rw [lists.members, listsToo.members, ← together]
  constructor
  · rintro ⟨here, stops, rfl | ⟨-, same⟩⟩
    · exact ⟨here, stops, .inr ⟨grouped, rfl⟩⟩
    · exact ⟨here, stops, .inr ⟨grouped, same⟩⟩
  · rintro ⟨here, stops, rfl | ⟨-, same⟩⟩
    · exact ⟨here, stops, .inr ⟨grouped, together.symm⟩⟩
    · exact ⟨here, stops, .inr ⟨grouped, same⟩⟩

end Timetable

end JourneyPlanner

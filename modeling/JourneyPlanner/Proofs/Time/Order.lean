import JourneyPlanner.Time.Instant

set_option autoImplicit false

/-! The order of instants is that of their ranks, so it is linear. -/
namespace JourneyPlanner

namespace Instant

theorem le_iff_rank {s t : Instant} : s ≤ t ↔ s.rank ≤ t.rank := Iff.rfl

theorem le_refl (t : Instant) : t ≤ t := Int.le_refl t.rank

theorem le_trans {s t u : Instant} (first : s ≤ t) (second : t ≤ u) : s ≤ u :=
  Int.le_trans first second

theorem le_antisymm {s t : Instant} (forth : s ≤ t) (back : t ≤ s) : s = t :=
  ext_rank (Int.le_antisymm forth back)

theorem eq_of_second {s t : Instant} (same : s.second = t.second) (whole : s.nanos = 0)
    (wholeToo : t.nanos = 0) : s = t := by
  refine ext_rank ?_
  rw [rank, rank, same, whole, wholeToo]

theorem not_le {s t : Instant} : ¬ s ≤ t ↔ t < s := Int.not_le

theorem le_of_lt {s t : Instant} (before : s < t) : s ≤ t := Int.le_of_lt before

theorem lt_irrefl (t : Instant) : ¬ t < t := Int.lt_irrefl t.rank

theorem lt_of_le_of_lt {s t u : Instant} (first : s ≤ t) (second : t < u) : s < u :=
  Int.lt_of_le_of_lt first second

instance : Std.TransOrd Instant := inferInstanceAs (Std.TransCmp (compareOn rank))

instance : Std.LawfulEqOrd Instant where
  eq_of_compare same := ext_rank (Std.LawfulEqOrd.eq_of_compare same)

theorem compare_isLE {s t : Instant} : (compare s t).isLE = true ↔ s ≤ t := by
  change (compare s.rank t.rank).isLE = true ↔ s.rank ≤ t.rank
  rw [Std.isLE_compare]

theorem compare_lt {s t : Instant} : compare s t = .lt ↔ s < t := by
  change compare s.rank t.rank = .lt ↔ s.rank < t.rank
  rw [Std.compare_eq_lt]

end Instant

end JourneyPlanner

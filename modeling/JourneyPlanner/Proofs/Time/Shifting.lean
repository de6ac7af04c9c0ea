import JourneyPlanner.Proofs.Time.Order

set_option autoImplicit false

/-!
Instants moved by spans. A move keeps its direction. Moves by whole seconds keep the order of
seconds, and that of the instants themselves where the later one does not lie in a leap second.
-/
namespace JourneyPlanner.Instant

theorem ofParts?_eq_some {second : Int} {nanos : Nat} {t : Instant}
    (made : ofParts? second nanos = some t) : t.second = second ∧ t.nanos = nanos := by
  unfold ofParts? at made
  split at made
  · split at made
    · split at made
      · cases made
        exact ⟨rfl, rfl⟩
      · cases made
    · cases made
  · cases made

/-- What a number of nanoseconds makes lies in no leap second. -/
theorem ofNanos?_eq_some {nanos : Int} {t : Instant} (made : ofNanos? nanos = some t) :
    1000000000 * t.second + t.nanos = nanos ∧ t.nanos < 1000000000 := by
  obtain ⟨second, rest⟩ := ofParts?_eq_some made
  unfold Time.nanosPerSecond at second rest
  omega

theorem isLeap_iff (t : Instant) : t.isLeap = true ↔ 1000000000 ≤ t.nanos := by
  rw [isLeap, decide_eq_true_iff]

theorem ofParts?_ne_none {second : Int} {nanos : Nat}
    (inRange : Time.leastSecond ≤ second ∧ second ≤ Time.greatestSecond)
    (bounded : nanos < 2000000000) (leap : 1000000000 ≤ nanos → second % 60 = 59) :
    ofParts? second nanos ≠ none := by
  rw [ofParts?, dif_pos inRange, dif_pos bounded, dif_pos leap]
  exact Option.some_ne_none _

/-- Nanoseconds make an instant just within the years of the calendar. -/
theorem ofNanos?_ne_none_iff {nanos : Int} :
    ofNanos? nanos ≠ none ↔
      Time.leastSecond * 1000000000 ≤ nanos ∧ nanos < (Time.greatestSecond + 1) * 1000000000 := by
  unfold ofNanos? Time.nanosPerSecond
  constructor
  · intro made
    obtain ⟨t, made⟩ := Option.ne_none_iff_exists'.mp made
    obtain ⟨second, -⟩ := ofParts?_eq_some made
    have inRange := t.inRange
    unfold Time.leastSecond Time.greatestSecond at inRange ⊢
    omega
  · intro inRange
    unfold Time.leastSecond Time.greatestSecond at inRange
    refine ofParts?_ne_none ?_ (by omega) (by omega)
    unfold Time.leastSecond Time.greatestSecond
    omega

/-- What lies between an instant and one that it can be moved to can be reached as well. -/
theorem shift?_ne_none_of_between {t : Instant} {span longer : Int}
    (between : 0 ≤ span ∧ span ≤ longer ∨ longer ≤ span ∧ span ≤ 0)
    (reached : t.shift? longer ≠ none) : t.shift? span ≠ none := by
  have bounded := t.bounded
  have inRange := t.inRange
  unfold Time.leastSecond Time.greatestSecond at inRange
  unfold shift? at reached ⊢
  by_cases leap : t.isLeap = true
  · have late := (isLeap_iff t).mp leap
    rw [if_pos leap] at reached ⊢
    by_cases short : span.natAbs < 1000000000 ∧ t.nanos + span < 2000000000
    · rw [if_pos short]
      exact ofParts?_ne_none t.inRange (by omega) fun _ => t.leap late
    · have long : ¬ (longer.natAbs < 1000000000 ∧ t.nanos + longer < 2000000000) := by omega
      rw [if_neg long] at reached
      rw [if_neg short]
      by_cases forth : 0 < span
      · rw [if_pos (by omega), ofNanos?_ne_none_iff] at reached
        rw [if_pos forth, ofNanos?_ne_none_iff]
        unfold sinceEpoch Time.nanosPerSecond Time.leastSecond Time.greatestSecond at *
        omega
      · rw [if_neg (by omega), ofNanos?_ne_none_iff] at reached
        rw [if_neg forth, ofNanos?_ne_none_iff]
        unfold sinceEpoch Time.nanosPerSecond Time.leastSecond Time.greatestSecond at *
        omega
  · rw [isLeap_iff] at leap
    have plain : ¬ t.isLeap = true := mt (isLeap_iff t).mp leap
    rw [if_neg plain, ofNanos?_ne_none_iff] at reached ⊢
    unfold sinceEpoch Time.nanosPerSecond Time.leastSecond Time.greatestSecond at *
    omega

/-- Where a move ends: in the leap second where it began, or counted from the second before or after
that, as the move goes forth or back. -/
theorem shift?_eq_some {t u : Instant} {span : Int} (moved : t.shift? span = some u) :
    (t.isLeap = true ∧ span.natAbs < 1000000000 ∧ u.second = t.second ∧
        (u.nanos : Int) = (t.nanos + span).toNat) ∨
      (t.isLeap = true ∧ 0 < span ∧ (1000000000 ≤ span ∨ 2000000000 ≤ t.nanos + span) ∧
        1000000000 * u.second + u.nanos = 1000000000 * (t.second - 1) + t.nanos + span ∧
        u.nanos < 1000000000) ∨
      ((t.isLeap = true → span ≤ -1000000000) ∧
        1000000000 * u.second + u.nanos = 1000000000 * t.second + t.nanos + span ∧
        u.nanos < 1000000000) := by
  unfold shift? at moved
  by_cases leap : t.isLeap = true
  · rw [if_pos leap] at moved
    by_cases short : span.natAbs < 1000000000 ∧ t.nanos + span < 2000000000
    · rw [if_pos short] at moved
      obtain ⟨second, nanos⟩ := ofParts?_eq_some moved
      exact .inl ⟨leap, short.1, second, congrArg Int.ofNat nanos⟩
    · rw [if_neg short] at moved
      have late := (isLeap_iff t).mp leap
      by_cases forth : 0 < span
      · rw [if_pos forth] at moved
        obtain ⟨nanos, bound⟩ := ofNanos?_eq_some moved
        unfold sinceEpoch Time.nanosPerSecond at nanos
        exact .inr (.inl ⟨leap, forth, by omega, by omega, bound⟩)
      · rw [if_neg forth] at moved
        obtain ⟨nanos, bound⟩ := ofNanos?_eq_some moved
        unfold sinceEpoch Time.nanosPerSecond at nanos
        have bounded := t.bounded
        exact .inr (.inr ⟨fun _ => by omega, by omega, bound⟩)
  · rw [if_neg leap] at moved
    obtain ⟨nanos, bound⟩ := ofNanos?_eq_some moved
    unfold sinceEpoch Time.nanosPerSecond at nanos
    exact .inr (.inr ⟨fun isLeap => absurd isLeap leap, by omega, bound⟩)

theorem le_of_shift? {t u : Instant} {span : Int} (moved : t.shift? span = some u)
    (forth : 0 ≤ span) : t ≤ u := by
  rw [le_iff_rank, rank, rank]
  have bounded := t.bounded
  rcases shift?_eq_some moved with ⟨leap, -, second, nanos⟩ | ⟨leap, -, long, nanos, bound⟩ |
    ⟨plain, nanos, bound⟩
  · omega
  · have late := (isLeap_iff t).mp leap
    omega
  · by_cases leap : t.isLeap = true
    · have back := plain leap
      omega
    · rw [isLeap_iff] at leap
      omega

theorem shift?_lt {t u : Instant} {span : Int} (moved : t.shift? span = some u)
    (back : span < 0) : u < t := by
  change u.rank < t.rank
  rw [rank, rank]
  have bounded := t.bounded
  have late := isLeap_iff t
  rcases shift?_eq_some moved with ⟨leap, -, second, nanos⟩ | ⟨-, forth, -⟩ |
    ⟨plain, nanos, bound⟩
  · have started := late.mp leap
    omega
  · omega
  · by_cases leap : t.isLeap = true
    · have far := plain leap
      omega
    · have early := mt late.mpr leap
      omega

/-- A move by whole seconds forth adds them and leaves a leap second; none at all stays in it. -/
theorem shift?_seconds {t u : Instant} {seconds : Nat}
    (moved : t.shift? (1000000000 * seconds) = some u) :
    u.second = t.second + seconds ∧
      u.nanos = if seconds = 0 then t.nanos else t.nanos % 1000000000 := by
  have bounded := t.bounded
  rcases shift?_eq_some moved with ⟨leap, short, second, nanos⟩ | ⟨leap, forth, -, nanos, bound⟩ |
    ⟨plain, nanos, bound⟩
  · have none : seconds = 0 := by omega
    rw [if_pos none]
    omega
  · have late := (isLeap_iff t).mp leap
    rw [if_neg (by omega)]
    omega
  · by_cases leap : t.isLeap = true
    · have back := plain leap
      omega
    · rw [isLeap_iff] at leap
      split <;> omega

/-- Of two moves of one instant the longer one leads no less far: whatever stays in a leap second
lies after what moves back out of it, and before what moves forth. -/
theorem shift?_le_shift? {t u v : Instant} {span longer : Int} (moved : t.shift? span = some u)
    (movedToo : t.shift? longer = some v) (order : span ≤ longer) : u ≤ v := by
  have bounded := t.bounded
  have short := shift?_eq_some moved
  have long := shift?_eq_some movedToo
  simp only [isLeap_iff] at short long
  rw [le_iff_rank, rank, rank]
  omega

theorem eq_of_shift?_zero {t u : Instant} (moved : t.shift? 0 = some u) : u = t := by
  have still : t.shift? (1000000000 * (0 : Nat)) = some u := moved
  obtain ⟨second, nanos⟩ := shift?_seconds still
  rw [if_pos rfl] at nanos
  refine ext_rank ?_
  rw [rank, rank]
  omega

theorem shift?_le {t u : Instant} {span : Int} (moved : t.shift? span = some u)
    (back : span ≤ 0) : u ≤ t := by
  rcases Int.lt_or_eq_of_le back with back | rfl
  · exact le_of_lt (shift?_lt moved back)
  · rw [eq_of_shift?_zero moved]
    exact le_refl t

/-- A move by whole seconds back subtracts them, from the second after a leap second. -/
theorem shift?_seconds_back {t u : Instant} {seconds : Nat}
    (moved : t.shift? (-(1000000000 * seconds)) = some u) :
    (seconds = 0 ∧ u = t) ∨ (seconds ≠ 0 ∧ u.isLeap = false ∧
      1000000000 * u.second + u.nanos = 1000000000 * (t.second - seconds) + t.nanos) := by
  have bounded := t.bounded
  have plain : u.nanos < 1000000000 → u.isLeap = false := fun bound => by
    rw [Bool.eq_false_iff, ne_eq, isLeap_iff]
    omega
  rcases shift?_eq_some moved with ⟨leap, short, second, nanos⟩ | ⟨leap, forth, -⟩ |
    ⟨far, nanos, bound⟩
  · refine .inl ⟨by omega, ext_rank ?_⟩
    rw [rank, rank]
    omega
  · omega
  · by_cases none : seconds = 0
    · refine .inl ⟨none, ext_rank ?_⟩
      have early : ¬ t.isLeap = true := fun leap => by
        have back := far leap
        omega
      rw [isLeap_iff] at early
      rw [rank, rank]
      omega
    · exact .inr ⟨none, plain bound, by omega⟩

theorem spanTo_self (t : Instant) : t.spanTo t = 0 := by
  unfold spanTo
  simp

/-- Between instants outside leap seconds a span counts all seconds. -/
theorem spanTo_of_not_leap {s t : Instant} (plain : s.isLeap = false)
    (plainToo : t.isLeap = false) : s.spanTo t = t.sinceEpoch - s.sinceEpoch := by
  unfold spanTo
  simp [plain, plainToo]

/-- A leap second in which one of two instants lies is counted or it is not. -/
theorem spanTo_of_leap {s t : Instant} (plain : t.isLeap = false) :
    s.spanTo t = t.sinceEpoch - s.sinceEpoch ∨
      (s.isLeap = true ∧ s.spanTo t = t.sinceEpoch - s.sinceEpoch + 1000000000) := by
  unfold spanTo
  simp only [plain, Bool.false_eq_true, false_and, if_false]
  split
  · rename_i counted
    exact .inr ⟨counted.1, rfl⟩
  · exact .inl (Int.add_zero _)

theorem spanTo_of_leap_end {s t : Instant} (plain : s.isLeap = false) :
    s.spanTo t = t.sinceEpoch - s.sinceEpoch ∨
      (t.isLeap = true ∧ s.spanTo t = t.sinceEpoch - s.sinceEpoch - 1000000000) := by
  unfold spanTo
  simp only [plain, Bool.false_eq_true, false_and, if_false]
  split
  · rename_i counted
    exact .inr ⟨counted.1, rfl⟩
  · exact .inl (Int.add_zero _)

theorem second_le_of_le {t u : Instant} (order : t ≤ u) : t.second ≤ u.second := by
  rw [le_iff_rank, rank, rank] at order
  have bounded := t.bounded
  have otherBounded := u.bounded
  omega

/-- Moving two instants by the same whole seconds may change their order only where the later one
loses the leap second in which it lies. -/
theorem shift?_mono {s t s' t' : Instant} {seconds : Nat}
    (moved : s.shift? (1000000000 * seconds) = some s')
    (movedToo : t.shift? (1000000000 * seconds) = some t') (order : s ≤ t) :
    s'.second ≤ t'.second ∧ (t.isLeap = false ∨ seconds = 0 → s' ≤ t') := by
  obtain ⟨second, nanos⟩ := shift?_seconds moved
  obtain ⟨secondToo, nanosToo⟩ := shift?_seconds movedToo
  have seconds_le := second_le_of_le order
  refine ⟨by omega, fun plain => ?_⟩
  rw [le_iff_rank, rank, rank] at order ⊢
  have bounded := s.bounded
  have otherBounded := t.bounded
  by_cases none : seconds = 0
  · rw [if_pos none] at nanos nanosToo
    omega
  · rw [if_neg none] at nanos nanosToo
    have early : ¬ 1000000000 ≤ t.nanos := by
      rw [← isLeap_iff, plain.resolve_right none]
      decide
    omega

/-- Where a move by whole seconds begins in a leap second, its span may be a second shorter. -/
theorem spanTo_of_shift? {t u : Instant} {seconds : Nat}
    (moved : t.shift? (1000000000 * seconds) = some u) :
    t.spanTo u = 1000000000 * seconds ∨
      (t.isLeap = true ∧ t.spanTo u = 1000000000 * seconds - 1000000000) := by
  have bounded := t.bounded
  obtain ⟨second, nanos⟩ := shift?_seconds moved
  by_cases none : seconds = 0
  · rw [if_pos none] at nanos
    have same : u = t := ext_rank (by rw [rank, rank]; omega)
    rw [same, spanTo_self]
    omega
  · rw [if_neg none] at nanos
    have plain : u.isLeap = false := by
      rw [Bool.eq_false_iff, ne_eq, isLeap_iff]
      omega
    have leap_iff := isLeap_iff t
    rcases spanTo_of_leap plain with span | ⟨leap, span⟩
    · rw [span]
      unfold sinceEpoch Time.nanosPerSecond
      by_cases leap : t.isLeap = true
      · have late := leap_iff.mp leap
        refine .inr ⟨leap, ?_⟩
        omega
      · rw [leap_iff] at leap
        omega
    · have late := leap_iff.mp leap
      rw [span]
      unfold sinceEpoch Time.nanosPerSecond
      omega

theorem spanTo_of_shift?_back {t u : Instant} {seconds : Nat}
    (moved : t.shift? (-(1000000000 * seconds)) = some u) :
    u.spanTo t = 1000000000 * seconds ∨
      (t.isLeap = true ∧ u.spanTo t = 1000000000 * seconds - 1000000000) := by
  rcases shift?_seconds_back moved with ⟨none, same⟩ | ⟨some, plain, nanos⟩
  · rw [same, spanTo_self]
    omega
  · rcases spanTo_of_leap_end plain with span | ⟨leap, span⟩
    · rw [span]
      unfold sinceEpoch Time.nanosPerSecond
      omega
    · refine .inr ⟨leap, ?_⟩
      rw [span]
      unfold sinceEpoch Time.nanosPerSecond
      omega

/-- Who is no earlier than a move forth is that span away, leap seconds aside. -/
theorem le_spanTo_of_shift? {s t ready : Instant} {span : Int}
    (moved : s.shift? span = some ready) (order : ready ≤ t) (plain : s.isLeap = false)
    (plainToo : t.isLeap = false) : span ≤ s.spanTo t := by
  rw [spanTo_of_not_leap plain plainToo]
  rcases shift?_eq_some moved with ⟨leap, -⟩ | ⟨leap, -⟩ | ⟨-, nanos, bound⟩
  · rw [plain] at leap
    cases leap
  · rw [plain] at leap
    cases leap
  · rw [Bool.eq_false_iff, ne_eq, isLeap_iff] at plainToo
    rw [le_iff_rank, rank, rank] at order
    unfold sinceEpoch Time.nanosPerSecond
    omega

section OutsideLeapSeconds

variable {s t u : Instant} {span : Int}

theorem shift?_of_not_leap (plain : t.isLeap = false) :
    t.shift? span = ofNanos? (t.sinceEpoch + span) := by
  unfold shift?
  simp [plain]

/-- A move that begins outside leap seconds ends outside them, so many nanoseconds away. -/
theorem plain_of_shift? (plain : t.isLeap = false) (moved : t.shift? span = some u) :
    u.isLeap = false ∧ u.sinceEpoch = t.sinceEpoch + span := by
  rw [shift?_of_not_leap plain] at moved
  obtain ⟨nanos, bound⟩ := ofNanos?_eq_some moved
  constructor
  · rw [Bool.eq_false_iff, ne_eq, isLeap_iff]
    omega
  · unfold sinceEpoch Time.nanosPerSecond at *
    omega

theorem le_iff_sinceEpoch (plain : s.isLeap = false) (plainToo : t.isLeap = false) :
    s ≤ t ↔ s.sinceEpoch ≤ t.sinceEpoch := by
  rw [Bool.eq_false_iff, ne_eq, isLeap_iff] at plain plainToo
  rw [le_iff_rank, rank, rank]
  unfold sinceEpoch Time.nanosPerSecond
  omega

/-- Outside leap seconds a move lasts as long as it says. -/
theorem spanTo_of_plain_shift? (plain : t.isLeap = false) (moved : t.shift? span = some u) :
    t.spanTo u = span := by
  obtain ⟨plainToo, nanos⟩ := plain_of_shift? plain moved
  rw [spanTo_of_not_leap plain plainToo, nanos]
  omega

theorem shift?_spanTo (plain : s.isLeap = false) (plainToo : t.isLeap = false) :
    s.shift? (s.spanTo t) = some t := by
  have reached : t.sinceEpoch / Time.nanosPerSecond = t.second ∧
      (t.sinceEpoch % Time.nanosPerSecond).toNat = t.nanos := by
    rw [Bool.eq_false_iff, ne_eq, isLeap_iff] at plainToo
    unfold sinceEpoch Time.nanosPerSecond
    omega
  have whole : s.sinceEpoch + (t.sinceEpoch - s.sinceEpoch) = t.sinceEpoch := by omega
  rw [shift?_of_not_leap plain, spanTo_of_not_leap plain plainToo, whole, ofNanos?, reached.1,
    reached.2, ofParts?_second_nanos]

/-- From between two instants that can be moved by a span one can move by it as well. -/
theorem exists_shift?_of_between (plain : s.isLeap = false) (plainToo : t.isLeap = false)
    (plainBetween : u.isLeap = false) (after : s ≤ u) (before : u ≤ t)
    (moved : s.shift? span ≠ none) (movedToo : t.shift? span ≠ none) :
    ∃ v, u.shift? span = some v := by
  rw [le_iff_sinceEpoch plain plainBetween] at after
  rw [le_iff_sinceEpoch plainBetween plainToo] at before
  rw [shift?_of_not_leap plain, ofNanos?_ne_none_iff] at moved
  rw [shift?_of_not_leap plainToo, ofNanos?_ne_none_iff] at movedToo
  rw [← Option.ne_none_iff_exists', shift?_of_not_leap plainBetween, ofNanos?_ne_none_iff]
  omega

end OutsideLeapSeconds

end JourneyPlanner.Instant

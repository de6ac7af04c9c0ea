set_option autoImplicit false

/-!
Days of the Gregorian calendar, counted from the first of January 1970. Years are taken to begin in
March, so that a leap day ends its year, and are grouped in cycles of four hundred.
-/
namespace JourneyPlanner.Time

structure Date where
  year : Int
  month : Nat
  day : Nat
  deriving DecidableEq, Repr

def isLeapYear (year : Int) : Bool :=
  year % 4 == 0 && (year % 100 != 0 || year % 400 == 0)

def daysInMonth (year : Int) (month : Nat) : Nat :=
  if month = 2 then (if isLeapYear year then 29 else 28)
  else if month = 4 || month = 6 || month = 9 || month = 11 then 30
  else 31

def Date.isValid (date : Date) : Bool :=
  1 ≤ date.month && date.month ≤ 12 && 1 ≤ date.day &&
    date.day ≤ daysInMonth date.year date.month

/-- Days from the first of March of the year zero to the first of January 1970. -/
def epochShift : Int := 719468

def daysPerCycle : Int := 146097

/-- Days from the first of March of the year zero to that of another. -/
def daysBefore (year : Int) : Int :=
  365 * year + year / 4 - year / 100 + year / 400

/-- Days from the first of March to the first of the month that is so many months later. -/
def daysBeforeMonth (monthsAfterMarch : Int) : Int :=
  (153 * monthsAfterMarch + 2) / 5

/-- The day on which a date falls. -/
def Date.toDays (date : Date) : Int :=
  let month :=
    if date.month ≤ 2 then daysBefore (date.year - 1) + daysBeforeMonth (date.month + 9)
    else daysBefore date.year + daysBeforeMonth (date.month - 3)
  month + date.day - 1 - epochShift

/-- The year of a day in its cycle, and the day in that year. Three centuries of a cycle have 36524
days and the last has one more; so do years among every four. -/
def yearAndDay (dayOfCycle : Int) : Int × Int :=
  let century := min (dayOfCycle / 36524) 3
  let dayOfCentury := dayOfCycle - 36524 * century
  let year := min (dayOfCentury % 1461 / 365) 3
  (100 * century + 4 * (dayOfCentury / 1461) + year, dayOfCentury % 1461 - 365 * year)

/-- The date so many days after the first of March of a year. -/
def Date.ofMarchYear (year dayOfYear : Int) : Date :=
  let month := (5 * dayOfYear + 2) / 153
  let day := dayOfYear - daysBeforeMonth month + 1
  if month < 10 then { year, month := (month + 3).toNat, day := day.toNat }
  else { year := year + 1, month := (month - 9).toNat, day := day.toNat }

/-- The date of a day. -/
def Date.ofDays (days : Int) : Date :=
  let shifted := days + epochShift
  let position := yearAndDay (shifted % daysPerCycle)
  Date.ofMarchYear (400 * (shifted / daysPerCycle) + position.1) position.2

/-- The year and day of a day of the cycle lie within the cycle and lead back to the day. -/
theorem yearAndDay_bounds {n : Int} (low : 0 ≤ n) (high : n < daysPerCycle) :
    0 ≤ (yearAndDay n).1 ∧ (yearAndDay n).1 < 400 ∧ 0 ≤ (yearAndDay n).2 ∧
      (yearAndDay n).2 ≤ 365 ∧ daysBefore (yearAndDay n).1 + (yearAndDay n).2 = n := by
  simp only [yearAndDay, daysPerCycle, daysBefore] at *
  have century : 0 ≤ min (n / 36524) 3 ∧ min (n / 36524) 3 ≤ 3 := by omega
  have rest : 0 ≤ n - 36524 * min (n / 36524) 3 ∧ n - 36524 * min (n / 36524) 3 < 36525 := by
    omega
  generalize min (n / 36524) 3 = c at *
  generalize restEq : n - 36524 * c = m at *
  have four : 0 ≤ m / 1461 ∧ m / 1461 ≤ 24 := by omega
  have inside : 0 ≤ m % 1461 ∧ m % 1461 < 1461 := by omega
  have joined := Int.mul_ediv_add_emod m 1461
  generalize m / 1461 = q at *
  generalize m % 1461 = k at *
  have year : 0 ≤ min (k / 365) 3 ∧ min (k / 365) 3 ≤ 3 := by omega
  have day : 0 ≤ k - 365 * min (k / 365) 3 ∧ k - 365 * min (k / 365) 3 ≤ 365 := by omega
  generalize min (k / 365) 3 = r at *
  have fours : (100 * c + 4 * q + r) / 4 = 25 * c + q := by omega
  have hundreds : (100 * c + 4 * q + r) / 100 = c := by omega
  have cycles : (100 * c + 4 * q + r) / 400 = 0 := by omega
  rw [fours, hundreds, cycles]
  omega

theorem daysBefore_cycle (cycle year : Int) :
    daysBefore (400 * cycle + year) = daysPerCycle * cycle + daysBefore year := by
  simp only [daysBefore, daysPerCycle]
  omega

theorem toDays_ofMarchYear (year : Int) {day : Int} (low : 0 ≤ day) (high : day ≤ 365) :
    (Date.ofMarchYear year day).toDays = daysBefore year + day - epochShift := by
  by_cases early : (5 * day + 2) / 153 < 10
  · have late : ¬ ((5 * day + 2) / 153 + 3).toNat ≤ 2 := by omega
    simp only [Date.ofMarchYear, early, if_true, Date.toDays, late, if_false, daysBeforeMonth]
    omega
  · have late : ((5 * day + 2) / 153 - 9).toNat ≤ 2 := by omega
    simp only [Date.ofMarchYear, early, if_false, Date.toDays, late, if_true, daysBeforeMonth,
      Int.add_sub_cancel]
    omega

/-- The date of a day falls on that day. -/
theorem toDays_ofDays (days : Int) : (Date.ofDays days).toDays = days := by
  have split := Int.mul_ediv_add_emod (days + epochShift) daysPerCycle
  obtain ⟨_, _, low, high, whole⟩ := yearAndDay_bounds
    (Int.emod_nonneg (days + epochShift) (by decide))
    (Int.emod_lt_of_pos (days + epochShift) (by decide))
  rw [Date.ofDays, toDays_ofMarchYear _ low high, daysBefore_cycle]
  omega

/-- A year of one day more than the others ends in a leap year. -/
theorem isLeapYear_of_last {n : Int} (low : 0 ≤ n) (high : n < daysPerCycle)
    (last : (yearAndDay n).2 = 365) (cycle : Int) :
    isLeapYear (400 * cycle + (yearAndDay n).1 + 1) = true := by
  simp only [yearAndDay, daysPerCycle] at *
  have century : 0 ≤ min (n / 36524) 3 ∧ min (n / 36524) 3 ≤ 3 := by omega
  have rest : n - 36524 * min (n / 36524) 3 < 36524 ∨ min (n / 36524) 3 = 3 := by omega
  have whole : 0 ≤ n - 36524 * min (n / 36524) 3 ∧ n - 36524 * min (n / 36524) 3 < 36525 := by
    omega
  generalize min (n / 36524) 3 = c at *
  generalize n - 36524 * c = m at *
  have year : min (m % 1461 / 365) 3 = 3 := by omega
  have four : m % 1461 = 1460 := by omega
  have joined := Int.mul_ediv_add_emod m 1461
  rw [year]
  generalize m / 1461 = q at *
  simp only [isLeapYear, Bool.and_eq_true, Bool.or_eq_true, beq_iff_eq, bne_iff_ne]
  refine ⟨by omega, ?_⟩
  by_cases final : q = 24
  · exact Or.inr (by omega)
  · exact Or.inl (by omega)

theorem isValid_ofMarchYear {year day : Int} (low : 0 ≤ day) (high : day ≤ 365)
    (leap : day = 365 → isLeapYear (year + 1) = true) :
    (Date.ofMarchYear year day).isValid = true := by
  by_cases february : (5 * day + 2) / 153 = 11
  · simp only [Date.ofMarchYear, Date.isValid, daysBeforeMonth, daysInMonth, february]
    by_cases leapYear : isLeapYear (year + 1) = true
    · simp [leapYear]
      omega
    · have short : day ≠ 365 := fun last => leapYear (leap last)
      simp [leapYear]
      omega
  · have months : (5 * day + 2) / 153 = 0 ∨ (5 * day + 2) / 153 = 1 ∨ (5 * day + 2) / 153 = 2 ∨
        (5 * day + 2) / 153 = 3 ∨ (5 * day + 2) / 153 = 4 ∨ (5 * day + 2) / 153 = 5 ∨
        (5 * day + 2) / 153 = 6 ∨ (5 * day + 2) / 153 = 7 ∨ (5 * day + 2) / 153 = 8 ∨
        (5 * day + 2) / 153 = 9 ∨ (5 * day + 2) / 153 = 10 := by omega
    rcases months with h | h | h | h | h | h | h | h | h | h | h
    all_goals
      simp [Date.ofMarchYear, Date.isValid, daysBeforeMonth, daysInMonth, h]
      omega

/-- Every day has a date that exists. -/
theorem isValid_ofDays (days : Int) : (Date.ofDays days).isValid = true := by
  have low := Int.emod_nonneg (days + epochShift) (by decide : daysPerCycle ≠ 0)
  have high := Int.emod_lt_of_pos (days + epochShift) (by decide : 0 < daysPerCycle)
  obtain ⟨_, _, first, last, _⟩ := yearAndDay_bounds low high
  exact isValid_ofMarchYear first last fun least => isLeapYear_of_last low high least _

theorem daysInMonth_le (year : Int) (month : Nat) : daysInMonth year month ≤ 31 := by
  unfold daysInMonth
  split
  · split <;> decide
  · split <;> decide

theorem daysBefore_lt {early late : Int} (order : early < late) :
    daysBefore early + 365 ≤ daysBefore late := by
  simp only [daysBefore]
  omega

theorem daysBefore_mono {early late : Int} (order : early ≤ late) :
    daysBefore early ≤ daysBefore late := by
  rcases Int.lt_or_eq_of_le order with less | equal
  · have := daysBefore_lt less
    omega
  · exact Int.le_of_eq (congrArg daysBefore equal)

theorem toDays_newYear (year : Int) :
    Date.toDays { year, month := 1, day := 1 } =
      daysBefore (year - 1) + 306 - epochShift := by
  simp [Date.toDays, daysBeforeMonth]

/-- A year starts on the first of January, and only its days and later ones follow. -/
theorem newYear_le_toDays {date : Date} (valid : date.isValid = true) (year : Int) :
    Date.toDays { year, month := 1, day := 1 } ≤ date.toDays ↔ year ≤ date.year := by
  simp only [Date.isValid, Bool.and_eq_true, decide_eq_true_eq] at valid
  have days : daysInMonth date.year date.month ≤ 31 := daysInMonth_le _ _
  rw [toDays_newYear]
  simp only [Date.toDays, daysBeforeMonth]
  constructor
  · intro reached
    apply Int.not_lt.mp
    intro earlier
    have before := daysBefore_mono (show date.year ≤ year - 1 by omega)
    have last := daysBefore_lt (show date.year - 1 < year - 1 by omega)
    split at reached
    · omega
    · omega
  · intro order
    have before := daysBefore_mono (show year - 1 ≤ date.year - 1 by omega)
    have next := daysBefore_lt (show year - 1 < date.year by omega)
    split
    · omega
    · omega

end JourneyPlanner.Time

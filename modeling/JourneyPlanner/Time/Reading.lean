import JourneyPlanner.Time.Text

set_option autoImplicit false

/-! Dates, times of day and instants read back as they were written. -/
namespace JourneyPlanner

namespace Time

theorem isBlank_of_isDigit {c : Char} (digit : Text.isDigit c = true) : Text.isBlank c = false := by
  have value : Text.digitValue? c ≠ none := by
    intro absent
    simp [Text.isDigit, absent] at digit
  have range : '0' ≤ c ∧ c ≤ '9' := by
    apply Decidable.byContradiction
    intro outside
    exact value (by simp [Text.digitValue?, outside])
  have low : 48 ≤ c.toNat := UInt32.le_iff_toNat_le.mp range.1
  have high : c.toNat ≤ 57 := UInt32.le_iff_toNat_le.mp range.2
  have all : ∀ n ∈ List.range 58, 48 ≤ n → Text.isBlank (Char.ofNat n) = false := by decide
  have plain := all c.toNat (List.mem_range.mpr (by omega)) low
  rwa [Char.ofNat_toNat] at plain

theorem skipBlank_of_not {c : Char} (plain : Text.isBlank c = false) (rest : List Char) :
    skipBlank (c :: rest) = c :: rest := by
  simp [skipBlank, plain]

theorem skipBlank_digits {run : List Char} (nonempty : run ≠ [])
    (digits : ∀ c ∈ run, Text.isDigit c = true) (rest : List Char) :
    skipBlank (run ++ rest) = run ++ rest := by
  cases run with
  | nil => exact absurd rfl nonempty
  | cons c run => exact skipBlank_of_not (isBlank_of_isDigit (digits c (by simp))) _

/-- A run of digits ends where something else follows. -/
theorem takeWhile_digits (run : List Char) {rest : List Char}
    (digits : ∀ c ∈ run, Text.isDigit c = true)
    (ends : ∀ c ∈ rest.head?, Text.isDigit c = false) :
    (run ++ rest).takeWhile Text.isDigit = run ∧ (run ++ rest).dropWhile Text.isDigit = rest := by
  rw [List.takeWhile_append_of_pos digits, List.dropWhile_append_of_pos digits]
  cases rest with
  | nil => simp
  | cons c rest => simp [ends c (by simp)]

/-- As many digits as are allowed are read, whatever follows. -/
theorem readDigits_exact {run : List Char} (nonempty : run ≠ [])
    (digits : ∀ c ∈ run, Text.isDigit c = true) (rest : List Char) :
    readDigits run.length (run ++ rest) = some (Text.digitsValue run, rest) := by
  have all : run.takeWhile Text.isDigit = run := by
    have whole := (takeWhile_digits run digits
      (show ∀ c ∈ ([] : List Char).head?, Text.isDigit c = false by simp)).1
    rwa [List.append_nil] at whole
  simp [readDigits, all, nonempty]

/-- Fewer digits than are allowed are read up to something else. -/
theorem readDigits_ended {run rest : List Char} {width : Nat} (nonempty : run ≠ [])
    (digits : ∀ c ∈ run, Text.isDigit c = true)
    (ends : ∀ c ∈ rest.head?, Text.isDigit c = false) (wide : run.length ≤ width) :
    readDigits width (run ++ rest) = some (Text.digitsValue run, rest) := by
  have cut : ((run ++ rest).take width).takeWhile Text.isDigit = run := by
    rw [List.take_append, List.take_of_length_le wide]
    apply (takeWhile_digits run digits _).1
    intro c mem
    cases rest with
    | nil => simp at mem
    | cons d rest =>
      cases left : width - run.length with
      | zero => simp [left] at mem
      | succ n => exact ends c (by simpa [left] using mem)
  simp [readDigits, cut, nonempty]

theorem readPart_paddedDigits {n : Nat} (small : n < 100) (rest : List Char) :
    readPart (Text.paddedDigits 2 n ++ rest) = some (n, rest) := by
  have digits : ∀ c ∈ Text.paddedDigits 2 n, Text.isDigit c = true := fun c mem =>
    Text.isDigit_of_mem_paddedDigits mem
  have length : (Text.paddedDigits 2 n).length = 2 :=
    Text.length_paddedDigits (by decide) small
  have read := readDigits_exact (Text.paddedDigits_ne_nil 2 n) digits rest
  rw [length, Text.digitsValue_paddedDigits] at read
  rw [readPart, skipBlank_digits (Text.paddedDigits_ne_nil 2 n) digits, read]

theorem readMark_self {c : Char} (plain : Text.isBlank c = false) (rest : List Char) :
    readMark c (c :: rest) = some rest := by
  rw [readMark, skipBlank_of_not plain]
  simp [expect?]

theorem dash_ends (rest : List Char) : ∀ c ∈ ('-' :: rest).head?, Text.isDigit c = false := by
  intro c mem
  cases Option.some.inj mem
  rfl

theorem readYear_digits {c : Char} (digit : Text.isDigit c = true) (rest : List Char) :
    readYear (c :: rest) =
      (readDigits 4 (c :: rest)).map fun read => ((read.1 : Int), read.2) := by
  unfold readYear
  rw [skipBlank_of_not (isBlank_of_isDigit digit)]
  split
  · rename_i same
    cases (List.cons.inj same).1
    exact absurd digit (by decide)
  · rename_i same
    cases (List.cons.inj same).1
    exact absurd digit (by decide)
  · rfl

/-- A year reads back up to the dash that follows it. -/
theorem readYear_yearText (year : Int) (rest : List Char) :
    readYear (yearText year ++ '-' :: rest) = some (year, '-' :: rest) := by
  have digits : ∀ n, ∀ c ∈ Text.paddedDigits 4 n, Text.isDigit c = true := fun n c mem =>
    Text.isDigit_of_mem_paddedDigits mem
  have fits : (Text.paddedDigits 4 year.natAbs).length ≤
      (Text.paddedDigits 4 year.natAbs ++ '-' :: rest).length := by
    simp
  have signed := readDigits_ended (Text.paddedDigits_ne_nil 4 year.natAbs) (digits _)
    (dash_ends rest) fits
  rw [Text.digitsValue_paddedDigits] at signed
  unfold yearText
  split
  · rename_i plain
    have length : (Text.paddedDigits 4 year.toNat).length = 4 :=
      Text.length_paddedDigits (by decide) (show year.toNat < 10000 by omega)
    have whole := readDigits_exact (Text.paddedDigits_ne_nil 4 year.toNat) (digits _) ('-' :: rest)
    rw [length, Text.digitsValue_paddedDigits] at whole
    cases run : Text.paddedDigits 4 year.toNat with
    | nil => exact absurd run (Text.paddedDigits_ne_nil 4 year.toNat)
    | cons c cs =>
      rw [run, List.cons_append] at whole
      rw [List.cons_append, readYear_digits (digits year.toNat c (by simp [run])), whole]
      simp only [Option.map_some, Option.some.injEq, Prod.mk.injEq, and_true]
      omega
  · split
    · rw [List.cons_append, readYear, skipBlank_of_not (by decide)]
      simp only [signed, Option.map_some, Option.some.injEq, Prod.mk.injEq, and_true]
      omega
    · rw [List.cons_append, readYear, skipBlank_of_not (by decide)]
      simp only [signed, Option.map_some, Option.some.injEq, Prod.mk.injEq, and_true]
      omega

theorem readDate_dateText {date : Date} (valid : date.isValid = true)
    (least : leastYear ≤ date.year) (greatest : date.year ≤ greatestYear) (rest : List Char) :
    readDate (dateText date ++ rest) = some (date, rest) := by
  have bounds := valid
  simp only [Date.isValid, Bool.and_eq_true, decide_eq_true_eq] at bounds
  have days := daysInMonth_le date.year date.month
  unfold readDate dateText
  simp only [List.append_assoc, List.cons_append, readYear_yearText, Option.bind_eq_bind,
    Option.bind_some, readMark_self (show Text.isBlank '-' = false by decide),
    readPart_paddedDigits (show date.month < 100 by omega),
    readPart_paddedDigits (show date.day < 100 by omega)]
  simp [valid, least, greatest]

theorem readFraction_paddedDigits {places n : Nat} (wide : 1 ≤ places) (nine : places ≤ 9)
    (fits : n < Nat.pow 10 places) {rest : List Char}
    (ends : ∀ c ∈ rest.head?, Text.isDigit c = false) :
    readFraction ('.' :: Text.paddedDigits places n ++ rest) =
      some (n * Nat.pow 10 (9 - places), rest) := by
  have run := takeWhile_digits (Text.paddedDigits places n)
    (fun c mem => Text.isDigit_of_mem_paddedDigits mem) ends
  have length := Text.length_paddedDigits wide fits
  have cut : (Text.paddedDigits places n ++ List.replicate 9 '0').take 9 =
      Text.paddedDigits places n ++ List.replicate (9 - places) '0' := by
    rw [List.take_append, length, List.take_of_length_le (by omega), List.take_replicate,
      Nat.min_eq_left (by omega)]
  simp only [List.cons_append, readFraction, run.1, run.2, List.isEmpty_iff,
    Text.paddedDigits_ne_nil, if_false, cut, Text.digitsValue_append_zeros,
    Text.digitsValue_paddedDigits]

/-- A fraction of a second reads back where neither a digit nor a point follows. -/
theorem readFraction_fractionText {nanos : Nat} (small : nanos < 1000000000) (rest : List Char)
    (ends : ∀ c ∈ rest.head?, Text.isDigit c = false ∧ c ≠ '.') :
    readFraction (fractionText nanos ++ rest) = some (nanos, rest) := by
  have digits : ∀ c ∈ rest.head?, Text.isDigit c = false := fun c mem => (ends c mem).1
  unfold fractionText
  split
  · rename_i zero
    subst zero
    rw [List.nil_append]
    unfold readFraction
    split
    · exact absurd rfl (ends '.' rfl).2
    · rfl
  split
  · have fits : nanos / 1000000 < 1000 := by omega
    rw [readFraction_paddedDigits (by decide) (by decide) fits digits]
    simp
    omega
  split
  · have fits : nanos / 1000 < 1000000 := by omega
    rw [readFraction_paddedDigits (by decide) (by decide) fits digits]
    simp
    omega
  · rw [readFraction_paddedDigits (by decide) (by decide) small digits]
    simp

theorem readClock_clockText {second nanos : Nat} (inside : second < 86400)
    (bounded : nanos < 2000000000) (leap : 1000000000 ≤ nanos → second % 60 = 59)
    (rest : List Char) (ends : ∀ c ∈ rest.head?, Text.isDigit c = false ∧ c ≠ '.') :
    readClock (clockText second nanos ++ rest) = some ((second, nanos), rest) := by
  have hour : second / 3600 < 24 := by omega
  have minute : second / 60 % 60 < 60 := by omega
  have joined : (second / 3600 * 60 + second / 60 % 60) * 60 + second % 60 = second := by omega
  unfold readClock clockText
  simp only [List.append_assoc, List.cons_append, Option.bind_eq_bind, Option.bind_some,
    readMark_self (show Text.isBlank ':' = false by decide),
    readPart_paddedDigits (show second / 3600 < 100 by omega),
    readPart_paddedDigits (show second / 60 % 60 < 100 by omega),
    readPart_paddedDigits (show second % 60 + nanos / 1000000000 < 100 by omega),
    readFraction_fractionText (show nanos % 1000000000 < 1000000000 by omega) rest ends]
  by_cases plain : nanos < 1000000000
  · have none : nanos / 1000000000 = 0 := Nat.div_eq_of_lt plain
    have small : second % 60 < 60 := by omega
    simp [hour, minute, small, none, joined, Nat.mod_eq_of_lt plain]
  · have sixty : second % 60 + nanos / 1000000000 = 60 := by omega
    have fraction : 1000000000 + nanos % 1000000000 = nanos := by omega
    simp [hour, minute, sixty, fraction]
    omega

end Time

namespace Instant

theorem secondOfDay_bounds (t : Instant) : 0 ≤ t.secondOfDay ∧ t.secondOfDay < 86400 := by
  simp only [secondOfDay, Time.secondsPerDay]
  omega

/-- The days of an instant lie in the years that can be written. -/
theorem year_inRange (t : Instant) :
    Time.leastYear ≤ t.date.year ∧ t.date.year ≤ Time.greatestYear := by
  have falls : t.date.toDays = t.dayNumber := Time.toDays_ofDays t.dayNumber
  have valid : t.date.isValid = true := Time.isValid_ofDays t.dayNumber
  have bounds := t.inRange
  have first : Time.Date.toDays { year := Time.leastYear, month := 1, day := 1 } = -96465292 := by
    decide
  have after : Time.Date.toDays { year := Time.greatestYear + 1, month := 1, day := 1 } =
      95026237 := by
    decide
  have starts := Time.newYear_le_toDays valid Time.leastYear
  have ends := Time.newYear_le_toDays valid (Time.greatestYear + 1)
  simp only [first, after, falls, dayNumber, Time.leastSecond, Time.greatestSecond,
    Time.secondsPerDay] at *
  omega

theorem readClock_clock (t : Instant) :
    Time.readClock (t.clock ++ ['Z']) = some ((t.secondOfDay.toNat, t.nanos), ['Z']) := by
  have bounds := t.secondOfDay_bounds
  have leap : 1000000000 ≤ t.nanos → t.secondOfDay.toNat % 60 = 59 := by
    intro long
    have last := t.leap long
    simp only [secondOfDay, Time.secondsPerDay]
    omega
  have ends : ∀ c ∈ (['Z'] : List Char).head?, Text.isDigit c = false ∧ c ≠ '.' := by
    intro c mem
    cases Option.some.inj mem
    decide
  exact Time.readClock_clockText (by omega) t.bounded leap _ ends

/-- An instant reads back from its text. -/
theorem ofText?_text (t : Instant) : ofText? t.text = some t := by
  have bounds := t.secondOfDay_bounds
  have years := t.year_inRange
  have whole : t.dayNumber * Time.secondsPerDay + t.secondOfDay.toNat - 0 * 60 = t.second := by
    have joined := Int.mul_ediv_add_emod t.second Time.secondsPerDay
    simp only [dayNumber, secondOfDay, Time.secondsPerDay] at *
    omega
  have zone : Time.readZone (Time.skipBlank ['Z']) = some (0, []) := rfl
  have rest : Time.skipBlank [] = [] := rfl
  have date := Time.readDate_dateText (Time.isValid_ofDays t.dayNumber) years.1 years.2
    ('T' :: (t.clock ++ ['Z']))
  unfold ofText? text
  simp only [String.toList_ofList, List.append_assoc, List.cons_append]
  rw [show t.date = Time.Date.ofDays t.dayNumber from rfl, date]
  simp only [Option.bind_eq_bind, Option.bind_some, if_true, decide_true, Bool.true_or,
    t.readClock_clock, zone, rest, List.isEmpty_nil, Time.toDays_ofDays, whole,
    ofParts?_second_nanos]

end Instant

end JourneyPlanner

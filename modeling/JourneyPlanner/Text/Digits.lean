set_option autoImplicit false

/-! Decimal and hexadecimal digits, and numbers padded to a width. -/
namespace JourneyPlanner.Text

def digits (n : Nat) : List Char :=
  Nat.toDigits 10 n

/-- The digits of `n`, with zeros in front up to `width`. -/
def paddedDigits (width n : Nat) : List Char :=
  List.replicate (width - (digits n).length) '0' ++ digits n

def digitValue? (c : Char) : Option Nat :=
  if '0' ≤ c ∧ c ≤ '9' then some (c.toNat - '0'.toNat) else none

def isDigit (c : Char) : Bool :=
  (digitValue? c).isSome

/-- The number that a run of digits writes; other characters count as zero. -/
def digitsValue (cs : List Char) : Nat :=
  cs.foldl (fun value c => 10 * value + (digitValue? c).getD 0) 0

/-- A number below sixteen as a small letter or digit. -/
def hexDigit (n : Nat) : Char :=
  if n < 10 then Char.ofNat ('0'.toNat + n) else Char.ofNat ('a'.toNat + (n - 10))

/-- Letters of either case are accepted. -/
def hexValue? (c : Char) : Option Nat :=
  if '0' ≤ c ∧ c ≤ '9' then some (c.toNat - '0'.toNat)
  else if 'a' ≤ c ∧ c ≤ 'f' then some (c.toNat - 'a'.toNat + 10)
  else if 'A' ≤ c ∧ c ≤ 'F' then some (c.toNat - 'A'.toNat + 10)
  else none

theorem hexValue?_hexDigit {n : Nat} (small : n < 16) : hexValue? (hexDigit n) = some n := by
  have all : ∀ m ∈ List.range 16, hexValue? (hexDigit m) = some m := by decide
  exact all n (List.mem_range.mpr small)

/-- The hexadecimal digits of `n` without leading zeros. -/
def hexDigits (n : Nat) : List Char :=
  Nat.toDigits 16 n

/-- A whole number not below zero, with an optional plus sign and nothing else around the digits. -/
def readNat? (text : String) : Option Nat :=
  let body := match text.toList with
    | '+' :: rest => rest
    | whole => whole
  if body.isEmpty || !body.all isDigit then none else some (digitsValue body)

theorem digitValue?_digitChar {n : Nat} (small : n < 10) :
    digitValue? (Nat.digitChar n) = some n := by
  have all : ∀ m ∈ List.range 10, digitValue? (Nat.digitChar m) = some m := by decide
  exact all n (List.mem_range.mpr small)

theorem digitsValue_snoc (cs : List Char) {d : Nat} (small : d < 10) :
    digitsValue (cs ++ [Nat.digitChar d]) = 10 * digitsValue cs + d := by
  simp [digitsValue, digitValue?_digitChar small]

/-- The digits of a number are those of its tenth and a last one. -/
theorem digits_step {n : Nat} (large : 10 ≤ n) :
    digits n = digits (n / 10) ++ [Nat.digitChar (n % 10)] := by
  unfold digits
  have joined : Nat.toDigits 10 (n / 10) ++ Nat.toDigits 10 (n % 10)
      = Nat.toDigits 10 (10 * (n / 10) + n % 10) :=
    Nat.toDigits_append_toDigits (by decide) (by omega) (by omega)
  rw [Nat.toDigits_of_lt_base (show n % 10 < 10 by omega), Nat.div_add_mod] at joined
  exact joined.symm

theorem digits_small {n : Nat} (small : n < 10) : digits n = [Nat.digitChar n] := by
  unfold digits
  rw [Nat.toDigits_of_lt_base small]

theorem digitsValue_digits (n : Nat) : digitsValue (digits n) = n := by
  induction n using Nat.strongRecOn with
  | ind n ih =>
    by_cases small : n < 10
    · simp [digits_small small, digitsValue, digitValue?_digitChar small]
    · rw [digits_step (by omega), digitsValue_snoc _ (by omega), ih (n / 10) (by omega)]
      omega

theorem isDigit_of_mem_digits {n : Nat} {c : Char} (mem : c ∈ digits n) : isDigit c = true := by
  induction n using Nat.strongRecOn generalizing c with
  | ind n ih =>
    by_cases small : n < 10
    · rw [digits_small small] at mem
      simp at mem
      simp [mem, isDigit, digitValue?_digitChar small]
    · rw [digits_step (by omega)] at mem
      rcases List.mem_append.mp mem with front | last
      · exact ih (n / 10) (by omega) front
      · simp at last
        simp [last, isDigit, digitValue?_digitChar (show n % 10 < 10 by omega)]

theorem not_mem_digits {c : Char} (other : isDigit c = false) (n : Nat) : c ∉ digits n := by
  intro mem
  rw [isDigit_of_mem_digits mem] at other
  cases other

theorem digits_ne_nil (n : Nat) : digits n ≠ [] := by
  by_cases small : n < 10
  · simp [digits_small small]
  · simp [digits_step (show 10 ≤ n by omega)]

theorem digitsValue_zeros (count : Nat) (cs : List Char) :
    digitsValue (List.replicate count '0' ++ cs) = digitsValue cs := by
  have zero : digitValue? '0' = some 0 := rfl
  unfold digitsValue
  induction count with
  | zero => rfl
  | succ count ih => simpa [List.replicate_succ, zero] using ih

theorem digitsValue_append_zeros (cs : List Char) (count : Nat) :
    digitsValue (cs ++ List.replicate count '0') = digitsValue cs * Nat.pow 10 count := by
  induction count with
  | zero => simp
  | succ count ih =>
    have zero : '0' = Nat.digitChar 0 := rfl
    have power : Nat.pow 10 (count + 1) = Nat.pow 10 count * 10 := rfl
    rw [List.replicate_succ', ← List.append_assoc, zero, digitsValue_snoc _ (by decide), ← zero, ih,
      Nat.add_zero, power, Nat.mul_comm 10, Nat.mul_assoc]

theorem digitsValue_paddedDigits (width n : Nat) : digitsValue (paddedDigits width n) = n := by
  rw [paddedDigits, digitsValue_zeros, digitsValue_digits]

theorem isDigit_of_mem_paddedDigits {width n : Nat} {c : Char}
    (mem : c ∈ paddedDigits width n) : isDigit c = true := by
  rcases List.mem_append.mp mem with zero | digit
  · rw [List.eq_of_mem_replicate zero]
    rfl
  · exact isDigit_of_mem_digits digit

theorem paddedDigits_ne_nil (width n : Nat) : paddedDigits width n ≠ [] := by
  simp [paddedDigits, digits_ne_nil]

/-- Padding stands in front, so the last digit is that of the number. -/
theorem paddedDigits_step {width : Nat} (wide : 1 ≤ width) (n : Nat) :
    paddedDigits (width + 1) n = paddedDigits width (n / 10) ++ [Nat.digitChar (n % 10)] := by
  unfold paddedDigits
  by_cases small : n < 10
  · rw [digits_small small, Nat.div_eq_of_lt small, Nat.mod_eq_of_lt small]
    have zero : digits 0 = ['0'] := rfl
    obtain ⟨w, rfl⟩ := Nat.exists_eq_add_of_le wide
    simp [zero, Nat.add_comm 1 w, List.replicate_succ']
  · rw [digits_step (by omega)]
    simp

theorem paddedDigits_one {n : Nat} (small : n < 10) : paddedDigits 1 n = [Nat.digitChar n] := by
  simp [paddedDigits, digits_small small]

theorem length_paddedDigits {width n : Nat} (wide : 1 ≤ width) (small : n < Nat.pow 10 width) :
    (paddedDigits width n).length = width := by
  induction width generalizing n with
  | zero => omega
  | succ width ih =>
    by_cases first : width = 0
    · subst first
      simp [paddedDigits_one small]
    · rw [paddedDigits_step (by omega)]
      have tenth : n / 10 < Nat.pow 10 width := by
        rw [Nat.div_lt_iff_lt_mul (by decide)]
        exact small
      simp [ih (by omega) tenth]

end JourneyPlanner.Text

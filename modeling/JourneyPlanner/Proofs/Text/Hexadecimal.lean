import JourneyPlanner.Text.Digits
import JourneyPlanner.Text.Lowercase

set_option autoImplicit false

/-!
Hexadecimal digits of either case, and the numbers that they write. They are plain characters: those
below the hundred and twenty-eighth, whose small forms do not hang on their neighbours.
-/
namespace JourneyPlanner.Text

/-! Plain characters -/

/-- What holds of each character below the hundred and twenty-eighth. -/
theorem forall_plain {p : Char → Prop} (each : ∀ n < 128, p (Char.ofNat n)) (c : Char)
    (plain : c.toNat < 128) : p c := by
  have held := each c.toNat plain
  rwa [Char.ofNat_toNat] at held

theorem toLower_of_not_plain {c : Char} (special : 128 ≤ c.toNat) : c.toLower = c := by
  have beyond : ¬ (c.val ≥ 'A'.val ∧ c.val ≤ 'Z'.val) := by
    rintro ⟨-, below⟩
    have most : c.toNat ≤ 90 := UInt32.le_iff_toNat_le.mp below
    omega
  exact dif_neg beyond

theorem lowerChar_plain {c : Char} (plain : c.toNat < 128) : lowerChar c = [c.toLower] := by
  have each : ∀ n < 128, lowerChar (Char.ofNat n) = [(Char.ofNat n).toLower] := by decide +kernel
  exact forall_plain (p := fun c => lowerChar c = [c.toLower]) each c plain

/-- By induction on the text, with the characters passed so far general. -/
theorem lowerFrom_plain (before : List Char) {cs : List Char} (plain : ∀ c ∈ cs, c.toNat < 128) :
    lowerFrom before cs = cs.map Char.toLower := by
  induction cs generalizing before with
  | nil => rfl
  | cons c rest ih =>
    obtain ⟨first, others⟩ := List.forall_mem_cons.mp plain
    have noSigma : c.toNat ≠ 0x3A3 := by omega
    rw [lowerFrom, if_neg noSigma, lowerChar_plain first, ih _ others]
    rfl

/-! Digits -/

/-- The digits of hexadecimal numbers in small letters, each in the place of its value. -/
def hexAlphabet : List Char :=
  ['0', '1', '2', '3', '4', '5', '6', '7', '8', '9', 'a', 'b', 'c', 'd', 'e', 'f']

def IsHexDigit (c : Char) : Prop :=
  c.toLower ∈ hexAlphabet

instance (c : Char) : Decidable (IsHexDigit c) :=
  inferInstanceAs (Decidable (c.toLower ∈ hexAlphabet))

/-- What a digit is worth. -/
def hexWorth (c : Char) : Nat :=
  hexAlphabet.idxOf c.toLower

/-- The number that hexadecimal digits write, the first of them worth most. -/
def hexNumber (digits : List Char) : Nat :=
  digits.foldl (fun number c => 16 * number + hexWorth c) 0

theorem hexWorth_lt {c : Char} (digit : IsHexDigit c) : hexWorth c < 16 :=
  List.idxOf_lt_length_of_mem digit

theorem hexDigit_hexWorth {c : Char} (digit : IsHexDigit c) :
    hexDigit (hexWorth c) = c.toLower := by
  have each : hexAlphabet.all (fun d => hexDigit (hexAlphabet.idxOf d) = d) = true := by decide
  exact of_decide_eq_true (List.all_eq_true.mp each c.toLower digit)

theorem plain_of_isHexDigit {c : Char} (digit : IsHexDigit c) : c.toNat < 128 := by
  have each : hexAlphabet.all (fun d => d.toNat < 128) = true := by decide
  by_cases special : 128 ≤ c.toNat
  · rw [IsHexDigit, toLower_of_not_plain special] at digit
    exact of_decide_eq_true (List.all_eq_true.mp each c digit)
  · exact Nat.lt_of_not_le special

theorem hexValue?_of_not_plain {c : Char} (special : 128 ≤ c.toNat) : hexValue? c = none := by
  have beyond : ∀ d : Char, d.toNat < 128 → ¬ c ≤ d := by
    intro d plain below
    have most : c.toNat ≤ d.toNat := UInt32.le_iff_toNat_le.mp below
    omega
  simp only [hexValue?, beyond '9' (by decide), beyond 'f' (by decide), beyond 'F' (by decide),
    and_false, if_false]

theorem hexValue?_eq (c : Char) :
    hexValue? c = if IsHexDigit c then some (hexWorth c) else none := by
  by_cases special : 128 ≤ c.toNat
  · have other : ¬ IsHexDigit c := fun digit =>
      Nat.not_lt.mpr special (plain_of_isHexDigit digit)
    rw [hexValue?_of_not_plain special, if_neg other]
  · have each : ∀ n < 128, hexValue? (Char.ofNat n) =
        if IsHexDigit (Char.ofNat n) then some (hexWorth (Char.ofNat n)) else none := by
      decide +kernel
    exact forall_plain
      (p := fun c => hexValue? c = if IsHexDigit c then some (hexWorth c) else none)
      each c (Nat.lt_of_not_le special)

theorem hexValue?_eq_some_iff {c : Char} {n : Nat} :
    hexValue? c = some n ↔ IsHexDigit c ∧ hexWorth c = n := by
  rw [hexValue?_eq, Option.ite_none_right_eq_some, Option.some.injEq]

end JourneyPlanner.Text

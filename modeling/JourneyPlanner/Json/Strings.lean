import JourneyPlanner.Json.Parser
import JourneyPlanner.Json.Printer

set_option autoImplicit false

/-! Strings read back as they were written: each character by its own escape or as it stands. -/
namespace JourneyPlanner.Json

theorem readEscaped_plain {c : Char} (rest : List Char) (quote : c ≠ '"') (slash : c ≠ '\\')
    (control : ¬ c.toNat < 0x20) :
    readEscaped (c :: rest) = (readEscaped rest).map (Passage.after c) := by
  rw [readEscaped]
  · simp [control, slash]
  all_goals simp_all

theorem readEscaped_escape {c plain : Char} (rest : List Char) (letter : c ≠ 'u')
    (known : unescape? c = some plain) :
    readEscaped ('\\' :: c :: rest) =
      (readEscaped rest).map (Passage.after plain) := by
  rw [readEscaped]
  · simp [known]
  all_goals simp_all

theorem readEscaped_unit {a b c d : Char} {unit : Nat} (rest : List Char)
    (read : hexUnit? a b c d = some unit) (low : isLowHalf unit = false)
    (high : isHighHalf unit = false) :
    readEscaped ('\\' :: 'u' :: a :: b :: c :: d :: rest) =
      (readEscaped rest).map (Passage.after (Char.ofNat unit)) := by
  rw [readEscaped]
  simp [read, low, high]

theorem readEscaped_escapeChar (c : Char) (rest : List Char) :
    readEscaped (escapeChar c ++ rest) =
      (readEscaped rest).map (Passage.after c) := by
  unfold escapeChar
  split
  · rename_i h; subst h; exact readEscaped_escape rest (by decide) rfl
  split
  · rename_i h; subst h; exact readEscaped_escape rest (by decide) rfl
  split
  · rename_i h; subst h; exact readEscaped_escape rest (by decide) rfl
  split
  · rename_i h; subst h; exact readEscaped_escape rest (by decide) rfl
  split
  · rename_i h; subst h; exact readEscaped_escape rest (by decide) rfl
  split
  · rename_i h; subst h; exact readEscaped_escape rest (by decide) rfl
  split
  · rename_i h; subst h; exact readEscaped_escape rest (by decide) rfl
  split
  · rename_i small
    have unit : hexUnit? '0' '0' (Text.hexDigit (c.toNat / 16)) (Text.hexDigit (c.toNat % 16))
        = some c.toNat := by
      have zero : Text.hexValue? '0' = some 0 := rfl
      simp only [hexUnit?, zero, Text.hexValue?_hexDigit (show c.toNat / 16 < 16 by omega),
        Text.hexValue?_hexDigit (show c.toNat % 16 < 16 by omega), Option.bind_eq_bind,
        Option.bind_some, Option.pure_def, Option.some.injEq]
      omega
    have whole := readEscaped_unit rest unit (by simp [isLowHalf]; omega)
      (by simp [isHighHalf]; omega)
    simpa using whole
  · exact readEscaped_plain rest (by assumption) (by assumption) (by assumption)

/-- A string reads back up to its closing quote, whatever follows. -/
theorem readEscaped_writeEscaped (cs rest : List Char) :
    readEscaped (writeEscaped cs ('"' :: rest)) = some (some cs, rest) := by
  induction cs with
  | nil => rw [writeEscaped, readEscaped]
  | cons c cs ih => rw [writeEscaped, readEscaped_escapeChar, ih]; rfl

theorem readString_writeString (text : String) (rest : List Char) :
    readString (writeString text rest) = some (some text, rest) := by
  simp [readString, writeString, readEscaped_writeEscaped]

end JourneyPlanner.Json

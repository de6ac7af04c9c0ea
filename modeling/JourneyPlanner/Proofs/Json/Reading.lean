import JourneyPlanner.Json.Document
import JourneyPlanner.Json.Strings
import JourneyPlanner.Time.Reading

set_option autoImplicit false

/-!
Values of whole numbers, texts, lists and objects read back from their compact text. A number ends
where what follows it can no longer belong to it, so the statements leave open what that is.
-/
namespace JourneyPlanner

namespace Text

/-- No number but zero itself begins with a zero. -/
theorem head_digits_ne_zero {n : Nat} (positive : 0 < n) : (digits n).head? ≠ some '0' := by
  induction n using Nat.strongRecOn with
  | ind n ih =>
    by_cases small : n < 10
    · have all : ∀ m ∈ List.range 10, 0 < m → Nat.digitChar m ≠ '0' := by decide
      have digit := all n (List.mem_range.mpr small) positive
      simpa [digits_small small] using digit
    · have front := ih (n / 10) (by omega) (by omega)
      rw [digits_step (by omega), List.head?_append]
      cases head : (digits (n / 10)).head? with
      | none => exact absurd (List.head?_eq_none_iff.mp head) (digits_ne_nil _)
      | some c => simpa [head] using front

end Text

namespace Json

mutual
/-- The text of the value tells it from all others: it has no numbers but whole ones of 64 bits, and
nothing in it is illegible. -/
def isExact : Json → Bool
  | .null | .bool _ | .string _ => true
  | .int n => -9223372036854775808 ≤ n && n < 18446744073709551616
  | .array items => itemsExact items
  | .object fields => fieldsExact fields
  | .real _ | .illegible | .fragment _ => false

def itemsExact : List Json → Bool
  | [] => true
  | item :: rest => item.isExact && itemsExact rest

def fieldsExact : List (String × Json) → Bool
  | [] => true
  | (_, value) :: rest => value.isExact && fieldsExact rest
end

/-- No number goes on with what follows. -/
def Delimited (rest : List Char) : Prop :=
  ∀ c ∈ rest.head?, Text.isDigit c = false ∧ c ≠ '.' ∧ c ≠ 'e' ∧ c ≠ 'E'

theorem Delimited.nil : Delimited [] := by
  intro c mem
  cases mem

theorem Delimited.comma (rest : List Char) : Delimited (',' :: rest) := by
  intro c mem
  cases Option.some.inj mem
  decide

theorem Delimited.bracket (rest : List Char) : Delimited (']' :: rest) := by
  intro c mem
  cases Option.some.inj mem
  decide

theorem Delimited.brace (rest : List Char) : Delimited ('\x7d' :: rest) := by
  intro c mem
  cases Option.some.inj mem
  decide

theorem Delimited.writeItems (items : List Json) (rest : List Char) :
    Delimited (writeItems items rest) := by
  cases items with
  | nil => exact .bracket rest
  | cons item items => exact .comma _

theorem Delimited.writeFields (fields : List (String × Json)) (rest : List Char) :
    Delimited (writeFields fields rest) := by
  cases fields with
  | nil => exact .brace rest
  | cons field fields => exact .comma _

theorem readWhole_digits (n : Nat) {rest : List Char} (ends : Delimited rest) :
    readWhole (Text.digits n ++ rest) = some (Text.digits n, rest) := by
  have run := Time.takeWhile_digits (Text.digits n)
    (fun c mem => Text.isDigit_of_mem_digits mem) (fun c mem => (ends c mem).1)
  have read : readDigits (Text.digits n ++ rest) = some (Text.digits n, rest) := by
    simp [readDigits, run.1, run.2, Text.digits_ne_nil]
  unfold readWhole
  rw [read]
  split
  · rename_i leading
    have whole := (Prod.mk.inj (Option.some.inj leading)).1
    have zero : n = 0 := by
      apply Decidable.byContradiction
      intro positive
      exact Text.head_digits_ne_zero (Nat.pos_of_ne_zero positive) (by rw [whole]; rfl)
    rw [zero, Text.digits_small (by decide)] at whole
    cases whole
  · rfl

theorem readFraction_delimited {rest : List Char} (ends : Delimited rest) :
    readFraction rest = some ([], rest) := by
  unfold readFraction
  split
  · exact absurd rfl (ends '.' rfl).2.1
  · rfl

theorem readPower_delimited {rest : List Char} (ends : Delimited rest) :
    readPower rest = some ([], rest) := by
  cases rest with
  | nil => rfl
  | cons c rest =>
    have other := (ends c rfl).2.2
    simp [readPower, other]

theorem digits_append_ne_minus (n : Nat) (rest tail : List Char) :
    Text.digits n ++ rest ≠ '-' :: tail := by
  cases run : Text.digits n with
  | nil => exact absurd run (Text.digits_ne_nil n)
  | cons c cs =>
    have digit := Text.isDigit_of_mem_digits (n := n) (c := c) (by simp [run])
    intro same
    rw [(List.cons.inj same).1] at digit
    exact absurd digit (by decide)

theorem readNumber_writeInt {n : Int} (least : -9223372036854775808 ≤ n)
    (most : n < 18446744073709551616) {rest : List Char} (ends : Delimited rest) :
    readNumber (writeInt n rest) = some (.int n, rest) := by
  have whole := readWhole_digits n.natAbs ends
  unfold writeInt
  split
  · have positive : 0 < n.natAbs := by omega
    have bounded : n.natAbs ≤ 9223372036854775808 := by omega
    simp only [readNumber, whole, readFraction_delimited ends, readPower_delimited ends, numberOf,
      List.isEmpty_nil, Bool.and_self, if_true, wholeValue?, Text.digitsValue_digits, positive,
      bounded, and_self, Option.bind_eq_bind, Option.bind_some, Option.pure_def, Option.some.injEq,
      Prod.mk.injEq, Json.int.injEq, and_true]
    omega
  · have small : n.natAbs < 18446744073709551616 := by omega
    unfold readNumber
    split
    rename_i negative body parts
    split at parts
    · rename_i tail sign
      exact absurd sign (digits_append_ne_minus n.natAbs rest tail)
    · cases parts
      simp only [whole, readFraction_delimited ends, readPower_delimited ends, numberOf,
        List.isEmpty_nil, Bool.and_self, if_true, wholeValue?, Text.digitsValue_digits, small,
        Bool.false_eq_true, if_false, Option.bind_eq_bind, Option.bind_some, Option.pure_def,
        Option.some.injEq, Prod.mk.injEq, Json.int.injEq, and_true]
      omega

theorem length_writeString (text : String) (rest : List Char) :
    rest.length + 2 ≤ (writeString text rest).length := by
  have longer : ∀ cs : List Char, rest.length + 1 ≤ (writeEscaped cs ('"' :: rest)).length := by
    intro cs
    induction cs with
    | nil => simp [writeEscaped]
    | cons c cs ih =>
      rw [writeEscaped, List.length_append]
      omega
  have inside := longer text.toList
  rw [writeString, List.length_cons]
  omega

/-- The first character of a value is neither white space nor a closing bracket. -/
theorem write_eq_cons {value : Json} (exact : value.isExact = true) (rest : List Char) :
    ∃ c cs, value.write rest = c :: cs ∧ isSpace c = false ∧ c ≠ ']' := by
  match value with
  | .null | .bool true | .bool false | .string _ | .array [] | .array (_ :: _) | .object []
  | .object ((_, _) :: _) =>
    simp only [write, writeString]
    exact ⟨_, _, rfl, by decide, by decide⟩
  | .int n =>
    simp only [write, writeInt]
    split
    · exact ⟨_, _, rfl, by decide, by decide⟩
    · cases run : Text.digits n.natAbs with
      | nil => exact absurd run (Text.digits_ne_nil _)
      | cons c cs =>
        have digit := Text.isDigit_of_mem_digits (n := n.natAbs) (c := c) (by simp [run])
        refine ⟨c, cs ++ rest, by simp, ?_, ?_⟩
        · simp only [isSpace, Bool.or_eq_false_iff, decide_eq_false_iff_not]
          refine ⟨⟨⟨?_, ?_⟩, ?_⟩, ?_⟩ <;> rintro rfl <;> exact absurd digit (by decide)
        · rintro rfl
          exact absurd digit (by decide)
  | .real _ | .illegible | .fragment _ => simp [isExact] at exact

theorem skipSpace_cons {c : Char} (plain : isSpace c = false) (cs : List Char) :
    skipSpace (c :: cs) = c :: cs := by
  simp [skipSpace, plain]

theorem skipSpace_write {value : Json} (exact : value.isExact = true) (rest : List Char) :
    skipSpace (value.write rest) = value.write rest := by
  obtain ⟨c, cs, text, plain, -⟩ := write_eq_cons exact rest
  rw [text, skipSpace_cons plain]

theorem skipSpace_writeString (text : String) (rest : List Char) :
    skipSpace (writeString text rest) = writeString text rest :=
  skipSpace_cons (by decide) _

theorem skipSpace_writeItems (items : List Json) (rest : List Char) :
    skipSpace (writeItems items rest) = writeItems items rest := by
  cases items <;> exact skipSpace_cons (by decide) _

theorem skipSpace_writeFields (fields : List (String × Json)) (rest : List Char) :
    skipSpace (writeFields fields rest) = writeFields fields rest := by
  cases fields <;> exact skipSpace_cons (by decide) _

mutual
theorem length_write (value : Json) (exact : value.isExact = true) (rest : List Char) :
    rest.length < (value.write rest).length := by
  match value with
  | .null | .bool true | .bool false | .array [] | .object [] =>
    simp only [write, List.length_cons]
    omega
  | .string text =>
    have text := length_writeString text rest
    rw [write]
    omega
  | .int n =>
    have digits := List.length_pos_iff.mpr (Text.digits_ne_nil n.natAbs)
    simp only [write, writeInt]
    split <;> simp only [List.length_cons, List.length_append] <;> omega
  | .array (item :: items) =>
    simp only [isExact, itemsExact, Bool.and_eq_true] at exact
    have first := length_write item exact.1 (writeItems items rest)
    have others := length_writeItems items exact.2 rest
    rw [write, List.length_cons]
    omega
  | .object ((name, value) :: fields) =>
    simp only [isExact, fieldsExact, Bool.and_eq_true] at exact
    have label := length_writeString name (':' :: value.write (writeFields fields rest))
    have first := length_write value exact.1 (writeFields fields rest)
    have others := length_writeFields fields exact.2 rest
    rw [List.length_cons] at label
    rw [write, List.length_cons]
    omega
  | .real _ | .illegible | .fragment _ => simp [isExact] at exact

theorem length_writeItems (items : List Json) (exact : itemsExact items = true)
    (rest : List Char) : rest.length < (writeItems items rest).length := by
  match items with
  | [] =>
    rw [writeItems, List.length_cons]
    omega
  | item :: items =>
    simp only [itemsExact, Bool.and_eq_true] at exact
    have first := length_write item exact.1 (writeItems items rest)
    have others := length_writeItems items exact.2 rest
    rw [writeItems, List.length_cons]
    omega

theorem length_writeFields (fields : List (String × Json)) (exact : fieldsExact fields = true)
    (rest : List Char) : rest.length < (writeFields fields rest).length := by
  match fields with
  | [] =>
    rw [writeFields, List.length_cons]
    omega
  | (name, value) :: fields =>
    simp only [fieldsExact, Bool.and_eq_true] at exact
    have label := length_writeString name (':' :: value.write (writeFields fields rest))
    have first := length_write value exact.1 (writeFields fields rest)
    have others := length_writeFields fields exact.2 rest
    rw [List.length_cons] at label
    rw [writeFields, List.length_cons]
    omega
end

theorem readValue_writeInt {n : Int} (least : -9223372036854775808 ≤ n)
    (most : n < 18446744073709551616) {rest : List Char} (ends : Delimited rest) (fuel : Nat) :
    readValue (fuel + 1) (writeInt n rest) = (.int n, some rest) := by
  have read := readNumber_writeInt least most ends
  have sign : ∃ c cs, writeInt n rest = c :: cs ∧ (c = '-' ∨ Text.isDigit c = true) := by
    unfold writeInt
    split
    · exact ⟨_, _, rfl, .inl rfl⟩
    · cases run : Text.digits n.natAbs with
      | nil => exact absurd run (Text.digits_ne_nil _)
      | cons c cs =>
        have mem : c ∈ Text.digits n.natAbs := by simp [run]
        exact ⟨c, cs ++ rest, rfl, .inr (Text.isDigit_of_mem_digits mem)⟩
  obtain ⟨c, cs, text, first⟩ := sign
  have other : ∀ d, Text.isDigit d = false → d ≠ '-' → c ≠ d := by
    rintro d letter mark rfl
    rcases first with minus | digit
    · exact mark minus
    · rw [letter] at digit
      cases digit
  rw [text] at read ⊢
  rw [readValue]
  · simp only [read]
  · exact fun _ same => absurd (List.cons.inj same).1 (other 'n' (by decide) (by decide))
  · exact fun _ same => absurd (List.cons.inj same).1 (other 't' (by decide) (by decide))
  · exact fun _ same => absurd (List.cons.inj same).1 (other 'f' (by decide) (by decide))
  · exact fun _ same => absurd (List.cons.inj same).1 (other '"' (by decide) (by decide))
  · exact fun _ same => absurd (List.cons.inj same).1 (other '[' (by decide) (by decide))
  · exact fun _ same => absurd (List.cons.inj same).1 (other '\x7b' (by decide) (by decide))

mutual
/-- A value reads back, whatever follows it. Each step of reading takes two units of fuel at most
for every character that it goes on by. -/
theorem readValue_write (value : Json) (exact : value.isExact = true) {rest : List Char}
    (ends : Delimited rest) (fuel : Nat)
    (enough : 2 * (value.write rest).length ≤ fuel + 2 * rest.length) :
    readValue fuel (value.write rest) = (value, some rest) := by
  have longer := length_write value exact rest
  obtain ⟨fuel, rfl⟩ : ∃ left, fuel = left + 1 := ⟨fuel - 1, by omega⟩
  match value with
  | .null | .bool true | .bool false => rfl
  | .array [] | .object [] =>
    simp only [write, readValue]
    rw [skipSpace_cons (by decide)]
    rfl
  | .string text =>
    have read := readString_writeString text rest
    simp only [write, writeString] at read ⊢
    simp only [readValue, read, Option.elim]
  | .int n =>
    simp only [isExact, Bool.and_eq_true, decide_eq_true_eq] at exact
    exact readValue_writeInt exact.1 exact.2 ends fuel
  | .array (item :: items) =>
    simp only [isExact, itemsExact, Bool.and_eq_true] at exact
    simp only [write, List.length_cons] at enough
    obtain ⟨c, cs, text, -, other⟩ := write_eq_cons exact.1 (writeItems items rest)
    have read := readItems_write item items exact.1 exact.2 ends fuel (by omega)
    rw [write, readValue, skipSpace_write exact.1]
    rw [text] at read ⊢
    split
    · rename_i closed
      exact absurd (List.cons.inj closed).1 other
    · simp only [read]
  | .object ((name, value) :: fields) =>
    simp only [isExact, fieldsExact, Bool.and_eq_true] at exact
    simp only [write, List.length_cons] at enough
    have read := readFields_write name value fields exact.1 exact.2 ends fuel (by omega)
    rw [write, readValue, skipSpace_writeString]
    rw [writeString] at read ⊢
    split
    · rename_i closed
      exact absurd (List.cons.inj closed).1 (by decide)
    · simp only [read, ofFields, if_true]
  | .real _ | .illegible | .fragment _ => simp [isExact] at exact
termination_by fuel

theorem readItems_write (item : Json) (items : List Json) (exact : item.isExact = true)
    (others : itemsExact items = true) {rest : List Char} (ends : Delimited rest) (fuel : Nat)
    (enough : 2 * (item.write (writeItems items rest)).length + 1 ≤ fuel + 2 * rest.length) :
    readItems fuel (item.write (writeItems items rest)) = (item :: items, some rest) := by
  have longer := length_write item exact (writeItems items rest)
  have longest := length_writeItems items others rest
  obtain ⟨fuel, rfl⟩ : ∃ left, fuel = left + 1 := ⟨fuel - 1, by omega⟩
  have first := readValue_write item exact (.writeItems items rest) fuel (by omega)
  rw [readItems, skipSpace_write exact]
  simp only [first, skipSpace_writeItems]
  match items with
  | [] => rfl
  | next :: more =>
    simp only [itemsExact, Bool.and_eq_true] at others
    simp only [writeItems, List.length_cons] at enough longer longest
    have read := readItems_write next more others.1 others.2 ends fuel (by omega)
    simp only [writeItems, read]
termination_by fuel

theorem readFields_write (name : String) (value : Json) (fields : List (String × Json))
    (exact : value.isExact = true) (others : fieldsExact fields = true) {rest : List Char}
    (ends : Delimited rest) (fuel : Nat)
    (enough : 2 * (writeString name (':' :: value.write (writeFields fields rest))).length + 1 ≤
      fuel + 2 * rest.length) :
    readFields fuel (writeString name (':' :: value.write (writeFields fields rest))) =
      (((name, value) :: fields, true), some rest) := by
  have label := length_writeString name (':' :: value.write (writeFields fields rest))
  have longer := length_write value exact (writeFields fields rest)
  have longest := length_writeFields fields others rest
  rw [List.length_cons] at label
  obtain ⟨fuel, rfl⟩ : ∃ left, fuel = left + 1 := ⟨fuel - 1, by omega⟩
  have first := readValue_write value exact (.writeFields fields rest) fuel (by omega)
  rw [readFields, skipSpace_writeString]
  simp only [readString_writeString, skipSpace_cons (show isSpace ':' = false by decide),
    skipSpace_write exact, first, skipSpace_writeFields]
  match fields with
  | [] => rfl
  | (other, next) :: more =>
    simp only [fieldsExact, Bool.and_eq_true] at others
    simp only [writeFields, List.length_cons] at enough label longer longest
    have read := readFields_write other next more others.1 others.2 ends fuel (by omega)
    simp only [writeFields, read, Fields.after]
termination_by fuel
end

/-- The text of a value is that of no other value, and nothing follows it. -/
theorem parse_render (value : Json) (exact : value.isExact = true) :
    parse value.render = (value, true) := by
  have read := readValue_write value exact .nil (2 * (value.write []).length + 1) (by simp)
  unfold parse render
  simp only [String.toList_ofList, skipSpace_write exact, read]
  rfl

end Json

/-- A value reads back from its text when its form reads back and is exact. -/
theorem decodeText_render {α : Type} [Codec α] {json : Json} {a : α} (exact : json.isExact = true)
    (read : decode json = .ok a) : decodeText α json.render = .ok a := by
  simp only [decodeText, Json.parse_render json exact, read, if_true]

end JourneyPlanner

import Mathlib
import JourneyPlanner.Badge.Colour
import JourneyPlanner.Proofs.Text.Hexadecimal

set_option autoImplicit false

/-!
The text of a colour and the number of its four channels. Six digits are read as eight that begin
with a full alpha, and it is from eight that a colour without transparency leaves out the first two.
-/
namespace JourneyPlanner

namespace Colour

/-! Reading what was written -/

theorem channel?_digits (channel : UInt8) :
    channel? (Text.hexDigit (channel.toNat / 16)) (Text.hexDigit (channel.toNat % 16)) =
      some channel := by
  have bounded := channel.toNat_lt
  have whole : channel.toNat / 16 * 16 + channel.toNat % 16 = channel.toNat := by omega
  simp only [channel?, Text.hexValue?_hexDigit (show channel.toNat / 16 < 16 by omega),
    Text.hexValue?_hexDigit (show channel.toNat % 16 < 16 by omega), Option.bind_eq_bind,
    Option.bind_some, Option.pure_def, whole, UInt8.ofNat_toNat]

theorem ofChars?_chars (c : Colour) : ofChars? c.chars = some c := by
  obtain ⟨alpha, red, green, blue⟩ := c
  unfold chars
  by_cases full : alpha = 0xFF
  · subst full
    simp only [if_true, channelText, List.cons_append, List.nil_append, ofChars?, channel?_digits,
      Option.bind_eq_bind, Option.bind_some, Option.pure_def, solid]
  · simp only [if_neg full, channelText, List.cons_append, List.nil_append, ofChars?,
      channel?_digits, Option.bind_eq_bind, Option.bind_some, Option.pure_def]

theorem ofText_text (c : Colour) : ofText c.text = .ok c := by
  rw [ofText, text, String.toList_ofList, ofChars?_chars]

/-! Numbers -/

theorem toNat_shifted (channel : UInt8) {places : UInt32} (fits : places.toNat ≤ 24) :
    (channel.toUInt32 <<< places).toNat = 2 ^ places.toNat * channel.toNat := by
  have room : 2 ^ places.toNat ≤ 2 ^ 24 := Nat.pow_le_pow_right (by decide) fits
  have small : channel.toNat * 2 ^ places.toNat < 2 ^ 8 * 2 ^ 24 :=
    Nat.mul_lt_mul_of_lt_of_le channel.toNat_lt room (by decide)
  rw [UInt32.toNat_shiftLeft, UInt8.toNat_toUInt32, Nat.shiftLeft_eq,
    Nat.mod_eq_of_lt (show places.toNat < 32 by omega),
    Nat.mod_eq_of_lt (show _ < 2 ^ 32 from small), Nat.mul_comm]

/-- The channels do not overlap, so to join them is to add them up. -/
theorem toNat_argb (c : Colour) :
    c.argb.toNat =
      2 ^ 24 * c.alpha.toNat + 2 ^ 16 * c.red.toNat + 2 ^ 8 * c.green.toNat + c.blue.toNat := by
  have red := c.red.toNat_lt
  have green := c.green.toNat_lt
  have blue := c.blue.toNat_lt
  have joined : c.argb.toNat = (2 ^ 24 * c.alpha.toNat ||| 2 ^ 16 * c.red.toNat |||
      2 ^ 8 * c.green.toNat ||| c.blue.toNat) := by
    rw [argb, UInt32.toNat_or, UInt32.toNat_or, UInt32.toNat_or, toNat_shifted _ (by decide),
      toNat_shifted _ (by decide), toNat_shifted _ (by decide), UInt8.toNat_toUInt32]
    rfl
  have upper : (2 ^ 24 * c.alpha.toNat ||| 2 ^ 16 * c.red.toNat) =
      2 ^ 16 * (2 ^ 8 * c.alpha.toNat + c.red.toNat) := by
    rw [← Nat.two_pow_add_eq_or_of_lt (by omega)]
    omega
  have middle : (2 ^ 16 * (2 ^ 8 * c.alpha.toNat + c.red.toNat) ||| 2 ^ 8 * c.green.toNat) =
      2 ^ 8 * (2 ^ 16 * c.alpha.toNat + 2 ^ 8 * c.red.toNat + c.green.toNat) := by
    rw [← Nat.two_pow_add_eq_or_of_lt (by omega)]
    omega
  rw [joined, upper, middle, ← Nat.two_pow_add_eq_or_of_lt blue]
  omega

theorem argb_injective : Function.Injective argb := by
  intro c d same
  have numbers := congrArg UInt32.toNat same
  rw [toNat_argb, toNat_argb] at numbers
  have red := c.red.toNat_lt
  have redToo := d.red.toNat_lt
  have green := c.green.toNat_lt
  have greenToo := d.green.toNat_lt
  have blue := c.blue.toNat_lt
  have blueToo := d.blue.toNat_lt
  cases c
  cases d
  simp only [mk.injEq, ← UInt8.toNat_inj] at *
  omega

/-- The channels of a number are its digits to the base two hundred and fifty-six. -/
theorem argb_surjective : Function.Surjective argb := by
  intro n
  have bounded := n.toNat_lt
  refine ⟨⟨.ofNat (n.toNat / 2 ^ 24), .ofNat (n.toNat / 2 ^ 16), .ofNat (n.toNat / 2 ^ 8),
    .ofNat n.toNat⟩, ?_⟩
  rw [← UInt32.toNat_inj, toNat_argb]
  simp only [UInt8.toNat_ofNat']
  omega

/-! Reading -/

/-- A hash sign and hexadecimal digits, the letters of either case. -/
def HexText (s : String) (digits : List Char) : Prop :=
  s.toList = '#' :: digits ∧ ∀ d ∈ digits, Text.IsHexDigit d

/-- The number of the colour that a text writes. Six digits write one that is not transparent. -/
inductive Denotes (s : String) : Nat → Prop where
  | solid {digits : List Char} (written : HexText s digits) (six : digits.length = 6) :
      Denotes s (0xFF000000 + Text.hexNumber digits)
  | full {digits : List Char} (written : HexText s digits) (eight : digits.length = 8) :
      Denotes s (Text.hexNumber digits)

theorem channel?_eq_some_iff {high low : Char} {channel : UInt8} :
    channel? high low = some channel ↔
      Text.IsHexDigit high ∧ Text.IsHexDigit low ∧
        channel.toNat = 16 * Text.hexWorth high + Text.hexWorth low := by
  simp only [channel?, Option.bind_eq_bind, Option.bind_eq_some_iff, Text.hexValue?_eq_some_iff,
    Option.pure_def, Option.some.injEq]
  constructor
  · rintro ⟨_, ⟨highDigit, rfl⟩, _, ⟨lowDigit, rfl⟩, rfl⟩
    have highSmall := Text.hexWorth_lt highDigit
    have lowSmall := Text.hexWorth_lt lowDigit
    refine ⟨highDigit, lowDigit, ?_⟩
    rw [UInt8.toNat_ofNat']
    omega
  · rintro ⟨highDigit, lowDigit, number⟩
    refine ⟨_, ⟨highDigit, rfl⟩, _, ⟨lowDigit, rfl⟩, ?_⟩
    rw [Nat.mul_comm, ← number, UInt8.ofNat_toNat]

theorem exists_channel? {high low : Char} (highDigit : Text.IsHexDigit high)
    (lowDigit : Text.IsHexDigit low) : ∃ channel, channel? high low = some channel := by
  have highSmall := Text.hexWorth_lt highDigit
  have lowSmall := Text.hexWorth_lt lowDigit
  refine ⟨.ofNat (16 * Text.hexWorth high + Text.hexWorth low), ?_⟩
  rw [channel?_eq_some_iff, UInt8.toNat_ofNat']
  exact ⟨highDigit, lowDigit, by omega⟩

theorem channelText_of_channel? {high low : Char} {channel : UInt8}
    (read : channel? high low = some channel) :
    channelText channel = [high.toLower, low.toLower] := by
  obtain ⟨highDigit, lowDigit, number⟩ := channel?_eq_some_iff.mp read
  have lowSmall := Text.hexWorth_lt lowDigit
  have upper : channel.toNat / 16 = Text.hexWorth high := by omega
  have lower : channel.toNat % 16 = Text.hexWorth low := by omega
  rw [channelText, upper, lower, Text.hexDigit_hexWorth highDigit, Text.hexDigit_hexWorth lowDigit]

/-- All four channels, also where the alpha says nothing. -/
def fullChars (c : Colour) : List Char :=
  '#' :: (channelText c.alpha ++ channelText c.red ++ channelText c.green ++ channelText c.blue)

/-- Eight digits write the number of the colour, whose channels are written with their small
forms. -/
theorem exists_ofChars?_eight {digits : List Char} (hex : ∀ d ∈ digits, Text.IsHexDigit d)
    (eight : digits.length = 8) :
    ∃ c, ofChars? ('#' :: digits) = some c ∧ c.argb.toNat = Text.hexNumber digits ∧
      c.fullChars = '#' :: digits.map Char.toLower := by
  match digits, eight with
  | [a, b, c, d, e, f, g, h], _ =>
    simp only [List.forall_mem_cons] at hex
    obtain ⟨first, second, third, fourth, fifth, sixth, seventh, eighth, -⟩ := hex
    obtain ⟨alpha, readAlpha⟩ := exists_channel? first second
    obtain ⟨red, readRed⟩ := exists_channel? third fourth
    obtain ⟨green, readGreen⟩ := exists_channel? fifth sixth
    obtain ⟨blue, readBlue⟩ := exists_channel? seventh eighth
    refine ⟨⟨alpha, red, green, blue⟩, ?_, ?_, ?_⟩
    · simp only [ofChars?, readAlpha, readRed, readGreen, readBlue, Option.bind_eq_bind,
        Option.bind_some, Option.pure_def]
    · rw [toNat_argb, (channel?_eq_some_iff.mp readAlpha).2.2,
        (channel?_eq_some_iff.mp readRed).2.2, (channel?_eq_some_iff.mp readGreen).2.2,
        (channel?_eq_some_iff.mp readBlue).2.2]
      simp only [Text.hexNumber, List.foldl_cons, List.foldl_nil]
      omega
    · rw [fullChars, channelText_of_channel? readAlpha, channelText_of_channel? readRed,
        channelText_of_channel? readGreen, channelText_of_channel? readBlue]
      rfl

theorem isHexDigit_of_ofChars?_eight {digits : List Char} {c : Colour}
    (read : ofChars? ('#' :: digits) = some c) (eight : digits.length = 8) :
    ∀ d ∈ digits, Text.IsHexDigit d := by
  match digits, eight with
  | [_, _, _, _, _, _, _, _], _ =>
    simp only [ofChars?, Option.bind_eq_bind, Option.bind_eq_some_iff,
      channel?_eq_some_iff] at read
    obtain ⟨_, ⟨first, second, -⟩, _, ⟨third, fourth, -⟩, _, ⟨fifth, sixth, -⟩, _,
      ⟨seventh, eighth, -⟩, -⟩ := read
    simp only [List.forall_mem_cons]
    exact ⟨first, second, third, fourth, fifth, sixth, seventh, eighth, List.forall_mem_nil _⟩

theorem ofChars?_six {digits : List Char} (six : digits.length = 6) :
    ofChars? ('#' :: digits) = ofChars? ('#' :: 'f' :: 'f' :: digits) := by
  match digits, six with
  | [_, _, _, _, _, _], _ => rfl

theorem hexNumber_fullAlpha {digits : List Char} (six : digits.length = 6) :
    Text.hexNumber ('f' :: 'f' :: digits) = 0xFF000000 + Text.hexNumber digits := by
  have worth : Text.hexWorth 'f' = 15 := by decide
  match digits, six with
  | [_, _, _, _, _, _], _ =>
    simp only [Text.hexNumber, List.foldl_cons, List.foldl_nil, worth]
    omega

theorem exists_digits_of_ofChars? {cs : List Char} {c : Colour} (read : ofChars? cs = some c) :
    ∃ digits, cs = '#' :: digits ∧ (digits.length = 6 ∨ digits.length = 8) := by
  unfold ofChars? at read
  split at read
  · exact ⟨_, rfl, .inl rfl⟩
  · exact ⟨_, rfl, .inr rfl⟩
  · cases read

theorem ofText_eq_ok_iff {s : String} {c : Colour} :
    ofText s = .ok c ↔ ofChars? s.toList = some c := by
  unfold ofText
  cases ofChars? s.toList with
  | none => simp
  | some d => simp

theorem exists_denotes {s : String} {c : Colour} (accepted : ofText s = .ok c) :
    ∃ n, Denotes s n := by
  have read := ofText_eq_ok_iff.mp accepted
  obtain ⟨digits, chars, six | eight⟩ := exists_digits_of_ofChars? read
  · rw [chars, ofChars?_six six] at read
    have hex := isHexDigit_of_ofChars?_eight read (by simp [six])
    exact ⟨_, .solid ⟨chars, (List.forall_mem_cons.mp (List.forall_mem_cons.mp hex).2).2⟩ six⟩
  · rw [chars] at read
    exact ⟨_, .full ⟨chars, isHexDigit_of_ofChars?_eight read eight⟩ eight⟩

/-! Writing -/

/-- A full alpha is left out in front of three channels. -/
def withoutFullAlpha : List Char → List Char
  | ['#', 'f', 'f', a, b, c, d, e, f] => ['#', a, b, c, d, e, f]
  | cs => cs

/-- Six digits with a full alpha in front lose it, and six alone keep what they have. -/
theorem withoutFullAlpha_six {digits : List Char} (six : digits.length = 6) :
    withoutFullAlpha ('#' :: 'f' :: 'f' :: digits) = withoutFullAlpha ('#' :: digits) := by
  match digits, six with
  | [a, b, c, d, e, f], _ => simp [withoutFullAlpha]

theorem chars_eq (c : Colour) : c.chars = withoutFullAlpha c.fullChars := by
  by_cases full : c.alpha = 0xFF
  · have alpha : channelText c.alpha = ['f', 'f'] := by
      rw [full]
      rfl
    rw [chars, if_pos full, fullChars, alpha]
    simp [withoutFullAlpha, channelText]
  · have other : ¬ (Text.hexDigit (c.alpha.toNat / 16) = 'f' ∧
        Text.hexDigit (c.alpha.toNat % 16) = 'f') := by
      rintro ⟨high, low⟩
      have read := channel?_digits c.alpha
      rw [high, low] at read
      exact full (Option.some.inj read).symm
    rw [chars, if_neg full, fullChars]
    simp only [channelText, List.cons_append, List.nil_append]
    unfold withoutFullAlpha
    split
    · rename_i same
      simp only [List.cons.injEq, true_and] at same
      exact absurd ⟨same.1, same.2.1⟩ other
    · rfl

theorem toList_lowercase {s : String} {digits : List Char} (written : HexText s digits) :
    (Text.lowercase s).toList = '#' :: digits.map Char.toLower := by
  obtain ⟨chars, hex⟩ := written
  have plain : ∀ c ∈ s.toList, c.toNat < 128 := by
    rw [chars]
    exact List.forall_mem_cons.mpr ⟨by decide, fun d mem => Text.plain_of_isHexDigit (hex d mem)⟩
  rw [Text.lowercase, String.toList_ofList, Text.lowerFrom_plain [] plain, chars]
  rfl

/-- A text that writes a number is read as the colour of that number, which is written back in small
letters. -/
theorem exists_of_denotes {s : String} {n : Nat} (denotes : Denotes s n) :
    ∃ c, ofText s = .ok c ∧ c.argb.toNat = n ∧
      c.text.toList = withoutFullAlpha (Text.lowercase s).toList := by
  cases denotes with
  | @solid digits written six =>
    have hex : ∀ d ∈ 'f' :: 'f' :: digits, Text.IsHexDigit d :=
      List.forall_mem_cons.mpr ⟨by decide, List.forall_mem_cons.mpr ⟨by decide, written.2⟩⟩
    obtain ⟨c, read, number, chars⟩ := exists_ofChars?_eight hex (by simp [six])
    refine ⟨c, ?_, ?_, ?_⟩
    · rw [ofText_eq_ok_iff, written.1, ofChars?_six six, read]
    · rw [number, hexNumber_fullAlpha six]
    · rw [text, String.toList_ofList, chars_eq, chars, toList_lowercase written]
      exact withoutFullAlpha_six (by simp [six])
  | @full digits written eight =>
    obtain ⟨c, read, number, chars⟩ := exists_ofChars?_eight written.2 eight
    refine ⟨c, ?_, number, ?_⟩
    · rw [ofText_eq_ok_iff, written.1, read]
    · rw [text, String.toList_ofList, chars_eq, chars, toList_lowercase written]

theorem ofText_eq_ok_iff_denotes {s : String} {c : Colour} :
    ofText s = .ok c ↔ Denotes s c.argb.toNat := by
  constructor
  · intro read
    obtain ⟨n, denotes⟩ := exists_denotes read
    obtain ⟨d, readToo, number, -⟩ := exists_of_denotes denotes
    rw [read, Except.ok.injEq] at readToo
    rwa [readToo, number]
  · intro denotes
    obtain ⟨d, read, number, -⟩ := exists_of_denotes denotes
    rw [read, argb_injective (UInt32.toNat_inj.mp number)]

theorem ofText_eq_error_iff {s : String} {e : ColourError} :
    ofText s = .error e ↔ e = .invalid s ∧ ∀ n, ¬ Denotes s n := by
  constructor
  · intro refused
    refine ⟨?_, fun n denotes => ?_⟩
    · unfold ofText at refused
      split at refused
      · cases refused
      · exact (Except.error.inj refused).symm
    · obtain ⟨c, read, -⟩ := exists_of_denotes denotes
      rw [refused] at read
      cases read
  · rintro ⟨rfl, nothing⟩
    cases read : ofChars? s.toList with
    | none => rw [ofText, read]
    | some c =>
      obtain ⟨n, denotes⟩ := exists_denotes (ofText_eq_ok_iff.mpr read)
      exact absurd denotes (nothing n)

/-- Every number of thirty-two bits is that of one colour. A text is read as the colour whose number
it writes, and refused where it writes none. Every colour is read from its text, and what was read
is written as it stood but for capitals and for an alpha that says nothing. -/
theorem text_exact :
    Function.Bijective argb ∧
      (∀ s c, ofText s = .ok c ↔ Denotes s c.argb.toNat) ∧
      (∀ s e, ofText s = .error e ↔ e = .invalid s ∧ ∀ n, ¬ Denotes s n) ∧
      (∀ c : Colour, ofText c.text = .ok c) ∧
      ∀ s c, ofText s = .ok c →
        c.text.toList = withoutFullAlpha (Text.lowercase s).toList := by
  refine ⟨⟨argb_injective, argb_surjective⟩, fun s c => ofText_eq_ok_iff_denotes,
    fun s e => ofText_eq_error_iff, ofText_text, fun s c read => ?_⟩
  obtain ⟨d, readToo, -, written⟩ := exists_of_denotes (ofText_eq_ok_iff_denotes.mp read)
  rw [read, Except.ok.injEq] at readToo
  rwa [readToo]

end Colour

end JourneyPlanner

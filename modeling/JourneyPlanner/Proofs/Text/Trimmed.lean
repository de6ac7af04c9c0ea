import Mathlib
import JourneyPlanner.Text.Blank
import JourneyPlanner.Text.Lowercase

set_option autoImplicit false

/-!
The small forms of texts, and texts without the white space around them. Only the capital sigma
looks at its neighbours for its small form, which is one character either way, so the small form of
a text is as long as those of its parts. What is cut off a text is missing in its small form too, so
a text has the small form of what is left of it only if nothing is cut off.
-/
namespace JourneyPlanner.Text

/-! Small letters -/

/-- How many characters the small form of one has. -/
def smallLength (c : Char) : Nat :=
  if c.toNat = 0x3A3 then 1 else (lowerChar c).length

theorem smallLength_pos (c : Char) : 0 < smallLength c := by
  unfold smallLength lowerChar
  split
  · exact Nat.one_pos
  · split
    · exact Nat.two_pos
    · split <;> exact Nat.one_pos

theorem eq_nil_of_smallLength {cs : List Char} (nothing : (cs.map smallLength).sum = 0) :
    cs = [] := by
  cases cs with
  | nil => rfl
  | cons c rest =>
    have long := smallLength_pos c
    rw [List.map_cons, List.sum_cons] at nothing
    omega

/-- By induction on the text, with the characters passed so far general. -/
theorem length_lowerFrom (before cs : List Char) :
    (lowerFrom before cs).length = (cs.map smallLength).sum := by
  induction cs generalizing before with
  | nil => rfl
  | cons c rest ih =>
    rw [lowerFrom, List.length_append, ih, List.map_cons, List.sum_cons, smallLength]
    split <;> rfl

theorem length_lowercase (text : String) :
    (lowercase text).toList.length = (text.toList.map smallLength).sum := by
  rw [lowercase, String.toList_ofList, length_lowerFrom]

theorem length_lowercase_append (a b : String) :
    (lowercase (a ++ b)).toList.length =
      (lowercase a).toList.length + (lowercase b).toList.length := by
  simp only [length_lowercase, String.toList_append, List.map_append, List.sum_append]

theorem lowercase_ne_empty {text : String} (some : text ≠ "") : lowercase text ≠ "" := by
  intro empty
  have none : (text.toList.map smallLength).sum = 0 := by
    rw [← length_lowercase, empty]
    rfl
  exact some (String.toList_eq_nil_iff.mp (eq_nil_of_smallLength none))

/-! White space around a text -/

@[simp] theorem toList_trim (text : String) : (trim text).toList = trimChars text.toList :=
  String.toList_ofList

theorem trim_of_isBlankText {text : String} (blank : isBlankText text = true) :
    trim text = "" := by
  have nothing : text.toList.dropWhile isBlank = [] :=
    List.dropWhile_eq_nil_iff.mpr (List.all_eq_true.mp blank)
  rw [trim, trimChars, nothing]
  rfl

/-- What blanks are dropped from twice was all blank where nothing is left of it. -/
theorem all_isBlank_of_trimChars {cs : List Char} (nothing : trimChars cs = []) :
    cs.all isBlank = true := by
  have blank : ∀ c ∈ cs.dropWhile isBlank, isBlank c = true :=
    List.rdropWhile_eq_nil_iff.mp nothing
  have left : cs.dropWhile isBlank = [] := by
    rw [← List.dropWhile_idempotent isBlank]
    exact List.dropWhile_eq_nil_iff.mpr blank
  exact List.all_eq_true.mpr (List.dropWhile_eq_nil_iff.mp left)

theorem trim_ne_empty {text : String} (shown : isBlankText text = false) : trim text ≠ "" := by
  intro empty
  have nothing : trimChars text.toList = [] := by
    rw [← toList_trim, empty]
    rfl
  have blank : isBlankText text = true := all_isBlank_of_trimChars nothing
  rw [shown] at blank
  cases blank

theorem exists_around (cs : List Char) : ∃ before after, cs = before ++ trimChars cs ++ after := by
  obtain ⟨before, front⟩ := List.dropWhile_suffix isBlank (l := cs)
  obtain ⟨after, back⟩ := List.rdropWhile_prefix isBlank (cs.dropWhile isBlank)
  refine ⟨before, after, ?_⟩
  have left : trimChars cs ++ after = cs.dropWhile isBlank := back
  rw [List.append_assoc, left, front]

/-- Up to a visible character only what stands before it is cut off, if another one ends the
text. -/
theorem trimChars_append {before shown : List Char}
    (starts : shown.head?.any (fun c => !isBlank c) = true)
    (ends : shown.getLast?.any (fun c => !isBlank c) = true) :
    trimChars (before ++ shown) = before.dropWhile isBlank ++ shown := by
  have kept : ∀ cs : List Char, cs.head?.any (fun c => !isBlank c) = true →
      cs.dropWhile isBlank = cs := by
    intro cs visible
    cases cs with
    | nil => rfl
    | cons c rest =>
      apply List.dropWhile_cons_of_neg
      simpa using visible
  have front : (before ++ shown).dropWhile isBlank = before.dropWhile isBlank ++ shown := by
    rw [List.dropWhile_append, kept shown starts]
    split
    · rename_i nothing
      rw [List.isEmpty_iff.mp nothing, List.nil_append]
    · rfl
  have back : (before.dropWhile isBlank ++ shown).reverse.head?.any (fun c => !isBlank c) =
      true := by
    rw [List.head?_reverse, List.getLast?_append]
    cases last : shown.getLast? with
    | none =>
      rw [last] at ends
      cases ends
    | some c =>
      rw [last] at ends
      exact ends
  rw [trimChars, front, kept _ back, List.reverse_reverse]

/-- A text is known from what is left of it by the length of the small form. -/
theorem lowercase_trim_iff (text : String) :
    lowercase (trim text) = lowercase text ↔ trim text = text := by
  constructor
  · intro same
    obtain ⟨before, after, around⟩ := exists_around text.toList
    have short := length_lowercase (trim text)
    have long := length_lowercase text
    rw [same, toList_trim] at short
    rw [around, List.map_append, List.map_append, List.sum_append, List.sum_append] at long
    have front : before = [] := eq_nil_of_smallLength (by omega)
    have back : after = [] := eq_nil_of_smallLength (by omega)
    rw [front, back, List.nil_append, List.append_nil] at around
    apply String.toList_inj.mp
    rw [toList_trim]
    exact around.symm
  · intro same
    rw [same]

theorem length_lowercase_trim_le (text : String) :
    (lowercase (trim text)).toList.length ≤ (lowercase text).toList.length := by
  obtain ⟨before, after, around⟩ := exists_around text.toList
  rw [length_lowercase, length_lowercase, toList_trim]
  conv_rhs => rw [around, List.map_append, List.map_append, List.sum_append, List.sum_append]
  omega

end JourneyPlanner.Text

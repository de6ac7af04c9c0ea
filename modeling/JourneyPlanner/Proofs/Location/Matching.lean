import Mathlib
import JourneyPlanner.Proofs.Text.Trimmed
import JourneyPlanner.Timetable.Suggesting

set_option autoImplicit false

/-!
Which texts a place answers: its id, whatever stands in its name, and what its name begins with
after its place.
-/
namespace JourneyPlanner

namespace Text

/-! Searching -/

theorem occursIn_iff_infix {needle cs : List Char} :
    occursIn needle cs = true ↔ needle <:+: cs := by
  induction cs with
  | nil => rw [occursIn, List.isEmpty_iff, List.infix_nil]
  | cons c rest ih =>
    rw [occursIn, Bool.or_eq_true, List.isPrefixOf_iff_prefix, ih, List.infix_cons_iff]

/-- There is always a first word, though it may be empty, and the text begins with it. -/
theorem exists_words (cs : List Char) :
    ∃ first others, words cs = first :: others ∧ first <+: cs ∧ ∀ word ∈ others, word <:+: cs := by
  induction cs with
  | nil => exact ⟨[], [], rfl, List.nil_prefix, fun _ mem => absurd mem List.not_mem_nil⟩
  | cons c rest ih =>
    obtain ⟨first, others, split, begins, inside⟩ := ih
    have later : ∀ word ∈ others, word <:+: c :: rest := fun word mem =>
      List.infix_cons (inside word mem)
    rw [words, split]
    by_cases spoken : isAlphanumeric c = true
    · exact ⟨c :: first, others, if_pos spoken, (List.prefix_cons_inj c).mpr begins, later⟩
    · refine ⟨[], first :: others, if_neg spoken, List.nil_prefix, fun word mem => ?_⟩
      rcases List.mem_cons.mp mem with rfl | mem
      · exact List.infix_cons begins.isInfix
      · exact later word mem

theorem infix_of_mem_words {cs word : List Char} (mem : word ∈ words cs) : word <:+: cs := by
  obtain ⟨first, others, split, begins, inside⟩ := exists_words cs
  rw [split] at mem
  rcases List.mem_cons.mp mem with rfl | mem
  · exact begins.isInfix
  · exact inside word mem

end Text

namespace Location

variable {l : Location} {needle name place : String}

/-- The id of the place, but for capitals, is the text in small letters. -/
def HasId (needle : String) (l : Location) : Prop :=
  ∃ id, l.id = some id ∧ Text.lowercase id = needle

/-- The name of the place, but for capitals, is the text in small letters. -/
def IsNamed (needle : String) (l : Location) : Prop :=
  ∃ name, l.name = some name ∧ Text.lowercase name = needle

/-- The name says little by itself, and after its place and a comma it is the text in small
letters, but for capitals. -/
def IsNamedInFull (needle : String) (l : Location) : Prop :=
  ∃ place name, l.place = some place ∧ l.name = some name ∧ name ∈ commonNames ∧
    Text.lowercase (place ++ ", " ++ name) = needle

/-- The text in small letters is the id of the place, or it stands in its name, or with its place
before it the name begins so, all but for capitals. -/
def Answers (needle : String) (l : Location) : Prop :=
  l.HasId needle ∨ ∃ name, l.name = some name ∧
    (needle.toList <:+: (Text.lowercase name).toList ∨ ∃ place, l.place = some place ∧
      needle.toList <+: (Text.lowercase place).toList ++ ' ' :: (Text.lowercase name).toList)

theorem hasId_iff :
    l.HasId needle ↔ l.id.any (fun id => Text.lowercase id = needle) = true := by
  simp only [HasId, Option.any_eq_true, decide_eq_true_eq]

theorem mem_searchedNames {searched : List Char} :
    searched ∈ l.searchedNames name ↔ searched = (Text.lowercase name).toList ∨
      ∃ place, l.place = some place ∧
        searched = (Text.lowercase place).toList ++ ' ' :: (Text.lowercase name).toList := by
  unfold searchedNames
  cases l.place with
  | none => simp
  | some place => simp

/-- The four ways to answer by the name come down to two: the text stands in the name, or one of the
names that are searched begins with it. -/
theorem isSome_matchPriority_of_name (other : ¬ l.HasId needle) (named : l.name = some name) :
    (l.matchPriority needle).isSome = true ↔
      needle.toList <:+: (Text.lowercase name).toList ∨
        ∃ searched ∈ l.searchedNames name, needle.toList <+: searched := by
  rw [hasId_iff] at other
  rw [matchPriority, if_neg other, named]
  simp only
  split
  · rename_i whole
    obtain ⟨searched, mem, same⟩ := List.any_eq_true.mp whole
    have same : searched = needle.toList := of_decide_eq_true same
    exact iff_of_true rfl (.inr ⟨searched, mem, same ▸ List.prefix_refl _⟩)
  · split
    · rename_i beginning
      obtain ⟨searched, mem, begins⟩ := List.any_eq_true.mp beginning
      exact iff_of_true rfl (.inr ⟨searched, mem, List.isPrefixOf_iff_prefix.mp begins⟩)
    · rename_i otherwise
      have never : ¬ ∃ searched ∈ l.searchedNames name, needle.toList <+: searched := by
        rintro ⟨searched, mem, begins⟩
        exact otherwise
          (List.any_eq_true.mpr ⟨searched, mem, List.isPrefixOf_iff_prefix.mpr begins⟩)
      split
      · rename_i spoken
        obtain ⟨word, mem, begins⟩ := List.any_eq_true.mp spoken
        have inside := (List.isPrefixOf_iff_prefix.mp begins).isInfix
        exact iff_of_true rfl (.inl (inside.trans (Text.infix_of_mem_words mem)))
      · rw [or_iff_left never, ← Text.occursIn_iff_infix]
        split
        · rename_i inside
          exact iff_of_true rfl inside
        · rename_i outside
          exact iff_of_false Bool.false_ne_true outside

theorem isSome_matchPriority_iff : (l.matchPriority needle).isSome = true ↔ l.Answers needle := by
  unfold Answers
  by_cases known : l.HasId needle
  · refine iff_of_true ?_ (.inl known)
    rw [matchPriority, if_pos (hasId_iff.mp known)]
    rfl
  · cases named : l.name with
    | none =>
      rw [matchPriority, if_neg (mt hasId_iff.mpr known), named]
      simp [known]
    | some name =>
      rw [isSome_matchPriority_of_name known named, or_iff_right known]
      simp only [Option.some.injEq, exists_eq_left', mem_searchedNames]
      constructor
      · rintro (inside | ⟨searched, rfl | ⟨place, located, rfl⟩, begins⟩)
        · exact .inl inside
        · exact .inl begins.isInfix
        · exact .inr ⟨place, located, begins⟩
      · rintro (inside | ⟨place, located, begins⟩)
        · exact .inl inside
        · exact .inr ⟨_, .inr ⟨place, located, rfl⟩, begins⟩

theorem answers_of_isNamed (named : l.IsNamed needle) : l.Answers needle := by
  obtain ⟨name, some, rfl⟩ := named
  exact .inr ⟨name, some, .inl (List.infix_refl _)⟩

/-- The comma makes the full name longer than anything that is searched. -/
theorem hasId_of_isNamedInFull (full : l.IsNamedInFull needle) (answers : l.Answers needle) :
    l.HasId needle := by
  obtain ⟨place, name, located, named, -, rfl⟩ := full
  have length : (Text.lowercase (place ++ ", " ++ name)).toList.length =
      (Text.lowercase place).toList.length + 2 + (Text.lowercase name).toList.length := by
    rw [Text.length_lowercase_append, Text.length_lowercase_append]
    rfl
  rcases answers with known | ⟨other, some, searched⟩
  · exact known
  · rw [named, Option.some.injEq] at some
    subst some
    exfalso
    rcases searched with inside | ⟨other, some, begins⟩
    · have short := inside.length_le
      omega
    · rw [located, Option.some.injEq] at some
      subst some
      have short := begins.length_le
      rw [List.length_append, List.length_cons] at short
      omega

end Location

end JourneyPlanner

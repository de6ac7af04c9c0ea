import Mathlib
import JourneyPlanner.Proofs.Timetable.Loaded

set_option autoImplicit false

/-!
What comes of a document as a whole. Its records can only be skipped, so all that keeps it from
making a timetable are three details of its own: the name of the network, the period that it covers,
and a least time for changes that is longer than any span of time. For the last of them there is no
rule by which a document is refused, though it can be read from one.
-/
namespace JourneyPlanner

namespace Time

/-- The longest span of whole minutes. -/
def greatestMinutes : Int := 153722867280912

theorem minutes?_of_le {n : Int} (nonneg : 0 ≤ n) (short : n ≤ greatestMinutes) :
    minutes? n = some (n * nanosPerMinute) := by
  have inside : n * 60 * 1000 ≤ greatestMillis ∧ -greatestMillis ≤ n * 60 * 1000 := by
    unfold greatestMinutes at short
    unfold greatestMillis
    omega
  rw [minutes?, if_pos inside]

theorem minutes?_of_lt {n : Int} (long : greatestMinutes < n) : minutes? n = none := by
  have outside : ¬ (n * 60 * 1000 ≤ greatestMillis ∧ -greatestMillis ≤ n * 60 * 1000) := by
    unfold greatestMinutes at long
    unfold greatestMillis
    omega
  rw [minutes?, if_neg outside]

end Time

namespace TimetableFile

/-- The network has a name, and the period does not end before it begins. -/
structure IsSound (file : TimetableFile) : Prop where
  named : Text.isBlankText file.network = false
  forwards : ¬ file.validUntil < file.validFrom

/-- The least time for changes is longer than any span of time. -/
def IsOverlong (file : TimetableFile) : Prop :=
  Time.greatestMinutes < file.minChangeMinutes.toInt

/-- What comes of the document. -/
structure EndsIn (file : TimetableFile) (outcome : Except LoadError Timetable) : Prop where
  possible : (∃ tt, outcome = .ok tt) ∨ outcome = .error .blankNetwork ∨
    outcome = .error .invalidWindow ∨ outcome = .error .changeTooLong
  blank : outcome = .error .blankNetwork ↔ Text.isBlankText file.network = true
  backwards : outcome = .error .invalidWindow ↔
    Text.isBlankText file.network = false ∧ file.validUntil < file.validFrom
  overlong : outcome = .error .changeTooLong ↔ file.IsSound ∧ file.IsOverlong
  loaded : (∃ tt, outcome = .ok tt) ↔ file.IsSound ∧ ¬ file.IsOverlong
  /-- A time below zero counts as none. -/
  minChange : ∀ tt, outcome = .ok tt →
    tt.minChange = max 0 file.minChangeMinutes.toInt * Time.nanosPerMinute

end TimetableFile

namespace Timetable

variable {file : TimetableFile}

theorem minChangeOf_of_short (short : ¬ file.IsOverlong) :
    minChangeOf file = some (max 0 file.minChangeMinutes.toInt * Time.nanosPerMinute) := by
  apply Time.minutes?_of_le (Int.le_max_left ..)
  unfold TimetableFile.IsOverlong at short
  exact Int.max_le.mpr ⟨by decide, Int.not_lt.mp short⟩

theorem minChangeOf_of_overlong (long : file.IsOverlong) : minChangeOf file = none :=
  Time.minutes?_of_lt (Int.lt_of_lt_of_le long (Int.le_max_right ..))

theorem ofFile_of_blank (blank : Text.isBlankText file.network = true) :
    (ofFile file).value = .error .blankNetwork := by
  unfold ofFile
  rw [if_pos blank]
  rfl

theorem ofFile_of_backwards (named : Text.isBlankText file.network = false)
    (backwards : file.validUntil < file.validFrom) :
    (ofFile file).value = .error .invalidWindow := by
  unfold ofFile
  rw [named, if_neg Bool.false_ne_true, if_pos backwards]
  rfl

theorem ofFile_of_overlong (sound : file.IsSound) (long : file.IsOverlong) :
    (ofFile file).value = .error .changeTooLong := by
  unfold ofFile
  rw [sound.named, if_neg Bool.false_ne_true, if_neg sound.forwards, minChangeOf_of_overlong long]
  rfl

theorem ofFile_of_short (sound : file.IsSound) (short : ¬ file.IsOverlong) :
    (ofFile file).value = .ok (assembled file
      (max 0 file.minChangeMinutes.toInt * Time.nanosPerMinute) file.loadedPlaces.value
        file.loadedServices.value) :=
  ofFile_eq_ok_iff.mpr ⟨sound.named, sound.forwards, _, minChangeOf_of_short short, rfl⟩

/-- A document makes a timetable or is refused for its network or its period, whatever its records
are like, unless its least time for changes is longer than any span of time. -/
theorem ofFile_endsIn (file : TimetableFile) : file.EndsIn (ofFile file).value := by
  cases blank : Text.isBlankText file.network with
  | true =>
    have unsound : ¬ file.IsSound := fun sound => Bool.false_ne_true (sound.named.symm.trans blank)
    rw [ofFile_of_blank blank]
    constructor <;> simp [blank, unsound]
  | false =>
    by_cases backwards : file.validUntil < file.validFrom
    · have unsound : ¬ file.IsSound := fun sound => sound.forwards backwards
      rw [ofFile_of_backwards blank backwards]
      constructor <;> simp [blank, backwards, unsound]
    · have sound : file.IsSound := ⟨blank, backwards⟩
      by_cases long : file.IsOverlong
      · rw [ofFile_of_overlong sound long]
        constructor <;> simp [blank, backwards, sound, long]
      · rw [ofFile_of_short sound long]
        constructor <;> simp [blank, backwards, sound, long, assembled]

end Timetable

/-! A document of which only the least time for changes is out of bounds. -/
namespace LongChange

def text : String :=
  "\x7b\"network\": \"NET\", \"valid_from\": \"2024-03-15T00:00:00Z\", " ++
    "\"valid_until\": \"2024-03-16T00:00:00Z\", " ++
    "\"min_change_minutes\": 9223372036854775807, \"places\": []\x7d"

/-- Not every document that can be read makes a timetable or is refused by a rule. -/
theorem not_every_document_loads :
    ¬ ∀ (text : String) (file : TimetableFile), decodeText TimetableFile text = .ok file →
      (∃ tt, (Timetable.ofFile file).value = .ok tt) ∨
        (Timetable.ofFile file).value = .error .blankNetwork ∨
          (Timetable.ofFile file).value = .error .invalidWindow := by
  intro claimed
  have checked : ((decodeText TimetableFile text).toOption.any fun file =>
      !Text.isBlankText file.network && decide (¬ file.validUntil < file.validFrom) &&
        decide (file.minChangeMinutes.toInt = 9223372036854775807)) = true := by
    cbv
  obtain ⟨file, read, checked⟩ := exists_ok_of_any checked
  simp only [Bool.and_eq_true, Bool.not_eq_true', decide_eq_true_eq] at checked
  obtain ⟨⟨named, forwards⟩, minutes⟩ := checked
  have long : file.IsOverlong := by
    rw [TimetableFile.IsOverlong, minutes]
    decide
  have failed := Timetable.ofFile_of_overlong ⟨named, forwards⟩ long
  rcases claimed text file read with ⟨tt, loaded⟩ | blank | backwards
  · cases failed.symm.trans loaded
  · cases failed.symm.trans blank
  · cases failed.symm.trans backwards

end LongChange

end JourneyPlanner

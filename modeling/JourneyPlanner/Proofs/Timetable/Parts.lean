import JourneyPlanner.Proofs.Text.Parts
import JourneyPlanner.Proofs.Timetable.Offered

set_option autoImplicit false

/-!
Places found by a part of their names. The small form of what is asked for is looked up in that of a
name, and they are made each by itself. So a part of a name finds the place if its capital sigmas
have one small form in the name and alone, as they have but next to letters that are left out.
-/
namespace JourneyPlanner

namespace Timetable

variable {tt : Timetable} {metric : Metric} {settings : Settings} {p : Place} {name text : String}
  {before after : List Char}

/-- When a place is suggested for a text that stands in its name between `before` and `after`. -/
structure FoundByPart (tt : Timetable) (metric : Metric) (settings : Settings) (p : Place)
    (before : List Char) (text : String) (after : List Char) : Prop where
  answered : tt.Offers metric settings text p ↔ p.location.Answers (Text.lowercase text)
  kept : Text.KeepsSigmas before text.toList after → tt.Offers metric settings text p
  plain : 'Σ' ∉ text.toList → tt.Offers metric settings text p
  separate : Text.meetsCased before.reverse = false → Text.meetsCased after = false →
    tt.Offers metric settings text p
  beginning : before = [] → ¬ Text.EndsInSigma text.toList → tt.Offers metric settings text p

theorem found_by_part {file : TimetableFile} (loaded : (ofFile file).value = .ok tt)
    (metric : Metric) (settings : Settings) (known : p ∈ tt.places)
    (named : p.location.name = some name) (around : name.toList = before ++ text.toList ++ after)
    (some : text ≠ "") (trimmed : Text.trim text = text) :
    tt.FoundByPart metric settings p before text after := by
  have shown : Text.isBlankText text = false := by
    by_contra blank
    rw [Bool.not_eq_false] at blank
    exact some (trimmed ▸ Text.trim_of_isBlankText blank)
  have answered : tt.Offers metric settings text p ↔ p.location.Answers (Text.lowercase text) := by
    rw [offers_iff loaded shown known, trimmed]
  have kept : Text.KeepsSigmas before text.toList after → tt.Offers metric settings text p := by
    intro sigmas
    have inside := Text.infix_of_keepsSigmas around sigmas
    exact answered.mpr (.inr ⟨name, named, .inl inside⟩)
  refine ⟨answered, kept, fun none => ?_, fun first last => ?_, fun start goesOn => ?_⟩
  · exact kept (Text.keepsSigmas_of_not_mem none)
  · exact kept (Text.keepsSigmas_of_uncased first last)
  · subst start
    exact kept (Text.keepsSigmas_of_beginning goesOn)

end Timetable

/-! A station whose name has a capital sigma between letters. -/
namespace InnerSigma

def file : TimetableFile :=
  Sample.file (Sample.morning 0) (Sample.morning 600)
    [{ Sample.station "A" 52000000 with name := "ΟΣΑ" }] []

/-- With the letter after it the sigma is no final one. -/
theorem found_by_part_inner :
    ∃ tt p, (Timetable.ofFile file).value = .ok tt ∧ p ∈ tt.places ∧
      p.location.name = some "ΟΣΑ" ∧ "ΟΣΑ".toList = ['Ο'] ++ "ΣΑ".toList ++ [] ∧ "ΣΑ" ≠ "" ∧
        Text.trim "ΣΑ" = "ΣΑ" ∧ Text.KeepsSigmas ['Ο'] "ΣΑ".toList [] ∧
          tt.FoundByPart Sample.metric .usual p ['Ο'] "ΣΑ" [] := by
  have checked : ((Timetable.ofFile file).value.toOption.any fun tt => tt.places.any fun p =>
      decide (p.location.name = some "ΟΣΑ")) = true := by
    decide +kernel
  obtain ⟨tt, loaded, checked⟩ := exists_ok_of_any checked
  obtain ⟨p, known, named⟩ := List.any_eq_true.mp checked
  have named : p.location.name = some "ΟΣΑ" := of_decide_eq_true named
  have around : "ΟΣΑ".toList = ['Ο'] ++ "ΣΑ".toList ++ [] := rfl
  have trimmed : Text.trim "ΣΑ" = "ΣΑ" := rfl
  have sigmas : Text.KeepsSigmas ['Ο'] "ΣΑ".toList [] :=
    Text.keepsSigmas_iff.mpr (by decide +kernel)
  exact ⟨tt, p, loaded, known, named, around, by decide, trimmed, sigmas,
    Timetable.found_by_part loaded Sample.metric .usual known named around (by decide) trimmed⟩

/-- Not every part of a name finds the place. -/
theorem not_every_part_finds :
    ¬ ∀ (file : TimetableFile) (tt : Timetable) (metric : Metric) (settings : Settings) (p : Place)
      (name text : String) (before after : List Char), (Timetable.ofFile file).value = .ok tt →
        p ∈ tt.places → p.location.name = some name →
          name.toList = before ++ text.toList ++ after → text ≠ "" → Text.trim text = text →
            tt.Offers metric settings text p := by
  intro claimed
  have checked : ((Timetable.ofFile file).value.toOption.any fun tt => tt.places.any fun p =>
      decide (p.location.name = some "ΟΣΑ") &&
        (p.location.matchPriority (Text.lowercase "ΟΣ")).isNone) = true := by
    decide +kernel
  obtain ⟨tt, loaded, checked⟩ := exists_ok_of_any checked
  obtain ⟨p, known, checked⟩ := List.any_eq_true.mp checked
  obtain ⟨named, unanswered⟩ := Bool.and_eq_true_iff.mp checked
  have trimmed : Text.trim "ΟΣ" = "ΟΣ" := rfl
  have offered := claimed file tt Sample.metric .usual p "ΟΣΑ" "ΟΣ" [] ['Α'] loaded known
    (of_decide_eq_true named) rfl (by decide) trimmed
  rw [Timetable.offers_iff loaded rfl known, ← Location.isSome_matchPriority_iff, trimmed,
    Option.isNone_iff_eq_none.mp unanswered] at offered
  cases offered

end InnerSigma

end JourneyPlanner

import JourneyPlanner.Proofs.Text.Trimmed
import JourneyPlanner.Proofs.Timetable.Offered

set_option autoImplicit false

/-!
Places looked up by the names that they are reported under. What is asked for is read without the
white space around it, and the names of places are read with it. So a place is found by its name, or
by a common name after its place, if there is no white space around what it is found by.
-/
namespace JourneyPlanner

namespace Location

variable {l : Location} {name place reported : String}

/-- The text is the name of the place, or the name after its place. -/
def IsReportedAs (reported : String) (l : Location) : Prop :=
  l.name = some reported ∨ l.shortName = some reported

theorem isReportedAs_cases (named : l.name = some name) (told : l.IsReportedAs reported) :
    reported = name ∨ ∃ place, l.place = some place ∧ name ∈ commonNames ∧
      reported = place ++ ", " ++ name := by
  rcases told with short | told
  · rw [named, Option.some.injEq] at short
    exact .inl short.symm
  · rw [shortName, named] at told
    cases located : l.place with
    | none =>
      rw [located] at told
      exact .inl (Option.some.inj told).symm
    | some place =>
      simp only [located] at told
      split at told
      · rename_i common
        exact .inr ⟨place, rfl, common, (Option.some.inj told).symm⟩
      · exact .inl (Option.some.inj told).symm

theorem isNamed_iff {needle : String} (named : l.name = some name) :
    l.IsNamed needle ↔ Text.lowercase name = needle := by
  simp only [IsNamed, named, Option.some.injEq, exists_eq_left']

/-- A full name is longer than the name in it. -/
theorem length_lt_of_isNamedInFull {needle : String} (named : l.name = some name)
    (full : l.IsNamedInFull needle) :
    (Text.lowercase name).toList.length < needle.toList.length := by
  obtain ⟨place, other, -, namedToo, -, rfl⟩ := full
  rw [named, Option.some.injEq] at namedToo
  subst namedToo
  have comma : (Text.lowercase ", ").toList.length = 2 := rfl
  rw [Text.length_lowercase_append, Text.length_lowercase_append, comma]
  omega

/-- No common name begins or ends with white space. -/
theorem commonNames_shown : ∀ name ∈ commonNames,
    (", " ++ name).toList.head?.any (fun c => !Text.isBlank c) = true ∧
      (", " ++ name).toList.getLast?.any (fun c => !Text.isBlank c) = true := by
  decide

/-- After its place a common name is longer than alone, also without the white space around it. -/
theorem length_lt_of_common (place : String) (common : name ∈ commonNames) :
    (Text.lowercase name).toList.length <
      (Text.lowercase (Text.trim (place ++ ", " ++ name))).toList.length := by
  obtain ⟨starts, ends⟩ := commonNames_shown name common
  have left : (Text.trim (place ++ ", " ++ name)).toList =
      place.toList.dropWhile Text.isBlank ++ (", " ++ name).toList := by
    rw [Text.toList_trim, String.append_assoc, String.toList_append]
    exact Text.trimChars_append starts ends
  have comma : ((", ".toList).map Text.smallLength).sum = 2 := rfl
  rw [Text.length_lowercase, Text.length_lowercase, left, String.toList_append, List.map_append,
    List.map_append, List.sum_append, List.sum_append, comma]
  omega

/-- What a place is reported as means it if it is not changed by leaving out the white space around
it. -/
theorem meant_iff (named : l.name = some name) (told : l.IsReportedAs reported) :
    l.IsNamed (Text.lowercase (Text.trim reported)) ∨
        l.IsNamedInFull (Text.lowercase (Text.trim reported)) ↔
      Text.trim reported = reported := by
  rw [isNamed_iff named]
  rcases isReportedAs_cases named told with rfl | ⟨place, located, common, rfl⟩
  · rw [← Text.lowercase_trim_iff reported]
    constructor
    · rintro (same | full)
      · exact same.symm
      · have long := length_lt_of_isNamedInFull named full
        have short := Text.length_lowercase_trim_le reported
        omega
    · intro same
      exact .inl same.symm
  · rw [← Text.lowercase_trim_iff]
    constructor
    · rintro (same | ⟨placeToo, other, locatedToo, namedToo, -, same⟩)
      · have long := length_lt_of_common place common
        rw [← same] at long
        omega
      · rw [named, Option.some.injEq] at namedToo
        rw [located, Option.some.injEq] at locatedToo
        rw [← namedToo, ← locatedToo] at same
        exact same.symm
    · intro same
      exact .inr ⟨place, name, located, named, common, same.symm⟩

end Location

namespace Timetable

variable {tt : Timetable} {metric : Metric} {l : Location} {p : Place}

/-- What is looked up is the place, or it is ambiguous and the place is among those meant. -/
structure MayMean (tt : Timetable) (metric : Metric) (l : Location) (p : Place) : Prop where
  candidate : p ∈ tt.placesNamed l
  resolved : ∀ unknown, tt.resolve metric l unknown = .ok (tt.endpointAt metric p) ∨
    tt.resolve metric l unknown = .error .ambiguous

theorem mayMean_iff (noId : l.id = none) (noPoint : l.point = none) :
    tt.MayMean metric l p ↔ p ∈ tt.placesNamed l := by
  constructor
  · exact MayMean.candidate
  · intro candidate
    refine ⟨candidate, fun unknown => ?_⟩
    simp only [resolve, noId, noPoint]
    cases found : tt.placesNamed l with
    | nil =>
      rw [found] at candidate
      cases candidate
    | cons q others =>
      cases others with
      | nil =>
        rw [found, List.mem_singleton] at candidate
        rw [candidate]
        exact .inl rfl
      | cons r others => exact .inr rfl

/-- By which names a place is found: by those it is reported under, but for white space around
them. -/
structure FoundByName (tt : Timetable) (metric : Metric) (p : Place) : Prop where
  reported : p.location.name.isSome = true ∧ p.location.shortName.isSome = true
  text : ∀ reported, p.location.IsReportedAs reported → ∃ l, Location.freeText reported = .ok l ∧
    (tt.MayMean metric l p ↔ Text.trim reported = reported)
  details : ∀ name, p.location.name = some name → ∃ l,
    Location.ofDetails ⟨p.location.kind, none, none, p.location.place, some name⟩ = .ok l ∧
      (tt.MayMean metric l p ↔ Text.trim name = name ∧
        ∀ place, p.location.place = some place → Text.trim place = place)

/-- The name of a place and the place that goes with it are details of a location. -/
theorem exists_ofDetails (located : p.Located) (name : String) :
    ∃ l, Location.ofDetails ⟨p.location.kind, none, none, p.location.place, some name⟩ = .ok l ∧
      l.toLocationDetails = ⟨p.location.kind, none, none, p.location.place, some name⟩ := by
  rcases Location.ofDetails_cases ⟨p.location.kind, none, none, p.location.place, some name⟩ with
    ⟨l, made, details, -⟩ | ⟨e, -, violated⟩
  · exact ⟨l, made, details⟩
  · rcases located.kind with kind | kind | kind
    all_goals
      rw [kind] at violated
      simp [LocationDetails.violation] at violated

theorem placeMatches_iff (alike : l.place = p.location.place) :
    placeMatches l p = true ↔ ∀ place, p.location.place = some place → Text.trim place = place := by
  rw [placeMatches, alike]
  cases p.location.place with
  | none => simp
  | some place =>
    simp only [Option.all_some, Option.any_some, decide_eq_true_eq, Option.some.injEq, forall_eq']
    rw [← Text.lowercase_trim_iff]
    exact eq_comm

theorem mem_placesNamed_of_details {name : String} (known : p ∈ tt.places) (located : p.Located)
    (named : p.location.name = some name)
    (details : l.toLocationDetails =
      ⟨p.location.kind, none, none, p.location.place, some name⟩) :
    p ∈ tt.placesNamed l ↔ Text.trim name = name ∧
      ∀ place, p.location.place = some place → Text.trim place = place := by
  have kind : kindMatches l p = true := by
    rw [kindMatches, details]
    simp
  have alike : l.place = p.location.place := by rw [details]
  have name : l.name = some name := by rw [details]
  rw [placesNamed, name]
  simp only [List.mem_filter, known, kind, true_and, Bool.true_and, Bool.and_eq_true]
  rw [nameMatches_iff located, placeMatches_iff alike, Location.meant_iff named (.inl named)]

/-- Each place of a loaded timetable is found by the names that it is reported under, unless there
is white space around them. -/
theorem found_by_name {file : TimetableFile} (loaded : (ofFile file).value = .ok tt)
    (metric : Metric) (known : p ∈ tt.places) : tt.FoundByName metric p := by
  have located := located_of_ofFile loaded
  obtain ⟨name, named⟩ := Option.isSome_iff_exists.mp (located p known).name
  refine ⟨⟨(located p known).name, ?_⟩, fun reported told => ?_, fun other namedToo => ?_⟩
  · rw [Location.shortName, named]
    cases p.location.place with
    | none => rfl
    | some place =>
      simp only
      split <;> rfl
  · obtain ⟨l, made, details⟩ := Location.exists_freeText reported
    refine ⟨l, made, ?_⟩
    have noId : l.id = none := by rw [details]
    have noPoint : l.point = none := by rw [details]
    rw [mayMean_iff noId noPoint, mem_placesNamed_iff details located,
      Location.meant_iff named told]
    exact and_iff_right known
  · obtain ⟨l, made, details⟩ := exists_ofDetails (located p known) other
    refine ⟨l, made, ?_⟩
    have noId : l.id = none := by rw [details]
    have noPoint : l.point = none := by rw [details]
    rw [mayMean_iff noId noPoint]
    exact mem_placesNamed_of_details known (located p known) namedToo details

theorem found_by_name_hauptbahnhof :
    ∃ tt p, (ofFile CommonName.file).value = .ok tt ∧ p ∈ tt.places ∧
      p.location.shortName = some "Frankfurt, Hauptbahnhof" ∧ tt.FoundByName Sample.metric p := by
  have checked : ((ofFile CommonName.file).value.toOption.any fun tt => tt.places.any fun p =>
      decide (p.location.shortName = some "Frankfurt, Hauptbahnhof")) = true := rfl
  obtain ⟨tt, loaded, checked⟩ := exists_ok_of_any checked
  obtain ⟨p, known, reported⟩ := List.any_eq_true.mp checked
  exact ⟨tt, p, loaded, known, of_decide_eq_true reported,
    found_by_name loaded Sample.metric known⟩

end Timetable

/-! A station whose name begins with a blank. -/
namespace PaddedName

def file : TimetableFile :=
  Sample.file (Sample.morning 0) (Sample.morning 600)
    [{ Sample.station "A" 52000000 with name := " Alpha" }] []

/-- Not every place is found by the name that it is reported under. -/
theorem not_every_place_found_by_name :
    ¬ ∀ (file : TimetableFile) (tt : Timetable) (metric : Metric) (p : Place) (name : String)
      (l : Location) (unknown : NoTrips), (Timetable.ofFile file).value = .ok tt → p ∈ tt.places →
        p.location.name = some name → Text.isBlankText name = false →
          Location.freeText name = .ok l →
            tt.resolve metric l unknown = .ok (tt.endpointAt metric p) ∨
              tt.resolve metric l unknown = .error .ambiguous := by
  intro claimed
  have checked : ((Timetable.ofFile file).value.toOption.any fun tt =>
      (Location.freeText " Alpha").toOption.any fun l => (tt.placesNamed l).isEmpty &&
        tt.places.any fun p => decide (p.location.name = some " Alpha")) = true := by
    decide +kernel
  obtain ⟨tt, loaded, checked⟩ := exists_ok_of_any checked
  obtain ⟨l, made, checked⟩ := exists_ok_of_any checked
  obtain ⟨nobody, checked⟩ := Bool.and_eq_true_iff.mp checked
  obtain ⟨p, known, named⟩ := List.any_eq_true.mp checked
  obtain ⟨other, madeToo, details⟩ := Location.exists_freeText " Alpha"
  rw [made, Except.ok.injEq] at madeToo
  subst madeToo
  have among : tt.LooksUpAmong Sample.metric l (tt.placesNamed l) := by
    apply Timetable.looksUpAmong_of_unidentified <;> rw [details]
  have found := claimed file tt Sample.metric p " Alpha" l .unknownFrom loaded known
    (of_decide_eq_true named) rfl made
  rw [among.nowhere (List.isEmpty_iff.mp nobody)] at found
  rcases found with here | several
  · cases here
  · cases several

end PaddedName

end JourneyPlanner

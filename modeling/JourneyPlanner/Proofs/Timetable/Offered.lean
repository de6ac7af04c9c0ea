import JourneyPlanner.Proofs.Location.Matching
import JourneyPlanner.Proofs.Provider.Transparent
import JourneyPlanner.Proofs.Timetable.Consistent

set_option autoImplicit false

/-!
Free text as the end of a trip, and the same text as a question for places. The places that a text
may mean are suggested for it, but for those that it means by a common name after a place and a
comma: suggestions are searched for such names with a blank for the comma.
-/
namespace JourneyPlanner

namespace Suggestion

variable {metric : Metric} {order : List LocationKind} {suggestions : List Suggestion}

/-- Ranking keeps all locations where no two of them are the same place. -/
theorem mem_location_ranked {l : Location}
    (apart : ∀ s ∈ suggestions, s.location.isSamePlace metric l = true → s.location = l) :
    l ∈ (ranked metric order suggestions).map location ↔ l ∈ suggestions.map location := by
  rw [List.mem_map, List.mem_map]
  constructor
  · rintro ⟨s, kept, here⟩
    exact ⟨s, mem_of_mem_ranked kept, here⟩
  · rintro ⟨s, mem, rfl⟩
    have found : ∃ k ∈ ranked metric order suggestions, k = s ∨
        (k.location.isSamePlace metric s.location = true ∧ (compareRank order k s).isLE = true) :=
      exists_ranked mem
    obtain ⟨k, kept, rfl | ⟨same, -⟩⟩ := found
    · exact ⟨k, kept, rfl⟩
    · exact ⟨k, kept, apart k (mem_of_mem_ranked kept) same⟩

end Suggestion

namespace Timetable

variable {tt : Timetable} {metric : Metric} {settings : Settings} {text : String} {l : Location}
  {p : Place}

theorem located_of_ofFile {file : TimetableFile} (loaded : (ofFile file).value = .ok tt) :
    ∀ p ∈ tt.places, p.Located := by
  obtain ⟨-, -, minChange, -, rfl⟩ := ofFile_eq_ok_iff.mp loaded
  intro p mem
  obtain ⟨q, inside, rfl⟩ := List.mem_map.mp mem
  obtain ⟨before, r, read⟩ := made_of_mem_loadRecords inside
  exact (Place.located_of_ofRecord read).1.serving file.loadedServices.value

/-- The place is among all that is suggested for a text. -/
def Offers (tt : Timetable) (metric : Metric) (settings : Settings) (text : String) (p : Place) :
    Prop :=
  ∃ r found, ((tt.service metric settings).provider.suggest ⟨text, .empty, 0⟩).answer = .ok r ∧
    r.outcome = .ok found ∧ p.location ∈ found.map Suggestion.location

/-- What is looked up is found where there is one candidate, and ambiguous where there are
several. -/
structure LooksUpAmong (tt : Timetable) (metric : Metric) (l : Location)
    (candidates : List Place) : Prop where
  nowhere : candidates = [] → ∀ unknown, tt.resolve metric l unknown = .error unknown
  only : ∀ p, candidates = [p] → ∀ unknown,
    tt.resolve metric l unknown = .ok (tt.endpointAt metric p)
  several : 2 ≤ candidates.length → ∀ unknown, tt.resolve metric l unknown = .error .ambiguous

/-- What a text means as the end of a trip, what is suggested for it, and what of the one is the
other. -/
structure Understands (tt : Timetable) (metric : Metric) (settings : Settings) (text : String)
    (l : Location) : Prop where
  lookedUp : tt.LooksUpAmong metric l (tt.placesNamed l)
  meant : ∀ p, p ∈ tt.placesNamed l ↔ p ∈ tt.places ∧
    (p.location.IsNamed (Text.lowercase (Text.trim text)) ∨
      p.location.IsNamedInFull (Text.lowercase (Text.trim text)))
  suggested : ∀ p ∈ tt.places, tt.Offers metric settings text p ↔
    p.location.Answers (Text.lowercase (Text.trim text))
  offered : ∀ p ∈ tt.placesNamed l, tt.Offers metric settings text p ↔
    p.location.IsNamed (Text.lowercase (Text.trim text)) ∨
      p.location.HasId (Text.lowercase (Text.trim text))

theorem looksUpAmong_of_unidentified (free : l.kind = .any) (noId : l.id = none)
    (noPoint : l.point = none) : tt.LooksUpAmong metric l (tt.placesNamed l) := by
  have otherwise : l.kind ≠ .address := by
    rw [free]
    decide
  constructor
  · intro none unknown
    simp only [resolve, noId, noPoint, none, if_neg otherwise]
  · intro p one unknown
    simp only [resolve, noId, noPoint, one]
  · intro several unknown
    cases candidates : tt.placesNamed l with
    | nil => simp [candidates] at several
    | cons p others =>
      cases others with
      | nil => simp [candidates] at several
      | cons q others => simp only [resolve, noId, noPoint, candidates]

/-- A name is matched by itself or, if it is common, after its place. -/
theorem nameMatches_iff {wanted : String} (located : p.Located) :
    nameMatches wanted p = true ↔
      p.location.IsNamed wanted ∨ p.location.IsNamedInFull wanted := by
  obtain ⟨name, named⟩ := Option.isSome_iff_exists.mp located.name
  simp only [nameMatches, Location.IsNamed, Location.IsNamedInFull, Location.shortName, named,
    Bool.or_eq_true, Option.any_some, decide_eq_true_eq, Option.some.injEq, exists_eq_left']
  cases p.location.place with
  | none => simp
  | some place =>
    by_cases common : name ∈ Location.commonNames
    · simp [common]
    · simp [common]

theorem mem_placesNamed_iff (free : l.toLocationDetails = ⟨.any, none, none, none, some text⟩)
    (located : ∀ p ∈ tt.places, p.Located) :
    p ∈ tt.placesNamed l ↔ p ∈ tt.places ∧
      (p.location.IsNamed (Text.lowercase (Text.trim text)) ∨
        p.location.IsNamedInFull (Text.lowercase (Text.trim text))) := by
  have kind : kindMatches l p = true := by
    rw [kindMatches, free]
    rfl
  have place : placeMatches l p = true := by
    rw [placeMatches, free]
    rfl
  rw [placesNamed, free, List.mem_filter, kind, place, Bool.true_and, Bool.and_true]
  exact and_congr_right fun known => nameMatches_iff (located p known)

end Timetable

namespace TimetableService

/-- Every kind of place that is loaded is suggested, and without kinds asked for none is left
out. -/
theorem suggested_of_located {p : Place} (located : p.Located) :
    capabilities.suggestKinds.contains p.location.kind = true ∧
      kindAllowed .empty p.location = true := by
  refine ⟨?_, rfl⟩
  rcases located.kind with station | poi | address
  · rw [station]
    rfl
  · rw [poi]
    rfl
  · rw [address]
    rfl

end TimetableService

namespace Timetable

variable {tt : Timetable} {metric : Metric} {settings : Settings} {text : String} {p : Place}

/-- What is suggested for a text that is not blank. -/
theorem answer_suggest_ranked (tt : Timetable) (metric : Metric) (settings : Settings)
    (q : SuggestQuery) (shown : Text.trim q.text ≠ "") :
    ((tt.service metric settings).provider.suggest q).answer =
      .ok ((Response.ok (limited q.maxCount (Suggestion.ranked metric
        TimetableService.capabilities.kindOrder ((tt.service metric settings).suggestions q.kinds
          (Text.lowercase (Text.trim q.text)))))).withHeader tt.header) := by
  have some : ¬ (Text.lowercase (Text.trim q.text)).isEmpty = true := by
    rw [String.isEmpty_iff]
    exact Text.lowercase_ne_empty shown
  change (TimetableService.suggest _ _).answer = _
  unfold TimetableService.suggest
  simp only [if_neg some]
  rfl

/-- All that is suggested for it, without kinds or a limit. -/
theorem answer_suggest (tt : Timetable) (metric : Metric) (settings : Settings)
    (shown : Text.isBlankText text = false) :
    ((tt.service metric settings).provider.suggest ⟨text, .empty, 0⟩).answer =
      .ok ((Response.ok (Suggestion.ranked metric TimetableService.capabilities.kindOrder
        ((tt.service metric settings).suggestions .empty
          (Text.lowercase (Text.trim text))))).withHeader tt.header) :=
  answer_suggest_ranked tt metric settings ⟨text, .empty, 0⟩ (Text.trim_ne_empty shown)

/-- The places of a loaded timetable that are suggested for a text are those that answer it: with
ids that differ none gives way to another. -/
theorem offers_iff {file : TimetableFile} (loaded : (ofFile file).value = .ok tt)
    (shown : Text.isBlankText text = false) (known : p ∈ tt.places) :
    tt.Offers metric settings text p ↔
      p.location.Answers (Text.lowercase (Text.trim text)) := by
  rw [← Location.isSome_matchPriority_iff]
  have named := named_of_ofFile loaded
  have apart : ∀ s ∈ (tt.service metric settings).suggestions .empty
      (Text.lowercase (Text.trim text)),
      s.location.isSamePlace metric p.location = true → s.location = p.location := by
    intro s mem same
    obtain ⟨q, knownToo, -, -, here⟩ := TimetableService.mem_suggestions_iff.mp mem
    by_cases ids : q.id = p.id
    · rw [← here, named.eq_of_id knownToo known ids]
    · have different : q.location.isSamePlace metric p.location = false :=
        Location.isSamePlace_of_ids (named.located q knownToo) (named.located p known) ids
      rw [here, same] at different
      cases different
  have ranked : p.location ∈ (Suggestion.ranked metric TimetableService.capabilities.kindOrder
      ((tt.service metric settings).suggestions .empty
        (Text.lowercase (Text.trim text)))).map Suggestion.location ↔ _ :=
    Suggestion.mem_location_ranked apart
  constructor
  · rintro ⟨r, found, answered, success, mem⟩
    rw [answer_suggest tt metric settings shown] at answered
    cases answered
    cases success
    obtain ⟨s, suggested, here⟩ := List.mem_map.mp (ranked.mp mem)
    obtain ⟨q, -, -, answers, same⟩ := TimetableService.mem_suggestions_iff.mp suggested
    rw [← here, ← same, answers]
    rfl
  · intro answers
    obtain ⟨priority, answers⟩ := Option.isSome_iff_exists.mp answers
    have suggested : (⟨p.location, priority⟩ : Suggestion) ∈
        (tt.service metric settings).suggestions .empty (Text.lowercase (Text.trim text)) :=
      TimetableService.mem_suggestions_iff.mpr ⟨p, known,
        TimetableService.suggested_of_located (located_of_ofFile loaded p known), answers, rfl⟩
    exact ⟨_, _, answer_suggest tt metric settings shown, rfl,
      ranked.mpr (List.mem_map.mpr ⟨_, suggested, rfl⟩)⟩

/-- Of the places that a text may mean as the end of a trip, those are suggested for it that have it
for a name or an id. -/
theorem freeText_understood {file : TimetableFile} (loaded : (ofFile file).value = .ok tt)
    (metric : Metric) (settings : Settings) (shown : Text.isBlankText text = false) :
    ∃ l, Location.freeText text = .ok l ∧ tt.Understands metric settings text l := by
  obtain ⟨l, made, details⟩ := Location.exists_freeText text
  have located := located_of_ofFile loaded
  refine ⟨l, made, ?_, fun p => mem_placesNamed_iff details located,
    fun p known => offers_iff loaded shown known, fun p candidate => ?_⟩
  · apply looksUpAmong_of_unidentified <;> rw [details]
  · obtain ⟨known, meant⟩ := (mem_placesNamed_iff details located).mp candidate
    rw [offers_iff loaded shown known]
    constructor
    · intro answers
      rcases meant with named | full
      · exact .inl named
      · exact .inr (Location.hasId_of_isNamedInFull full answers)
    · rintro (named | identified)
      · exact Location.answers_of_isNamed named
      · exact .inl identified

end Timetable

/-! Two stations of one name in one place. -/
namespace CommonName

def station (id : String) : PlaceRecord :=
  { Sample.station id 52000000 with name := "Hauptbahnhof", place := some "Frankfurt" }

def file : TimetableFile :=
  Sample.file (Sample.morning 0) (Sample.morning 600) [station "A", station "B"] []

theorem freeText_understood_hauptbahnhof :
    ∃ tt l, (Timetable.ofFile file).value = .ok tt ∧ Text.isBlankText " hauptBAHNHOF " = false ∧
      Location.freeText " hauptBAHNHOF " = .ok l ∧ (tt.placesNamed l).length = 2 ∧
        tt.Understands Sample.metric .usual " hauptBAHNHOF " l := by
  have checked : ((Timetable.ofFile file).value.toOption.any fun tt =>
      (Location.freeText " hauptBAHNHOF ").toOption.any fun l =>
        decide ((tt.placesNamed l).length = 2)) = true := rfl
  obtain ⟨tt, loaded, checked⟩ := exists_ok_of_any checked
  obtain ⟨l, made, both⟩ := exists_ok_of_any checked
  have shown : Text.isBlankText " hauptBAHNHOF " = false := rfl
  obtain ⟨other, madeToo, understood⟩ :=
    Timetable.freeText_understood loaded Sample.metric .usual shown
  rw [made, Except.ok.injEq] at madeToo
  subst madeToo
  exact ⟨tt, l, loaded, shown, made, of_decide_eq_true both, understood⟩

/-- Not every place that an ambiguous text may mean is suggested for it. -/
theorem not_every_candidate_offered :
    ¬ ∀ (file : TimetableFile) (tt : Timetable) (metric : Metric) (settings : Settings)
      (text : String) (l : Location) (p : Place), (Timetable.ofFile file).value = .ok tt →
        Text.isBlankText text = false → Location.freeText text = .ok l →
          tt.resolve metric l .unknownFrom = .error .ambiguous → p ∈ tt.placesNamed l →
            tt.Offers metric settings text p := by
  intro claimed
  have checked : ((Timetable.ofFile file).value.toOption.any fun tt =>
      (Location.freeText "Frankfurt, Hauptbahnhof").toOption.any fun l =>
        decide ((tt.placesNamed l).length = 2) && (tt.placesNamed l).head?.any fun p =>
          (p.location.matchPriority (Text.lowercase (Text.trim "Frankfurt, Hauptbahnhof"))).isNone)
      = true := by
    decide +kernel
  obtain ⟨tt, loaded, checked⟩ := exists_ok_of_any checked
  obtain ⟨l, made, checked⟩ := exists_ok_of_any checked
  obtain ⟨both, checked⟩ := Bool.and_eq_true_iff.mp checked
  obtain ⟨p, first, unanswered⟩ := (Option.any_eq_true _ _).mp checked
  obtain ⟨other, madeToo, details⟩ := Location.exists_freeText "Frankfurt, Hauptbahnhof"
  rw [made, Except.ok.injEq] at madeToo
  subst madeToo
  have candidate : p ∈ tt.placesNamed l := List.mem_of_mem_head? first
  have known : p ∈ tt.places := by
    have located := Timetable.located_of_ofFile loaded
    exact ((Timetable.mem_placesNamed_iff details located).mp candidate).1
  have ambiguous : tt.resolve Sample.metric l .unknownFrom = .error .ambiguous := by
    have among : tt.LooksUpAmong Sample.metric l (tt.placesNamed l) := by
      apply Timetable.looksUpAmong_of_unidentified <;> rw [details]
    exact among.several (of_decide_eq_true both).ge .unknownFrom
  have offered := claimed file tt Sample.metric .usual _ l p loaded rfl made ambiguous candidate
  rw [Timetable.offers_iff loaded rfl known, ← Location.isSome_matchPriority_iff,
    Option.isNone_iff_eq_none.mp unanswered] at offered
  cases offered

end CommonName

end JourneyPlanner

import JourneyPlanner.Proofs.Fallible
import JourneyPlanner.Proofs.Paging.Answer
import JourneyPlanner.Proofs.Provider.Rules
import JourneyPlanner.Proofs.Timetable.Named

set_option autoImplicit false

/-!
The provider over a timetable keeps the shared rules by itself, so they change nothing when they are
put around it. Places that are the same are told apart before the timetable is asked, and then its
header is missing.
-/
namespace JourneyPlanner

namespace Response

variable {σ α : Type}

theorem map_eq_self {f : α → α} {r : Response σ α}
    (kept : ∀ found, r.outcome = .ok found → f found = found) : r.map f = r := by
  unfold map
  cases outcome : r.outcome with
  | error reason =>
    change { r with outcome := .error reason } = r
    rw [← outcome]
  | ok found =>
    change { r with outcome := .ok (f found) } = r
    rw [kept found outcome, ← outcome]

end Response

namespace TimetableService

variable {ts : TimetableService}

/-- Places that are taken with a distance, left out or sorted are still those places. -/
theorem exists_sublist_of_distances (distance : Place → Rat) (within : Rat × Place → Bool)
    (le : Rat × Place → Rat × Place → Bool) (places : List Place) :
    ∃ part, part.Sublist places ∧
      ((((places.map fun p => (distance p, p)).filter within).mergeSort le).map Prod.snd).Perm
        part := by
  refine ⟨((places.map fun p => (distance p, p)).filter within).map Prod.snd, ?_,
    (List.mergeSort_perm _ le).map Prod.snd⟩
  have all : (places.map fun p => (distance p, p)).map Prod.snd = places := by
    rw [List.map_map]
    exact List.map_id places
  have inside := (List.filter_sublist (p := within)
    (l := places.map fun p => (distance p, p))).map Prod.snd
  rwa [all] at inside

/-- What is found near a place are places of the timetable, of the kinds asked for and no more than
the limit. -/
theorem found_of_nearby {q : NearbyQuery} {r : NearbyResponse} {found : List Location}
    (named : NamedPlaces ts.timetable.places) (answered : (ts.nearby q).answer = .ok r)
    (success : r.outcome = .ok found) :
    ∃ places, found = places.map Place.location ∧ NamedPlaces places ∧
      (∀ p ∈ places, kindAllowed q.kinds p.location = true) ∧
        (q.maxCount ≠ 0 → places.length ≤ q.maxCount.toNat) := by
  unfold nearby at answered
  cases checked : Check.nearbyLocation q.location with
  | error e =>
    rw [checked] at answered
    cases answered
  | ok =>
    rw [checked] at answered
    simp only at answered
    cases located : q.location.point.or ((q.location.id.bind ts.timetable.placeWithId?).map
        (·.point)) with
    | none =>
      rw [located] at answered
      cases answered
      cases success
      exact ⟨[], rfl, .nil, fun _ mem => absurd mem List.not_mem_nil, fun _ => Nat.zero_le _⟩
    | some center =>
      rw [located] at answered
      cases answered
      cases success
      obtain ⟨part, inside, sorted⟩ := exists_sublist_of_distances (ts.metric center ·.point)
        (fun entry => q.maxDistance = 0 || entry.1 ≤ (q.maxDistance.toNat : Rat))
        (fun a b => a.1 ≤ b.1) (ts.timetable.places.filter fun p =>
          !(q.location.id.bind ts.timetable.placeWithId?).any p.is &&
            kindAllowed q.kinds p.location)
      refine ⟨(limited q.maxCount _).map Prod.snd, List.map_map.symm, ?_, fun p mem => ?_,
        fun given => ?_⟩
      · rw [← limited_map]
        have chosen := (named.sublist List.filter_sublist).sublist inside
        exact (chosen.perm sorted).sublist (limited_sublist ..)
      · rw [← limited_map] at mem
        have here := inside.subset (sorted.subset ((limited_sublist ..).subset mem))
        exact (Bool.and_eq_true_iff.mp (List.mem_filter.mp here).2).2
      · rw [List.length_map]
        exact length_limited_le given _

/-- What is suggested are the places of an allowed kind that answer the text. -/
theorem mem_suggestions_iff {kinds : Selection LocationKind} {needle : String} {s : Suggestion} :
    s ∈ ts.suggestions kinds needle ↔ ∃ p ∈ ts.timetable.places,
      (capabilities.suggestKinds.contains p.location.kind = true ∧
        kindAllowed kinds p.location = true) ∧
      p.location.matchPriority needle = some s.priority ∧ p.location = s.location := by
  rw [suggestions, List.mem_filterMap]
  refine exists_congr fun p => and_congr_right fun _ => ?_
  rw [← Bool.and_eq_true]
  split
  · rename_i wanted
    rw [Option.map_eq_some_iff, and_iff_right wanted]
    constructor
    · rintro ⟨priority, answers, rfl⟩
      exact ⟨answers, rfl⟩
    · rintro ⟨answers, here⟩
      exact ⟨s.priority, answers, by rw [here]⟩
  · rename_i unwanted
    exact iff_of_false (fun none => nomatch none) fun found => unwanted found.1

theorem kindAllowed_of_mem_suggestions {kinds : Selection LocationKind} {needle : String}
    {s : Suggestion} (mem : s ∈ ts.suggestions kinds needle) :
    kindAllowed kinds s.location = true := by
  obtain ⟨p, -, ⟨-, allowed⟩, -, here⟩ := mem_suggestions_iff.mp mem
  rw [← here]
  exact allowed

/-- What is suggested was ranked, is of the kinds asked for and no more than the limit. -/
theorem found_of_suggest {q : SuggestQuery} {r : SuggestResponse} {found : List Suggestion}
    (answered : (ts.suggest q).answer = .ok r) (success : r.outcome = .ok found) :
    Suggestion.ranked ts.metric capabilities.kindOrder found = found ∧
      (∀ s ∈ found, kindAllowed q.kinds s.location = true) ∧
        (q.maxCount ≠ 0 → found.length ≤ q.maxCount.toNat) := by
  unfold suggest at answered
  cases answered
  cases success
  generalize Text.lowercase (Text.trim q.text) = needle
  have inside : (limited q.maxCount (if needle.isEmpty then [] else
      Suggestion.ranked ts.metric capabilities.kindOrder (ts.suggestions q.kinds needle))).Sublist
        (Suggestion.ranked ts.metric capabilities.kindOrder (ts.suggestions q.kinds needle)) := by
    refine (limited_sublist ..).trans ?_
    split
    · exact List.nil_sublist _
    · exact List.Sublist.refl _
  refine ⟨Suggestion.ranked_of_sublist inside, fun s mem => ?_,
    fun given => length_limited_le given _⟩
  exact kindAllowed_of_mem_suggestions (Suggestion.mem_of_mem_ranked (inside.subset mem))

theorem length_board {time : Instant} {count : UInt32} {station : Place} {b : Board}
    (made : ts.board time count station = .ok b) (given : count ≠ 0) :
    b.departures.length ≤ count.toNat := by
  unfold board Board.ofDepartures at made
  split at made
  · cases made
    change (Board.byTime _).length ≤ count.toNat
    rw [Board.byTime, List.length_mergeSort, List.length_map]
    exact length_limited_le given _
  · cases made

/-- No board is longer than the limit. -/
theorem found_of_departures {q : DeparturesQuery} {r : DeparturesResponse} {found : List Board}
    (answered : (ts.departures q).answer = .ok r) (success : r.outcome = .ok found) :
    ∀ b ∈ found, q.maxCount ≠ 0 → b.departures.length ≤ q.maxCount.toNat := by
  unfold departures at answered
  cases checked : Check.stationId q.station with
  | error e =>
    rw [checked] at answered
    cases answered
  | ok =>
    rw [checked] at answered
    simp only at answered
    split at answered
    · cases answered
      cases success
    · split at answered
      · rename_i made
        cases answered
        cases success
        intro b mem given
        obtain ⟨station, -, shown⟩ := exists_of_forall₂_right (mapM_eq_ok_iff.mp made) mem
        exact length_board shown given
      · cases answered
        cases success

end TimetableService

theorem Board.truncated_self {b : Board} {count : Nat} (short : b.departures.length ≤ count) :
    b.truncated count = b := by
  obtain ⟨location, departures, lines, station, inOrder⟩ := b
  simp only [truncated, List.take_of_length_le short]

namespace Provider

/-- Two providers answer all questions alike, but that between places that are the same the first
one leaves out the header. -/
structure AnswersAlike (metric : Metric) (header : Header) (g p : Provider) : Prop where
  nearby : ∀ q, (g.nearby q).answer = (p.nearby q).answer
  suggest : ∀ q, (g.suggest q).answer = (p.suggest q).answer
  departures : ∀ q, (g.departures q).answer = (p.departures q).answer
  trips : ∀ q, q.origin.isSamePlace metric q.destination = false →
    (g.trips q).answer = (p.trips q).answer
  tooClose : ∀ q, q.origin.isSamePlace metric q.destination = true →
    (p.trips q).answer = (g.trips q).answer.map (·.withHeader header) ∧
      ∀ r, (g.trips q).answer = .ok r → r = TripsResponse.failed p.network .tooClose
  moreTrips : ∀ c later, (g.moreTrips c later).answer = (p.moreTrips c later).answer

end Provider

namespace TimetableService

variable {ts : TimetableService}

theorem guardNearby_self (named : NamedPlaces ts.timetable.places) (q : NearbyQuery) :
    (ts.provider.guardNearby ts.metric q).answer = (ts.nearby q).answer := by
  refine Enquiry.answer_governed_self (fun e failed => ?_)
    (fun r => Provider.answer_reportFailure _ r) fun r answered => ?_
  · have refused : Check.nearbyLocation q.location = .error e := failed
    change (ts.nearby q).answer = .error e
    rw [nearby, refused]
    rfl
  · refine Response.map_eq_self fun found success => ?_
    obtain ⟨places, rfl, named, allowed, short⟩ := found_of_nearby named answered success
    have kept : (places.map Place.location).filter (kindAllowed q.kinds) =
        places.map Place.location := by
      refine List.filter_eq_self.mpr fun l mem => ?_
      obtain ⟨p, inside, rfl⟩ := List.mem_map.mp mem
      exact allowed p inside
    rw [dedupLocations_of_pairwise (named.apart ts.metric), kept]
    exact limited_eq_self fun given => (List.length_map Place.location).trans_le (short given)

theorem guardSuggest_self (ts : TimetableService) (q : SuggestQuery) :
    (ts.provider.guardSuggest ts.metric q).answer = (ts.suggest q).answer := by
  refine Enquiry.answer_governed_self (fun e failed => ?_)
    (fun r => Provider.answer_reportFailure _ r) fun r answered => ?_
  · have passed : Check.capability capabilities .suggestLocations = .ok () := rfl
    cases passed.symm.trans failed
  · refine Response.map_eq_self fun found success => ?_
    obtain ⟨ranked, allowed, short⟩ := found_of_suggest answered success
    have still : Suggestion.ranked ts.metric ts.provider.capabilities.kindOrder found = found :=
      ranked
    rw [still, List.filter_eq_self.mpr allowed]
    exact limited_eq_self short

theorem guardDepartures_self (ts : TimetableService) (q : DeparturesQuery) :
    (ts.provider.guardDepartures q).answer = (ts.departures q).answer := by
  refine Enquiry.answer_governed_self (fun e failed => ?_)
    (fun r => Provider.answer_reportFailure _ r) fun r answered => ?_
  · have refused : Check.stationId q.station = .error e := failed
    change (ts.departures q).answer = .error e
    rw [departures, refused]
    rfl
  · refine Response.map_eq_self fun found success => ?_
    have short := found_of_departures answered success
    unfold Provider.cutBoards
    split
    · rfl
    · rename_i given
      have whole : ∀ b ∈ found, b.truncated q.maxCount.toNat = id b := fun b mem =>
        Board.truncated_self (short b mem given)
      rw [List.map_congr_left whole, List.map_id]

theorem guardTrips_self {q : TripQuery}
    (apart : q.origin.isSamePlace ts.metric q.destination = false) :
    (ts.provider.guardTrips ts.metric q).answer = (ts.trips q).answer := by
  rw [Provider.guardTrips_of_apart apart]
  exact Enquiry.answer_governed_self (fun e failed => trips_refused failed)
    (fun r => Provider.answer_reportFailure _ r.toResponse) fun _ _ => rfl

/-- Both tell apart first what is checked and then the places. -/
theorem guardTrips_of_tooClose {q : TripQuery}
    (same : q.origin.isSamePlace ts.metric q.destination = true) :
    (ts.trips q).answer = (ts.provider.guardTrips ts.metric q).answer.map
        (·.withHeader ts.timetable.header) ∧
      ∀ r, (ts.provider.guardTrips ts.metric q).answer = .ok r →
        r = TripsResponse.failed ts.timetable.network .tooClose := by
  rw [Provider.guardTrips_of_same same]
  cases checked : Check.tripQuery q capabilities with
  | error e =>
    have refused : (do
        Check.capability ts.provider.capabilities .trips
        Check.tripQuery q ts.provider.capabilities) = .error e := checked
    rw [refused, trips_refused checked]
    exact ⟨rfl, fun r answered => nomatch answered⟩
  | ok =>
    have passed : (do
        Check.capability ts.provider.capabilities .trips
        Check.tripQuery q ts.provider.capabilities) = .ok () := checked
    rw [answer_trips checked, answer_plan, Timetable.searchFor, if_pos same,
      Enquiry.answer_governed passed fun _ => rfl]
    refine ⟨rfl, fun r answered => ?_⟩
    cases answered
    rfl

theorem guardMoreTrips_self (ts : TimetableService) (c : Continuation) (later : Bool) :
    (ts.provider.guardMoreTrips c later).answer = (ts.moreTrips c later).answer := by
  rw [Provider.guardMoreTrips_eq]
  refine Enquiry.answer_governed_self (fun e failed => ?_)
    (fun r => Provider.answer_reportFailure _ r.toResponse) fun _ _ => rfl
  have refused : Check.paging ts.timetable.network c later = .error e := failed
  change (ts.moreTrips c later).answer = .error e
  rw [moreTrips, refused]
  rfl

end TimetableService

namespace Timetable

variable {tt : Timetable}

/-- The rules that providers share are those of a loaded timetable already. -/
theorem guarded_answers_alike {file : TimetableFile} (loaded : (ofFile file).value = .ok tt)
    (metric : Metric) (settings : Settings) :
    Provider.AnswersAlike metric tt.header
      ((tt.service metric settings).provider.guarded metric)
      (tt.service metric settings).provider where
  nearby := TimetableService.guardNearby_self (named_of_ofFile loaded)
  suggest := TimetableService.guardSuggest_self _
  departures := TimetableService.guardDepartures_self _
  trips _ apart := TimetableService.guardTrips_self apart
  tooClose _ same := TimetableService.guardTrips_of_tooClose same
  moreTrips := TimetableService.guardMoreTrips_self _

theorem guarded_answers_alike_patchy :
    ∃ tt, (ofFile Sample.patchy).value = .ok tt ∧ tt.places.length = 3 ∧
      Provider.AnswersAlike Sample.metric tt.header
        ((tt.service Sample.metric .usual).provider.guarded Sample.metric)
        (tt.service Sample.metric .usual).provider := by
  have checked : ((ofFile Sample.patchy).value.toOption.any fun tt =>
      decide (tt.places.length = 3)) = true := rfl
  obtain ⟨tt, loaded, places⟩ := exists_ok_of_any checked
  exact ⟨tt, loaded, of_decide_eq_true places, guarded_answers_alike loaded Sample.metric .usual⟩

end Timetable

end JourneyPlanner

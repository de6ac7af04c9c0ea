import Mathlib.Data.List.Forall2
import JourneyPlanner.Proofs.Location.Ranking
import JourneyPlanner.Proofs.Provider.Enquiring

set_option autoImplicit false

/-!
The rules that all providers share, whatever the provider they are put around does. A question that
fails its check is not passed on; every other one is passed on once, and what was found is brought
under the rule of the question. Errors and responses without a result pass as they are.
-/
namespace JourneyPlanner

/-- A response without a result stays, and of one with a result only what was found changes. -/
def Response.Ruled {σ α : Type} (rule : α → α → Prop) (r s : Response σ α) : Prop :=
  match r.outcome with
  | .error _ => s = r
  | .ok found => ∃ shown, s = { r with outcome := .ok shown } ∧ rule found shown

theorem Response.ruled_map {σ α : Type} {rule : α → α → Prop} {f : α → α}
    (ruled : ∀ found, rule found (f found)) (r : Response σ α) : r.Ruled rule (r.map f) := by
  unfold Ruled map
  cases outcome : r.outcome with
  | error reason =>
    change { r with outcome := .error reason } = r
    rw [← outcome]
  | ok found => exact ⟨f found, rfl, ruled found⟩

/-- Of the places of the kinds asked for, those that no place shown before is the same as; the first
ones up to the limit. -/
def NearbyQuery.Shows (metric : Metric) (q : NearbyQuery) (found shown : List Location) : Prop :=
  shown = limited q.maxCount
    (leading (Location.isSamePlace metric) (found.filter (kindAllowed q.kinds)))

/-- Suggestions in their ranks, of allowed places that are not the same. One that was found and is
allowed is missing only for the sake of one for the same place that is no worse, or for the
limit. -/
structure SuggestQuery.Shows (metric : Metric) (order : List LocationKind) (q : SuggestQuery)
    (found shown : List Suggestion) : Prop where
  inOrder : shown.Pairwise fun a b => (Suggestion.compareRank order a b).isLE = true
  apart : shown.Pairwise fun a b => a.location.isSamePlace metric b.location = false
  allowed : ∀ s ∈ shown, kindAllowed q.kinds s.location = true
  bounded : q.maxCount ≠ 0 → shown.length ≤ q.maxCount.toNat
  /-- Suggestions of one rank stay in the order in which they were found. -/
  drawn : shown.Sublist (found.mergeSort fun a b => (Suggestion.compareRank order a b).isLE)
  omitted : ∃ kept, shown = limited q.maxCount kept ∧
    ∀ s ∈ found, kindAllowed q.kinds s.location = true → s ∉ shown →
      (∃ k ∈ kept, k.location.isSamePlace metric s.location = true ∧
        (Suggestion.compareRank order k s).isLE = true) ∨
      (q.maxCount ≠ 0 ∧ shown.length = q.maxCount.toNat)

/-- The boards that were found, each with its first departures up to the limit. -/
def DeparturesQuery.Shows (q : DeparturesQuery) (found shown : List Board) : Prop :=
  List.Forall₂ (fun board cut => cut.location = board.location ∧ cut.lines = board.lines ∧
    cut.departures = limited q.maxCount board.departures) found shown

theorem NearbyQuery.shows (metric : Metric) (q : NearbyQuery) (found : List Location) :
    q.Shows metric found
      (limited q.maxCount ((dedupLocations metric found).filter (kindAllowed q.kinds))) := by
  rw [Shows, filter_dedupLocations]

/-- The suggestions left after ranking and filtering are cut last. -/
theorem SuggestQuery.shows (metric : Metric) (order : List LocationKind) (q : SuggestQuery)
    (found : List Suggestion) :
    q.Shows metric order found (limited q.maxCount
      ((Suggestion.ranked metric order found).filter fun s => kindAllowed q.kinds s.location)) := by
  have cut : (limited q.maxCount ((Suggestion.ranked metric order found).filter
      fun s => kindAllowed q.kinds s.location)).Sublist (Suggestion.ranked metric order found) :=
    (limited_sublist ..).trans List.filter_sublist
  refine ⟨(Suggestion.ranked_inOrder metric order found).sublist cut,
    (Suggestion.ranked_apart metric order found).sublist cut, fun s mem => ?_,
    fun given => length_limited_le given _,
    cut.trans (Suggestion.ranked_sublist metric order found), _, rfl,
    fun s mem allowed missing => ?_⟩
  · exact (List.mem_filter.mp ((limited_sublist ..).subset mem)).2
  · have found : ∃ k ∈ Suggestion.ranked metric order found, k = s ∨
        (k.location.isSamePlace metric s.location = true ∧
          (Suggestion.compareRank order k s).isLE = true) := Suggestion.exists_ranked mem
    obtain ⟨k, ranked, rfl | ⟨same, better⟩⟩ := found
    · have kept : k ∈ (Suggestion.ranked metric order _).filter
          fun s => kindAllowed q.kinds s.location := List.mem_filter.mpr ⟨ranked, allowed⟩
      exact .inr ((mem_limited_or_full kept).resolve_left missing)
    · refine .inl ⟨k, List.mem_filter.mpr ⟨ranked, ?_⟩, same, better⟩
      rw [Location.kindAllowed_eq_of_isSamePlace same]
      exact allowed

theorem DeparturesQuery.shows (q : DeparturesQuery) (found : List Board) :
    q.Shows found (Provider.cutBoards q.maxCount found) := by
  unfold Shows Provider.cutBoards
  split
  · rename_i unlimited
    refine List.forall₂_same.mpr fun board _ => ⟨rfl, rfl, ?_⟩
    rw [limited, if_pos unlimited]
  · rename_i given
    refine List.forall₂_map_right_iff.mpr (List.forall₂_same.mpr fun board _ => ⟨rfl, rfl, ?_⟩)
    rw [limited, if_neg given]
    rfl

namespace Provider

theorem answer_reportFailure {σ α : Type} [Reason σ] (message : String) (r : Response σ α) :
    (reportFailure message r).answer = .ok () := by
  unfold reportFailure
  cases r.outcome <;> rfl

/-- What a provider does when the shared rules are put around another one. -/
structure RulesOver (metric : Metric) (p g : Provider) : Prop where
  nearby : ∀ q, (g.nearby q).Governs (p.nearby q)
    (do Check.capability p.capabilities .nearbyLocations
        Check.nearbyLocation q.location)
    "rejected nearby query" (fun r => (reportFailure "nearby query failed" r).events)
    (Response.Ruled (q.Shows metric))
  suggest : ∀ q, (g.suggest q).Governs (p.suggest q)
    (Check.capability p.capabilities .suggestLocations)
    "rejected suggest query" (fun r => (reportFailure "suggest query failed" r).events)
    (Response.Ruled (q.Shows metric p.capabilities.kindOrder))
  departures : ∀ q, (g.departures q).Governs (p.departures q)
    (do Check.capability p.capabilities .departures
        Check.stationId q.station)
    "rejected departures query" (fun r => (reportFailure "departures query failed" r).events)
    (Response.Ruled q.Shows)
  trips : ∀ q, q.origin.isSamePlace metric q.destination = false →
    (g.trips q).Governs (p.trips q)
      (do Check.capability p.capabilities .trips
          Check.tripQuery q p.capabilities)
      "rejected trip query" (fun r => (reportFailure "trip query failed" r.toResponse).events)
      fun r s => s = r
  /-- Nothing is looked for between places that are the same. -/
  tooClose : ∀ q, q.origin.isSamePlace metric q.destination = true →
    (g.trips q).Governs
      (do Enquiry.report .debug "origin and destination are the same place" []
          return TripsResponse.failed p.network .tooClose)
      (do Check.capability p.capabilities .trips
          Check.tripQuery q p.capabilities)
      "rejected trip query" (fun _ => []) fun r s => s = r
  moreTrips : ∀ c later, (g.moreTrips c later).Governs (p.moreTrips c later)
    (do Check.capability p.capabilities .trips
        Check.paging p.network c later)
    "rejected paging request" (fun r => (reportFailure "paging failed" r.toResponse).events)
    fun r s => s = r

variable {metric : Metric} {p : Provider}

theorem guardTrips_of_same {q : TripQuery}
    (same : q.origin.isSamePlace metric q.destination = true) :
    p.guardTrips metric q =
      Enquiry.governed "rejected trip query" (do
        Check.capability p.capabilities .trips
        Check.tripQuery q p.capabilities)
      (do Enquiry.report .debug "origin and destination are the same place" []
          return TripsResponse.failed p.network .tooClose)
      (fun _ => pure ()) id := by
  unfold guardTrips Enquiry.governed
  simp only [if_pos same]
  rfl

theorem guardTrips_of_apart {q : TripQuery}
    (apart : q.origin.isSamePlace metric q.destination = false) :
    p.guardTrips metric q =
      Enquiry.governed "rejected trip query" (do
        Check.capability p.capabilities .trips
        Check.tripQuery q p.capabilities)
      (p.trips q) (fun r => reportFailure "trip query failed" r.toResponse) id := by
  unfold guardTrips Enquiry.governed
  simp only [apart, Bool.false_eq_true, if_false]
  rfl

theorem guardMoreTrips_eq (p : Provider) (c : Continuation) (later : Bool) :
    p.guardMoreTrips c later =
      Enquiry.governed "rejected paging request" (do
        Check.capability p.capabilities .trips
        Check.paging p.network c later)
      (p.moreTrips c later) (fun r => reportFailure "paging failed" r.toResponse) id := rfl

/-- With the shared rules put around a provider, an answer is that places are too close, or it is
that of the provider. -/
theorem answer_guardTrips_cases {q : TripQuery} {r : TripsResponse}
    (answered : (p.guardTrips metric q).answer = .ok r) :
    r = TripsResponse.failed p.network .tooClose ∨ (p.trips q).answer = .ok r := by
  cases same : q.origin.isSamePlace metric q.destination with
  | true =>
    rw [guardTrips_of_same same] at answered
    obtain ⟨-, s, asked, rfl⟩ := Enquiry.answered_of_governed answered fun _ => rfl
    cases asked
    exact .inl rfl
  | false =>
    rw [guardTrips_of_apart same] at answered
    obtain ⟨-, s, asked, rfl⟩ :=
      Enquiry.answered_of_governed answered fun r => answer_reportFailure _ r.toResponse
    exact .inr asked

theorem answer_of_guardMoreTrips {c : Continuation} {later : Bool} {r : TripsResponse}
    (answered : (p.guardMoreTrips c later).answer = .ok r) :
    (p.moreTrips c later).answer = .ok r := by
  rw [guardMoreTrips_eq] at answered
  obtain ⟨-, s, asked, rfl⟩ :=
    Enquiry.answered_of_governed answered fun r => answer_reportFailure _ r.toResponse
  exact asked

/-- The rules hold over every provider, whatever it answers. -/
theorem guarded_rules_over (metric : Metric) (p : Provider) :
    RulesOver metric p (p.guarded metric) where
  nearby q := Enquiry.governs_governed (fun r => answer_reportFailure _ r)
    (Response.ruled_map (q.shows metric))
  suggest q := Enquiry.governs_governed (fun r => answer_reportFailure _ r)
    (Response.ruled_map (q.shows metric p.capabilities.kindOrder))
  departures q := Enquiry.governs_governed (fun r => answer_reportFailure _ r)
    (Response.ruled_map q.shows)
  trips q apart := by
    have governed : (p.guarded metric).trips q = _ := guardTrips_of_apart apart
    rw [governed]
    exact Enquiry.governs_governed (fun r => answer_reportFailure _ r.toResponse) fun _ => rfl
  tooClose q same := by
    have governed : (p.guarded metric).trips q = _ := guardTrips_of_same same
    rw [governed]
    exact Enquiry.governs_governed (fun _ => rfl) fun _ => rfl
  moreTrips c later := by
    have governed : (p.guarded metric).moreTrips c later =
      Enquiry.governed "rejected paging request"
        (do Check.capability p.capabilities .trips
            Check.paging p.network c later)
        (p.moreTrips c later) (fun r => reportFailure "paging failed" r.toResponse) id := rfl
    rw [governed]
    exact Enquiry.governs_governed (fun r => answer_reportFailure _ r.toResponse) fun _ => rfl

end Provider

end JourneyPlanner

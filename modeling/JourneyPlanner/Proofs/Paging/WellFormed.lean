import JourneyPlanner.Proofs.Paging.Coverage
import JourneyPlanner.Proofs.Provider.Rules
import JourneyPlanner.Proofs.Timetable.Named

set_option autoImplicit false

/-!
What an answer to a search for trips looks like, whatever was asked and whichever continuation was
presented. A page is neither empty nor too long, and an answer without one holds nothing and leads
nowhere. Between places that are the same, or turn out to be the same, nothing is looked for.
-/
namespace JourneyPlanner

/-- A page of at most so many trips of the network in their order, or nothing at all. -/
structure TripsResponse.WellFormed (network : NetworkId) (size : Nat) (r : TripsResponse) :
    Prop where
  network : r.continuation.network = network
  failed : r.isOk = false → r.trips = [] ∧ r.page.origin = none ∧ r.page.via = none ∧
    r.page.destination = none ∧ r.continuation.isTerminal = true ∧ r.continuation.payload = none
  shown : r.isOk = true → 1 ≤ r.trips.length ∧ r.trips.length ≤ size ∧ Trip.Ascending r.trips
  payload : r.isOk = true →
    (r.continuation.payload.isSome = true ↔ ∃ later, r.continuation.allows later = true)

/-- The places of the query are the same, or what they are understood as is one place of the
timetable. -/
inductive TripQuery.Meets (tt : Timetable) (metric : Metric) (q : TripQuery) : Prop where
  | asked (same : q.origin.isSamePlace metric q.destination = true)
  | found {p : Place} (known : p ∈ tt.places) (covered : tt.covers q.time = true)
      (origin : tt.resolve metric q.origin .unknownFrom = .ok (tt.endpointAt metric p))
      (destination : tt.resolve metric q.destination .unknownTo = .ok (tt.endpointAt metric p))
      (via : ∀ via, q.via = some via → ∃ e, tt.resolve metric via .unknownVia = .ok e)

/-- How a provider over a timetable answers searches for trips. -/
structure Provider.AnswersWell (tt : Timetable) (metric : Metric) (size : Nat) (p : Provider) :
    Prop where
  network : p.network = tt.network
  capabilities : p.capabilities = TimetableService.capabilities
  trips : ∀ q r, (p.trips q).answer = .ok r → r.WellFormed tt.network size
  moreTrips : ∀ c later r, (p.moreTrips c later).answer = .ok r → r.WellFormed tt.network size
  /-- Every accepted query between places that meet is answered. -/
  meeting : ∀ q, q.Meets tt metric → Check.tripQuery q p.capabilities = .ok () →
    ∃ r, (p.trips q).answer = .ok r
  tooClose : ∀ q r, q.Meets tt metric → (p.trips q).answer = .ok r →
    r.outcome = .error .tooClose
  stillTooClose : ∀ c later cursor r, c.payloadAs Cursor = .ok cursor →
    cursor.query.Meets tt metric → (p.moreTrips c later).answer = .ok r →
      r.outcome = .error .tooClose

namespace TripsResponse

variable {network : NetworkId} {size : Nat} {r : TripsResponse}

theorem wellFormed_of_failed (failure : r.isOk = false) (own : r.network = network) :
    r.WellFormed network size := by
  have blank : r.page = .blank network := by
    unfold page
    cases outcome : r.outcome with
    | ok page => simp only [Response.isOk, outcome, Except.toBool, Bool.true_eq_false] at failure
    | error reason => rw [own]
  unfold Response.isOk at failure
  refine ⟨?_, fun _ => ?_, fun success => ?_, fun success => ?_⟩
  · rw [continuation, blank]
    rfl
  · rw [trips, continuation, blank]
    exact ⟨rfl, rfl, rfl, rfl, rfl, rfl⟩
  · exact absurd (failure.symm.trans success) Bool.false_ne_true
  · exact absurd (failure.symm.trans success) Bool.false_ne_true

end TripsResponse

namespace Continuation

/-- What leads nowhere carries nothing. -/
theorem isSome_payload_ofPayload (network : NetworkId) (earlier later : Bool) (payload : Json) :
    (ofPayload network earlier later payload).payload.isSome = true ↔
      ∃ direction, (ofPayload network earlier later payload).allows direction = true := by
  cases earlier <;> cases later <;> simp [ofPayload, terminal, allows]

end Continuation

namespace TimetableService

variable {ts : TimetableService} {q : TripQuery} {page : Page} {r : TripsResponse}

theorem wellFormed_found {search : Search} {trips : List Trip} {cut : Cut}
    (explored : search.trips? ts.timetable = some trips)
    (made : page.cut? ts.pageSize trips = some cut) :
    (ts.found q search cut).WellFormed ts.timetable.network ts.pageSize := by
  have ascending := Search.trips?_ascending explored
  have described := Page.describes_of_cut? ascending made
  refine ⟨?_, fun failure => ?_, fun _ => ⟨?_, described.length_le, ?_⟩, fun _ => ?_⟩
  · exact Continuation.network_ofPayload ..
  · cases failure
  · exact List.length_pos_iff.mpr described.trips_ne_nil
  · have whole : Trip.Ascending (page.admitted trips) := ascending.filter _
    rw [(described.admitted_split ascending).1, List.append_assoc] at whole
    exact (List.pairwise_append.mp (List.pairwise_append.mp whole).2.1).1
  · exact Continuation.isSome_payload_ofPayload ..

theorem wellFormed_of_plan (answered : (ts.plan q page).answer = .ok r) :
    r.WellFormed ts.timetable.network ts.pageSize := by
  rcases answer_plan_cases answered with
    ⟨reason, rfl⟩ | ⟨search, trips, cut, -, explored, made, rfl⟩
  · exact TripsResponse.wellFormed_of_failed rfl rfl
  · exact wellFormed_found explored made

/-- Only continuations of the network that lead on are answered. -/
theorem allows_of_moreTrips {c : Continuation} {later : Bool}
    (answered : (ts.moreTrips c later).answer = .ok r) :
    c.network = ts.timetable.network ∧ c.allows later = true := by
  by_cases own : c.network = ts.timetable.network
  · by_cases allowed : c.allows later = true
    · exact ⟨own, allowed⟩
    · rw [answer_moreTrips_blocked ts own allowed] at answered
      cases answered
  · rw [answer_moreTrips_foreign ts later own] at answered
    cases answered

theorem wellFormed_of_moreTrips {c : Continuation} {later : Bool}
    (answered : (ts.moreTrips c later).answer = .ok r) :
    r.WellFormed ts.timetable.network ts.pageSize := by
  obtain ⟨own, allowed⟩ := allows_of_moreTrips answered
  cases read : c.payloadAs Cursor with
  | error e =>
    rw [answer_moreTrips_unreadable ts own allowed read] at answered
    cases answered
    exact TripsResponse.wellFormed_of_failed rfl rfl
  | ok cursor =>
    rw [answer_moreTrips_read ts own allowed read] at answered
    exact wellFormed_of_plan answered

end TimetableService

namespace Timetable

variable {tt : Timetable} {metric : Metric} {settings : Settings} {q : TripQuery} {p : Provider}

/-- Places of a timetable have ids, by which each is the same as itself. -/
theorem isSamePlace_self {place : Place} (named : NamedPlaces tt.places)
    (known : place ∈ tt.places) : place.location.isSamePlace metric place.location = true := by
  rw [Location.isSamePlace, if_neg (not_not_intro rfl), named.located place known]
  exact decide_eq_true rfl

theorem searchOf_of_found {place : Place} (named : NamedPlaces tt.places)
    (known : place ∈ tt.places)
    (origin : tt.resolve metric q.origin .unknownFrom = .ok (tt.endpointAt metric place))
    (destination : tt.resolve metric q.destination .unknownTo = .ok (tt.endpointAt metric place))
    (via : ∀ via, q.via = some via → ∃ e, tt.resolve metric via .unknownVia = .ok e) :
    (tt.service metric settings).searchOf q = .error .tooClose := by
  have same : place.location.isSamePlace metric place.location = true :=
    isSamePlace_self named known
  unfold TimetableService.searchOf
  simp only [service, origin, destination]
  cases wanted : q.via with
  | none => exact if_pos same
  | some place =>
    obtain ⟨e, resolved⟩ := via place wanted
    simp only [resolved]
    exact if_pos same

/-- Wherever the places of a query meet, no trips are looked for. -/
theorem searchFor_of_meets (named : NamedPlaces tt.places) (meets : q.Meets tt metric) :
    tt.searchFor metric q = .error .tooClose := by
  unfold searchFor
  by_cases close : q.origin.isSamePlace metric q.destination = true
  · rw [if_pos close]
  · rw [if_neg close]
    cases meets with
    | asked same => exact absurd same close
    | found known covered origin destination via =>
      rw [covered, Bool.not_true, if_neg Bool.false_ne_true]
      exact searchOf_of_found named known origin destination via

theorem answer_plan_of_meets (named : NamedPlaces tt.places) (meets : q.Meets tt metric)
    (page : Page) :
    ((tt.service metric settings).plan q page).answer =
      .ok ((TripsResponse.failed tt.network .tooClose).withHeader tt.header) := by
  have met : (tt.service metric settings).timetable.searchFor
      (tt.service metric settings).metric q = .error .tooClose := searchFor_of_meets named meets
  rw [answer_plan, met]
  rfl

theorem bare_answersWell (named : NamedPlaces tt.places) (metric : Metric) (settings : Settings) :
    (tt.service metric settings).provider.AnswersWell tt metric
      (TimetableService.pageSizeOf settings) where
  network := rfl
  capabilities := rfl
  trips q r answered := TimetableService.wellFormed_of_plan (answer_plan_of_trips answered)
  moreTrips c later r answered := TimetableService.wellFormed_of_moreTrips answered
  meeting q meets accepted :=
    ⟨_, (answer_trips accepted).trans (answer_plan_of_meets named meets _)⟩
  tooClose q r meets answered := by
    have planned := answer_plan_of_trips answered
    rw [answer_plan_of_meets named meets] at planned
    cases planned
    rfl
  stillTooClose c later cursor r read meets answered := by
    obtain ⟨own, allowed⟩ := TimetableService.allows_of_moreTrips answered
    have planned := (answer_moreTrips_read _ own allowed read).symm.trans answered
    rw [answer_plan_of_meets named meets] at planned
    cases planned
    rfl

end Timetable

namespace Provider

variable {tt : Timetable} {metric : Metric} {size : Nat} {p : Provider} {q : TripQuery}
  {r : TripsResponse}

/-- Put around a provider that answers well, the shared rules keep it so. -/
theorem AnswersWell.guarded (well : p.AnswersWell tt metric size) :
    (p.guarded metric).AnswersWell tt metric size where
  network := well.network
  capabilities := well.capabilities
  trips q r answered := by
    rcases answer_guardTrips_cases answered with rfl | asked
    · exact TripsResponse.wellFormed_of_failed rfl well.network
    · exact well.trips q r asked
  moreTrips c later r answered := well.moreTrips c later r (answer_of_guardMoreTrips answered)
  meeting q meets accepted := by
    have passed : (do
        Check.capability p.capabilities .trips
        Check.tripQuery q p.capabilities) = .ok () := by
      have accepted : Check.tripQuery q p.capabilities = .ok () := accepted
      rw [accepted, well.capabilities]
      rfl
    change ∃ r, (p.guardTrips metric q).answer = .ok r
    cases same : q.origin.isSamePlace metric q.destination with
    | true =>
      rw [guardTrips_of_same same, Enquiry.answer_governed passed fun _ => rfl]
      exact ⟨_, rfl⟩
    | false =>
      obtain ⟨r, asked⟩ := well.meeting q meets accepted
      have quiet (r : TripsResponse) := answer_reportFailure "trip query failed" r.toResponse
      rw [guardTrips_of_apart same, Enquiry.answer_governed passed quiet, asked]
      exact ⟨r, rfl⟩
  tooClose q r meets answered := by
    rcases answer_guardTrips_cases answered with rfl | asked
    · rfl
    · exact well.tooClose q r meets asked
  stillTooClose c later cursor r read meets answered :=
    well.stillTooClose c later cursor r read meets (answer_of_guardMoreTrips answered)

end Provider

namespace Timetable

variable {tt : Timetable} {metric : Metric} {settings : Settings} {p : Provider}

/-- The provider over a timetable, as it is and with the shared rules put around it, however many
times. -/
inductive Serves (tt : Timetable) (metric : Metric) (settings : Settings) : Provider → Prop where
  | bare : Serves tt metric settings (tt.service metric settings).provider
  | guarded {p : Provider} (inner : Serves tt metric settings p) :
      Serves tt metric settings (p.guarded metric)

/-- Every answer of a provider over a loaded timetable is well-formed, guarded or not: a page of the
network, or nothing. -/
theorem answersWell_of_serves {file : TimetableFile} (loaded : (ofFile file).value = .ok tt)
    (serves : tt.Serves metric settings p) :
    p.AnswersWell tt metric (TimetableService.pageSizeOf settings) := by
  induction serves with
  | bare => exact bare_answersWell (named_of_ofFile loaded) metric settings
  | guarded _ ih => exact ih.guarded

/-- From a station to a point of interest that has its id. -/
def turningUp : TripQuery :=
  { Overtaking.query true 0 with destination := Sample.poiPlace "A" rfl }

theorem answersWell_of_serves_overtaking :
    ∃ tt p r s, (ofFile Overtaking.file).value = .ok tt ∧ tt.Serves Sample.metric onePerPage p ∧
      (p.trips (Overtaking.query true 0)).answer = .ok r ∧ r.isOk = true ∧
      turningUp.origin.isSamePlace Sample.metric turningUp.destination = false ∧
      turningUp.Meets tt Sample.metric ∧ (p.trips turningUp).answer = .ok s ∧
      p.AnswersWell tt Sample.metric (TimetableService.pageSizeOf onePerPage) := by
  have checked : ((ofFile Overtaking.file).value.toOption.any fun tt =>
      (tt.placeWithId? "A").any fun _ => tt.covers turningUp.time &&
        (((tt.service Sample.metric onePerPage).provider.guarded Sample.metric).trips
          (Overtaking.query true 0)).answer.toOption.any fun r => r.isOk) = true := by cbv
  obtain ⟨tt, loaded, checked⟩ := exists_ok_of_any checked
  obtain ⟨place, found, checked⟩ := (Option.any_eq_true _ _).mp checked
  obtain ⟨covered, checked⟩ := Bool.and_eq_true_iff.mp checked
  obtain ⟨r, answered, success⟩ := exists_ok_of_any checked
  have resolved (l : Location) (unknown : NoTrips) (named : l.id = some "A") :
      tt.resolve Sample.metric l unknown = .ok (tt.endpointAt Sample.metric place) := by
    simp only [resolve, named, found]
  have meets : turningUp.Meets tt Sample.metric :=
    .found (List.mem_of_find?_eq_some found) covered (resolved _ _ rfl) (resolved _ _ rfl)
      fun via wanted => by cases wanted
  have serves : tt.Serves Sample.metric onePerPage
      ((tt.service Sample.metric onePerPage).provider.guarded Sample.metric) := .guarded .bare
  have well := answersWell_of_serves loaded serves
  obtain ⟨s, answeredToo⟩ := well.meeting turningUp meets rfl
  exact ⟨tt, _, r, s, loaded, serves, answered, success, rfl, meets, answeredToo, well⟩

end Timetable

end JourneyPlanner

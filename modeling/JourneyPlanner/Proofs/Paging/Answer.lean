import JourneyPlanner.Proofs.Json.Queries
import JourneyPlanner.Proofs.Paging.Cut
import JourneyPlanner.Proofs.Provider.Enquiring
import JourneyPlanner.Timetable.Provider

set_option autoImplicit false

/-!
What a search over a timetable answers, and what its continuation leads to. The list of all trips
depends on the timetable and the query alone, and a continuation holds the query and the ends of its
page, so any provider over the timetable goes on where the last page ended.
-/
namespace JourneyPlanner

open Record (required_reads)

instance : Faithful TripKey where
  exact k := by
    change Json.fieldsExact [("departure", encode k.departure), ("arrival", encode k.arrival),
      ("id", encode k.id)] = true
    simp only [Json.fieldsExact, Faithful.exact, Bool.and_self]
  decode_encode k := by
    refine Record.Reads.decode ?_
    exact (((required_reads rfl).map TripKey.mk).seq (required_reads rfl)).seq (required_reads rfl)

instance : Faithful Cursor where
  exact c := by
    change Json.fieldsExact [("query", encode c.query), ("first", encode c.first),
      ("last", encode c.last)] = true
    simp only [Json.fieldsExact, Faithful.exact, Bool.and_self]
  decode_encode c := by
    refine Record.Reads.decode ?_
    exact (((required_reads rfl).map Cursor.mk).seq (required_reads rfl)).seq (required_reads rfl)

namespace Continuation

theorem allows_ofPayload (network : NetworkId) (earlier later direction : Bool) (payload : Json) :
    (ofPayload network earlier later payload).allows direction =
      if direction then later else earlier := by
  cases earlier <;> cases later <;> cases direction <;> rfl

theorem network_ofPayload (network : NetworkId) (earlier later : Bool) (payload : Json) :
    (ofPayload network earlier later payload).network = network := by
  cases earlier <;> cases later <;> rfl

theorem payload_ofPayload {network : NetworkId} {earlier later direction : Bool} {payload : Json}
    (allowed : (ofPayload network earlier later payload).allows direction = true) :
    (ofPayload network earlier later payload).payload = some payload.render := by
  cases earlier <;> cases later <;> cases direction <;> first | rfl | cases allowed

/-- What leads on still holds what was put there. -/
theorem payloadAs_ofPayload {α : Type} [Codec α] [Faithful α] {network : NetworkId}
    {earlier later direction : Bool} {a : α}
    (allowed : (ofPayload network earlier later (encode a)).allows direction = true) :
    (ofPayload network earlier later (encode a)).payloadAs α = .ok a := by
  rw [payloadAs, payload_ofPayload allowed]
  simp only [decodeText_encode]
  rfl

end Continuation

namespace Timetable

/-- The timetable with a provider over it, which the settings tell how long its pages are. -/
def service (tt : Timetable) (metric : Metric) (settings : Settings) : TimetableService :=
  { timetable := tt, pageSize := TimetableService.pageSizeOf settings, metric }

/-- The places of a query as the timetable knows them, or why it is not searched for. -/
def searchFor (tt : Timetable) (metric : Metric) (q : TripQuery) : Except NoTrips Search :=
  if q.origin.isSamePlace metric q.destination then .error .tooClose
  else if !tt.covers q.time then .error .invalidDate
  else (tt.service metric .usual).searchOf q

/-- All trips that a query finds, in their order. -/
def trips? (tt : Timetable) (metric : Metric) (q : TripQuery) : Option (List Trip) :=
  (tt.searchFor metric q).toOption.bind fun search => search.trips? tt

end Timetable

namespace TimetableService

theorem pageSizeOf_pos (settings : Settings) : 0 < pageSizeOf settings := by
  unfold pageSizeOf
  split
  · decide
  · rename_i given
    exact Nat.pos_of_ne_zero fun zero => given (UInt32.toNat_inj.mp zero)

/-- The answer with a page that was cut from the trips of a search. -/
def found (ts : TimetableService) (q : TripQuery) (search : Search) (cut : Cut) : TripsResponse :=
  (TripsResponse.ok ts.timetable.network {
    origin := some search.origin.location
    via := search.via.map (·.location)
    destination := some search.destination.location
    trips := cut.trips
    continuation := ts.continuationOf q cut }).withHeader ts.timetable.header

theorem continuation_found (ts : TimetableService) (q : TripQuery) (search : Search) (cut : Cut) :
    (ts.found q search cut).continuation = ts.continuationOf q cut := rfl

end TimetableService

/-- Only an answer with trips leads on. -/
theorem TripsResponse.isOk_of_allows {r : TripsResponse} {later : Bool}
    (allowed : r.continuation.allows later = true) : r.isOk = true := by
  cases outcome : r.outcome with
  | ok page => simp only [Response.isOk, outcome, Except.toBool]
  | error reason =>
    simp only [TripsResponse.continuation, TripsResponse.page, outcome] at allowed
    cases later <;> cases allowed

theorem TripsResponse.isOk_of_mem {r : TripsResponse} {t : Trip} (mem : t ∈ r.trips) :
    r.isOk = true := by
  cases outcome : r.outcome with
  | ok page => simp only [Response.isOk, outcome, Except.toBool]
  | error reason =>
    simp only [TripsResponse.trips, TripsResponse.page, outcome] at mem
    cases mem

section Planning

variable {ts : TimetableService} {q : TripQuery} {page : Page}

/-- Whatever provider there is over the timetable, it searches for the same. -/
theorem answer_plan (ts : TimetableService) (q : TripQuery) (page : Page) :
    (ts.plan q page).answer =
      match ts.timetable.searchFor ts.metric q with
      | .error reason =>
          .ok ((TripsResponse.failed ts.timetable.network reason).withHeader ts.timetable.header)
      | .ok search => (ts.pageOf q search page).answer := by
  have same : (ts.timetable.service ts.metric .usual).searchOf q = ts.searchOf q := rfl
  unfold Timetable.searchFor TimetableService.plan
  rw [same]
  by_cases close : q.origin.isSamePlace ts.metric q.destination = true
  · simp only [if_pos close]
    rfl
  · simp only [if_neg close]
    by_cases outside : (!ts.timetable.covers q.time) = true
    · simp only [if_pos outside]
      rfl
    · simp only [if_neg outside]
      cases ts.searchOf q <;> rfl

theorem answer_plan_of_cut {search : Search} {trips : List Trip} {cut : Cut}
    (resolved : ts.timetable.searchFor ts.metric q = .ok search)
    (explored : search.trips? ts.timetable = some trips)
    (made : page.cut? ts.pageSize trips = some cut) :
    (ts.plan q page).answer = .ok (ts.found q search cut) := by
  rw [answer_plan, resolved]
  simp only [TimetableService.pageOf, explored, made]
  rfl

/-- A page fails for want of time, is a reason why there is none, or was cut from the trips that the
query finds. -/
theorem plan_outcomes (ts : TimetableService) (q : TripQuery) (page : Page) :
    (∃ search, ts.timetable.searchFor ts.metric q = .ok search ∧
      search.trips? ts.timetable = none ∧ (ts.plan q page).answer = .error .timeOutOfRange) ∨
    (∃ reason, (ts.plan q page).answer =
      .ok ((TripsResponse.failed ts.timetable.network reason).withHeader ts.timetable.header)) ∨
    ∃ search trips cut, ts.timetable.searchFor ts.metric q = .ok search ∧
      search.trips? ts.timetable = some trips ∧ page.cut? ts.pageSize trips = some cut ∧
        (ts.plan q page).answer = .ok (ts.found q search cut) := by
  cases resolved : ts.timetable.searchFor ts.metric q with
  | error reason =>
    rw [answer_plan, resolved]
    exact .inr (.inl ⟨reason, rfl⟩)
  | ok search =>
    cases explored : search.trips? ts.timetable with
    | none =>
      rw [answer_plan, resolved]
      simp only [TimetableService.pageOf, explored]
      exact .inl ⟨search, rfl, explored, rfl⟩
    | some trips =>
      cases made : page.cut? ts.pageSize trips with
      | none =>
        rw [answer_plan, resolved]
        simp only [TimetableService.pageOf, explored, made]
        exact .inr (.inl ⟨.noTrips, rfl⟩)
      | some cut =>
        exact .inr (.inr ⟨search, trips, cut, rfl, explored, made,
          answer_plan_of_cut resolved explored made⟩)

/-- A page fails only for want of time. -/
theorem error_of_plan {e : QueryError} (failed : (ts.plan q page).answer = .error e) :
    e = .timeOutOfRange := by
  rcases plan_outcomes ts q page with
    ⟨search, -, -, late⟩ | ⟨reason, told⟩ | ⟨search, trips, cut, -, -, -, shown⟩
  · cases late.symm.trans failed
    rfl
  · cases told.symm.trans failed
  · cases shown.symm.trans failed

/-- What is answered is a reason or a page cut from the trips that the query finds. -/
theorem answer_plan_cases {r : TripsResponse} (answered : (ts.plan q page).answer = .ok r) :
    (∃ reason,
      r = (TripsResponse.failed ts.timetable.network reason).withHeader ts.timetable.header) ∨
    ∃ search trips cut, ts.timetable.searchFor ts.metric q = .ok search ∧
      search.trips? ts.timetable = some trips ∧ page.cut? ts.pageSize trips = some cut ∧
        r = ts.found q search cut := by
  rcases plan_outcomes ts q page with
    ⟨search, -, -, failed⟩ | ⟨reason, told⟩ | ⟨search, trips, cut, resolved, explored, made, shown⟩
  · cases failed.symm.trans answered
  · cases told.symm.trans answered
    exact .inl ⟨reason, rfl⟩
  · cases shown.symm.trans answered
    exact .inr ⟨search, trips, cut, resolved, explored, made, rfl⟩

/-- Every answer with a page was cut from the trips that the query finds. -/
theorem cut_of_answer_plan {r : TripsResponse} (answered : (ts.plan q page).answer = .ok r)
    (success : r.isOk = true) :
    ∃ search trips cut, ts.timetable.searchFor ts.metric q = .ok search ∧
      search.trips? ts.timetable = some trips ∧ page.cut? ts.pageSize trips = some cut ∧
        r = ts.found q search cut := by
  rcases answer_plan_cases answered with ⟨reason, rfl⟩ | cut
  · cases success
  · exact cut

theorem answer_trips (accepted : Check.tripQuery q TimetableService.capabilities = .ok ()) :
    (ts.trips q).answer = (ts.plan q (TimetableService.firstPage q)).answer := by
  unfold TimetableService.trips
  rw [accepted]

theorem trips_refused {e : QueryError}
    (refused : Check.tripQuery q TimetableService.capabilities = .error e) :
    (ts.trips q).answer = .error e := by
  rw [TimetableService.trips, refused]
  rfl

/-- Only an accepted query is answered, with its first page. -/
theorem answer_plan_of_trips {r : TripsResponse} (answered : (ts.trips q).answer = .ok r) :
    (ts.plan q (TimetableService.firstPage q)).answer = .ok r := by
  unfold TimetableService.trips at answered
  cases checked : Check.tripQuery q TimetableService.capabilities with
  | error e =>
    rw [checked] at answered
    cases answered
  | ok =>
    rw [checked] at answered
    exact answered

theorem cut_of_answer_trips {r : TripsResponse} (answered : (ts.trips q).answer = .ok r)
    (success : r.isOk = true) :
    ∃ search trips cut, ts.timetable.searchFor ts.metric q = .ok search ∧
      search.trips? ts.timetable = some trips ∧
      (TimetableService.firstPage q).cut? ts.pageSize trips = some cut ∧
        r = ts.found q search cut :=
  cut_of_answer_plan (answer_plan_of_trips answered) success

end Planning

section Continuing

variable {ts maker : TimetableService} {q : TripQuery} {cut : Cut} {c : Continuation} {later : Bool}

theorem answer_moreTrips_foreign (ts : TimetableService) (later : Bool)
    (foreign : c.network ≠ ts.timetable.network) :
    (ts.moreTrips c later).answer =
      .error (.foreignContinuation ts.timetable.network c.network) := by
  have refused : Check.paging ts.timetable.network c later =
      .error (.foreignContinuation ts.timetable.network c.network) := if_pos foreign
  rw [TimetableService.moreTrips, refused]
  rfl

theorem answer_moreTrips_blocked (ts : TimetableService) (own : c.network = ts.timetable.network)
    (blocked : ¬ c.allows later = true) :
    (ts.moreTrips c later).answer = .error (.pagingNotAllowed later) := by
  have refused : Check.paging ts.timetable.network c later = .error (.pagingNotAllowed later) := by
    rw [Check.paging, if_neg (not_not_intro own), if_neg blocked]
  rw [TimetableService.moreTrips, refused]
  rfl

theorem paging_ok_iff {network : NetworkId} :
    Check.paging network c later = .ok () ↔ c.network = network ∧ c.allows later = true := by
  rw [Check.paging]
  by_cases own : c.network = network
  · rw [if_neg (not_not_intro own)]
    by_cases allowed : c.allows later = true
    · rw [if_pos allowed]
      exact iff_of_true rfl ⟨own, allowed⟩
    · rw [if_neg allowed]
      exact iff_of_false (fun passed => nomatch passed) fun both => allowed both.2
  · rw [if_pos own]
    exact iff_of_false (fun passed => nomatch passed) fun both => own both.1

theorem answer_moreTrips_unreadable (ts : TimetableService) {e : ContinuationError}
    (own : c.network = ts.timetable.network) (allowed : c.allows later = true)
    (unreadable : c.payloadAs Cursor = .error e) :
    (ts.moreTrips c later).answer =
      .ok ((TripsResponse.serviceDown ts.timetable.network e.message).withHeader
        ts.timetable.header) := by
  rw [TimetableService.moreTrips, paging_ok_iff.mpr ⟨own, allowed⟩]
  simp only [unreadable]
  rfl

/-- A direction that is allowed leads to the page of the cursor, wherever the cursor is from. -/
theorem answer_moreTrips_read (ts : TimetableService) {cursor : Cursor}
    (own : c.network = ts.timetable.network) (allowed : c.allows later = true)
    (read : c.payloadAs Cursor = .ok cursor) :
    (ts.moreTrips c later).answer = (ts.plan cursor.query (cursor.page later)).answer := by
  rw [TimetableService.moreTrips, paging_ok_iff.mpr ⟨own, allowed⟩]
  simp only [read]

theorem allows_continuationOf (ts : TimetableService) (q : TripQuery) (cut : Cut) (later : Bool) :
    (ts.continuationOf q cut).allows later = if later then cut.later else cut.earlier :=
  Continuation.allows_ofPayload ..

/-- A page leads to the one beside it, whoever made the page. -/
theorem answer_moreTrips (shared : maker.timetable.network = ts.timetable.network)
    (allowed : (maker.continuationOf q cut).allows later = true) :
    (ts.moreTrips (maker.continuationOf q cut) later).answer =
      (ts.plan q (Cursor.page ⟨q, cut.first.key, cut.last.key⟩ later)).answer := by
  have own : (maker.continuationOf q cut).network = ts.timetable.network := by
    rw [← shared]
    exact Continuation.network_ofPayload ..
  have read : (maker.continuationOf q cut).payloadAs Cursor =
      .ok ⟨q, cut.first.key, cut.last.key⟩ := Continuation.payloadAs_ofPayload allowed
  exact answer_moreTrips_read ts own allowed read

end Continuing

end JourneyPlanner

import Mathlib
import JourneyPlanner.Proofs.Paging.Coverage
import JourneyPlanner.Proofs.Search.Kept

set_option autoImplicit false

/-!
The time of a query on the pages turned in its own direction: later from a departure, earlier from
an arrival. Pages follow one another in the order of departure. So all that is shown later departs
in time, and what is shown earlier arrives in time unless it is direct and overtaken with a change.
-/
namespace JourneyPlanner

/-- The trip departs at the time asked for or after it, or arrives by then, as was asked. -/
def TripQuery.IsKeptBy (q : TripQuery) (t : Trip) : Prop :=
  if q.departing then q.time ≤ t.firstDeparture else t.lastArrival ≤ q.time

/-- A direct trip that departs no later than one with a change, and arrives after it. -/
structure Trip.OvertakenBy (t other : Trip) : Prop where
  direct : t.numChanges = some 0
  changing : other.numChanges = some 1
  departure : t.firstDeparture ≤ other.firstDeparture
  arrival : other.lastArrival < t.lastArrival

namespace Search

variable {s : Search} {tt : Timetable} {file : TimetableFile} {metric : Metric}
  {trips : List Trip} {t u : Trip}

/-- Only a trip with fewer changes is shown beside one that departs no earlier and arrives before
it. -/
theorem overtakenBy_of_mem (loaded : (Timetable.ofFile file).value = .ok tt)
    (resolved : s.Resolved metric tt) (explored : s.trips? tt = some trips) (mem : t ∈ trips)
    (memToo : u ∈ trips) (departure : t.firstDeparture ≤ u.firstDeparture)
    (arrival : u.lastArrival < t.lastArrival) : t.OvertakenBy u := by
  obtain ⟨its, found, listed⟩ := Option.bind_eq_some_iff.mp explored
  cases listed
  obtain ⟨it, kept, shows⟩ :=
    exists_shown loaded resolved found (Trip.mem_of_mem_inOrder mem)
  obtain ⟨k, keptToo, showsToo⟩ :=
    exists_shown loaded resolved found (Trip.mem_of_mem_inOrder memToo)
  have sooner : k.arrival < it.arrival := by
    rw [← shows.arrival, ← showsToo.arrival]
    exact arrival
  have noEarlier : it.departure ≤ k.departure := by
    rw [← shows.departure, ← showsToo.departure]
    exact departure
  have fewer : it.changes < k.changes := by
    apply Nat.lt_of_not_le
    intro noMore
    have unbeaten := Itinerary.best_unbeaten kept keptToo
    have beaten : it.isBeatenBy k = true := by
      simp only [Itinerary.isBeatenBy, noEarlier, Instant.le_of_lt sooner, noMore, sooner,
        decide_true, Bool.and_true, Bool.or_true, Bool.true_or]
    rw [beaten] at unbeaten
    cases unbeaten
  have most := (toNat_changes k).2
  have none : it.changes = 0 := by omega
  have one : k.changes = 1 := by omega
  refine ⟨?_, ?_, departure, arrival⟩
  · rw [Itinerary.numChanges_of_trip shows.made, none]
    rfl
  · rw [Itinerary.numChanges_of_trip showsToo.made, one]
    rfl

theorem resolved_of_searchFor {q : TripQuery} (resolved : tt.searchFor metric q = .ok s) :
    s.Resolved metric tt := by
  unfold Timetable.searchFor at resolved
  split at resolved
  · cases resolved
  · split at resolved
    · cases resolved
    · exact resolved_of_searchOf resolved

end Search

namespace Timetable

variable {tt : Timetable} {metric : Metric} {q : TripQuery} {later : Bool}

/-- A page, and all pages that are turned from it in one direction, each by any provider over the
timetable. -/
inductive TurnedFrom (tt : Timetable) (metric : Metric) (later : Bool) (r : TripsResponse) :
    TripsResponse → Prop where
  | start : TurnedFrom tt metric later r r
  | turned {settings : Settings} {page next : TripsResponse}
      (before : TurnedFrom tt metric later r page)
      (allowed : page.continuation.allows later = true)
      (answered :
        ((tt.service metric settings).moreTrips page.continuation later).answer = .ok next) :
      TurnedFrom tt metric later r next

theorem TurnedFrom.isOk {r page : TripsResponse} (turned : TurnedFrom tt metric later r page)
    (success : page.isOk = true) : r.isOk = true := by
  induction turned with
  | start => exact success
  | turned _ allowed _ ih => exact ih (TripsResponse.isOk_of_allows allowed)

/-- By induction on the pages turned: what is shown on one of them, and what lies beyond it, lay
beyond the first page. -/
theorem TurnedFrom.cut {search : Search} {trips : List Trip} {maker : Settings} {first : Cut}
    {page : TripsResponse} (resolved : tt.searchFor metric q = .ok search)
    (explored : search.trips? tt = some trips)
    (turned : TurnedFrom tt metric later ((tt.service metric maker).found q search first) page)
    (success : page.isOk = true) :
    ∃ settings cut, page = (tt.service metric settings).found q search cut ∧
      (∀ t ∈ cut.trips, t ∈ first.trips ∨ t ∈ first.rest later trips) ∧
      ∀ t ∈ cut.rest later trips, t ∈ first.rest later trips := by
  induction turned with
  | start => exact ⟨maker, first, rfl, fun t mem => .inl mem, fun t mem => mem⟩
  | @turned settings page next before allowed answered ih =>
    obtain ⟨previous, cut, rfl, -, beyond⟩ := ih (TripsResponse.isOk_of_allows allowed)
    rw [TimetableService.continuation_found] at allowed answered
    rw [answer_moreTrips (same_network tt metric previous settings) allowed] at answered
    obtain ⟨_, _, following, resolvedToo, exploredToo, made, rfl⟩ :=
      cut_of_answer_plan answered success
    cases resolved.symm.trans resolvedToo
    cases explored.symm.trans exploredToo
    have ascending := Search.trips?_ascending explored
    have described : following.Describes (cut.neighbour q later) _ trips :=
      Page.describes_of_cut? ascending made
    have split := Cut.rest_split ascending described
    refine ⟨settings, following, rfl, fun t mem => .inr (beyond t ?_), fun t mem => beyond t ?_⟩
    · rw [← Cut.admitted_neighbour cut q]
      exact described.mem_admitted mem
    · rw [split]
      cases later
      · exact List.mem_append_left _ mem
      · exact List.mem_append_right _ mem

section Keeping

variable {file : TimetableFile} {search : Search} {trips : List Trip} {cut : Cut} {size : Nat}

/-- What the first page admits keeps to the time of the query. -/
theorem isKeptBy_of_admits {t : Trip}
    (admitted : (TimetableService.firstPage q).admits t.key = true) : q.IsKeptBy t := by
  unfold TripQuery.IsKeptBy
  unfold TimetableService.firstPage at admitted
  cases direction : q.departing with
  | true =>
    rw [direction] at admitted
    exact of_decide_eq_true admitted
  | false =>
    rw [direction] at admitted
    exact of_decide_eq_true admitted

/-- The departure at the end of the first page bounds all that follow it. The arrival at its
beginning bounds those before it only as far as they do not have fewer changes. -/
theorem isKeptBy_or_overtaken (loaded : (ofFile file).value = .ok tt)
    (resolved : tt.searchFor metric q = .ok search) (explored : search.trips? tt = some trips)
    (described : cut.Describes (TimetableService.firstPage q) size trips) {t : Trip}
    (beyond : t ∈ cut.rest q.departing trips) :
    q.IsKeptBy t ∨ q.departing = false ∧ t.OvertakenBy cut.first := by
  obtain ⟨firstAdmitted, lastAdmitted⟩ := described.first_admitted
  have firstKept : q.IsKeptBy cut.first := isKeptBy_of_admits firstAdmitted
  have lastKept : q.IsKeptBy cut.last := isKeptBy_of_admits lastAdmitted
  unfold TripQuery.IsKeptBy at firstKept lastKept ⊢
  cases direction : q.departing with
  | true =>
    rw [direction] at beyond lastKept
    have follows := (List.mem_filter.mp beyond).2
    left
    exact Instant.le_trans lastKept (TripKey.departure_le_of_precedes follows)
  | false =>
    rw [direction] at beyond firstKept
    obtain ⟨listed, precedes⟩ := List.mem_filter.mp beyond
    by_cases inTime : t.lastArrival ≤ q.time
    · left
      exact inTime
    · refine .inr ⟨rfl, ?_⟩
      have late := Instant.lt_of_le_of_lt firstKept (Instant.not_le.mp inTime)
      exact Search.overtakenBy_of_mem loaded (Search.resolved_of_searchFor resolved) explored
        listed described.first_mem (TripKey.departure_le_of_precedes precedes) late

/-- The first page keeps to the time of the query. So do the pages turned from it in the direction
of the query, but for direct trips that the first trip of the first page overtakes. -/
theorem turned_pages_keep_time {maker : Settings} {r : TripsResponse}
    (loaded : (ofFile file).value = .ok tt)
    (answered : ((tt.service metric maker).trips q).answer = .ok r) :
    (∀ t ∈ r.trips, q.IsKeptBy t) ∧
      ∀ page, TurnedFrom tt metric q.departing r page → ∀ t ∈ page.trips, q.IsKeptBy t ∨
        q.departing = false ∧ ∃ first, r.trips.head? = some first ∧ t.OvertakenBy first := by
  by_cases success : r.isOk = true
  · obtain ⟨search, trips, cut, resolved, explored, made, rfl⟩ :=
      cut_of_answer_trips answered success
    have described := Page.describes_of_cut? (Search.trips?_ascending explored) made
    have kept : ∀ t ∈ cut.trips, q.IsKeptBy t :=
      fun t mem => isKeptBy_of_admits (described.admits_of_mem mem)
    refine ⟨kept, fun page turned t mem => ?_⟩
    obtain ⟨settings, further, rfl, shown, -⟩ :=
      turned.cut resolved explored (TripsResponse.isOk_of_mem mem)
    rcases shown t mem with here | beyond
    · exact .inl (kept t here)
    · rcases isKeptBy_or_overtaken loaded resolved explored described beyond with
        inTime | ⟨arriving, overtaken⟩
      · exact .inl inTime
      · exact .inr ⟨arriving, cut.first, described.first, overtaken⟩
  · refine ⟨fun t mem => ?_, fun page turned t mem => ?_⟩
    · exact absurd (TripsResponse.isOk_of_mem mem) success
    · exact absurd (turned.isOk (TripsResponse.isOk_of_mem mem)) success

end Keeping

/-- Turning a page of a query once, where the neighbouring page can be cut. -/
theorem turnedFrom_of_cut {search : Search} {trips : List Trip} {maker settings : Settings}
    {cut next : Cut} (resolved : tt.searchFor metric q = .ok search)
    (explored : search.trips? tt = some trips)
    (allowed : (if later then cut.later else cut.earlier) = true)
    (made : (cut.neighbour q later).cut? (TimetableService.pageSizeOf settings) trips =
      some next) :
    TurnedFrom tt metric later ((tt.service metric maker).found q search cut)
      ((tt.service metric settings).found q search next) := by
  have leads : ((tt.service metric maker).continuationOf q cut).allows later = true := by
    rw [allows_continuationOf]
    exact allowed
  have answered : ((tt.service metric settings).moreTrips
      ((tt.service metric maker).continuationOf q cut) later).answer =
      .ok ((tt.service metric settings).found q search next) := by
    rw [answer_moreTrips (same_network tt metric maker settings) leads]
    exact answer_plan_of_cut resolved explored made
  exact .turned .start leads answered

/-- The page before the third trip shows the second, which is still on its way at the time asked
for. -/
theorem exists_late :
    ∃ tt r page t, (ofFile Overtaking.file).value = .ok tt ∧
      ((tt.service Sample.metric onePerPage).trips (Overtaking.query false 560)).answer =
        .ok r ∧
      TurnedFrom tt Sample.metric false r page ∧ t ∈ page.trips ∧
      ¬ (Overtaking.query false 560).IsKeptBy t := by
  have accepted : Check.tripQuery (Overtaking.query false 560) TimetableService.capabilities =
      .ok () := by cbv
  have checked : ((ofFile Overtaking.file).value.toOption.any fun tt =>
      (tt.searchFor Sample.metric (Overtaking.query false 560)).toOption.any fun search =>
        (search.trips? tt).any fun trips =>
          ((TimetableService.firstPage (Overtaking.query false 560)).cut? 1 trips).any fun cut =>
            cut.earlier && ((cut.neighbour (Overtaking.query false 560) false).cut? 1 trips).any
              fun next => next.trips.any fun t =>
                !decide (t.lastArrival ≤ Overtaking.minute 560)) = true := by cbv
  obtain ⟨tt, loaded, checked⟩ := exists_ok_of_any checked
  obtain ⟨search, resolved, checked⟩ := exists_ok_of_any checked
  obtain ⟨trips, explored, checked⟩ := (Option.any_eq_true _ _).mp checked
  obtain ⟨cut, made, checked⟩ := (Option.any_eq_true _ _).mp checked
  obtain ⟨allowed, checked⟩ := Bool.and_eq_true_iff.mp checked
  obtain ⟨next, madeNext, checked⟩ := (Option.any_eq_true _ _).mp checked
  obtain ⟨t, mem, late⟩ := List.any_eq_true.mp checked
  refine ⟨tt, (tt.service Sample.metric onePerPage).found _ search cut,
    (tt.service Sample.metric onePerPage).found _ search next, t, loaded, ?_,
    turnedFrom_of_cut resolved explored allowed madeNext, mem, ?_⟩
  · rw [answer_trips accepted]
    exact answer_plan_of_cut resolved explored made
  · rw [Bool.not_eq_true', decide_eq_false_iff_not] at late
    exact late

theorem turned_pages_keep_time_overtaking :
    ∃ tt r page t, (ofFile Overtaking.file).value = .ok tt ∧
      ((tt.service Sample.metric onePerPage).trips (Overtaking.query false 560)).answer =
        .ok r ∧
      TurnedFrom tt Sample.metric false r page ∧ t ∈ page.trips ∧
      ¬ (Overtaking.query false 560).IsKeptBy t ∧
      (∀ t ∈ r.trips, (Overtaking.query false 560).IsKeptBy t) ∧
      ∀ page, TurnedFrom tt Sample.metric false r page → ∀ t ∈ page.trips,
        (Overtaking.query false 560).IsKeptBy t ∨
          (Overtaking.query false 560).departing = false ∧
            ∃ first, r.trips.head? = some first ∧ t.OvertakenBy first := by
  obtain ⟨tt, r, page, t, loaded, answered, turned, mem, late⟩ := exists_late
  exact ⟨tt, r, page, t, loaded, answered, turned, mem, late,
    turned_pages_keep_time loaded answered⟩

/-- A page turned back from an arrival may show a trip that arrives too late. -/
theorem not_every_turned_page_keeps_time :
    ¬ ∀ (file : TimetableFile) (tt : Timetable) (metric : Metric) (maker : Settings)
      (q : TripQuery) (r page : TripsResponse), (ofFile file).value = .ok tt →
      ((tt.service metric maker).trips q).answer = .ok r →
      TurnedFrom tt metric q.departing r page → ∀ t ∈ page.trips, q.IsKeptBy t := by
  intro claimed
  obtain ⟨tt, r, page, t, loaded, answered, turned, mem, late⟩ := exists_late
  exact late (claimed _ tt _ _ _ r page loaded answered turned t mem)

end Timetable

end JourneyPlanner

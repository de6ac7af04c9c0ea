import JourneyPlanner.Proofs.Paging.Answer

set_option autoImplicit false

/-!
Paging through all trips of a query. From any page that was reached, the pages in one direction come
to an end, and together they show what lies on that side of it, whoever serves them and however long
their pages are.
-/
namespace JourneyPlanner

namespace Cut

/-- The trips on one side of a page. -/
def rest (cut : Cut) (later : Bool) (trips : List Trip) : List Trip :=
  if later then Trip.beyond cut.last.key trips else Trip.ahead cut.first.key trips

/-- Where a cursor on the page leads. -/
def neighbour (cut : Cut) (q : TripQuery) (later : Bool) : Page :=
  Cursor.page ⟨q, cut.first.key, cut.last.key⟩ later

theorem admitted_neighbour (cut : Cut) (q : TripQuery) (later : Bool) (trips : List Trip) :
    (cut.neighbour q later).admitted trips = cut.rest later trips := by
  cases later <;> rfl

theorem Describes.rest_ne_nil_iff {cut : Cut} {page : Page} {size : Nat} {trips : List Trip}
    (described : cut.Describes page size trips) (maker : TimetableService) (q : TripQuery)
    (later : Bool) :
    (maker.continuationOf q cut).allows later = true ↔ cut.rest later trips ≠ [] := by
  rw [allows_continuationOf]
  cases later
  · exact described.earlier
  · exact described.later

/-- Two stretches of trips, the nearer one first on the way that the pages are turned. -/
def join (later : Bool) (near far : List Trip) : List Trip :=
  if later then near ++ far else far ++ near

/-- The neighbouring page takes the trips next to the page and leaves the others. -/
theorem rest_split {cut next : Cut} {q : TripQuery} {later : Bool} {size : Nat} {trips : List Trip}
    (ascending : Trip.Ascending trips)
    (described : next.Describes (cut.neighbour q later) size trips) :
    cut.rest later trips = join later next.trips (next.rest later trips) := by
  cases later
  · exact described.ahead_split ascending
  · exact described.beyond_split ascending

end Cut

namespace Timetable

variable {tt : Timetable} {metric : Metric} {q : TripQuery}

/-- What can be answered for a query, page after page: first to the query itself, then to the
continuations of the pages before, each time by any provider over the timetable. -/
inductive Reached (tt : Timetable) (metric : Metric) (q : TripQuery) : TripsResponse → Prop where
  | asked {settings : Settings} {r : TripsResponse}
      (answered : ((tt.service metric settings).trips q).answer = .ok r) : Reached tt metric q r
  | turned {settings : Settings} {r next : TripsResponse} {later : Bool}
      (before : Reached tt metric q r) (allowed : r.continuation.allows later = true)
      (answered : ((tt.service metric settings).moreTrips r.continuation later).answer = .ok next) :
      Reached tt metric q next

/-- All pages on one side of a continuation, in the order that they are turned. Each is served with
settings of its own, and the last one leads no further. -/
inductive Chain (tt : Timetable) (metric : Metric) (later : Bool) :
    (Nat → Settings) → Continuation → List TripsResponse → Prop where
  | ended {settings : Nat → Settings} {c : Continuation} (last : c.allows later = false) :
      Chain tt metric later settings c []
  | turned {settings : Nat → Settings} {c : Continuation} {page : TripsResponse}
      {pages : List TripsResponse} (allowed : c.allows later = true)
      (answered : ((tt.service metric (settings 0)).moreTrips c later).answer = .ok page)
      (onward : Chain tt metric later (fun n => settings (n + 1)) page.continuation pages) :
      Chain tt metric later settings c (page :: pages)

/-- Every page succeeds, shows something, and is no longer than its provider makes pages. -/
def Filled (settings : Nat → Settings) (pages : List TripsResponse) : Prop :=
  ∀ n page, pages[n]? = some page → page.isOk = true ∧ page.trips ≠ [] ∧
    page.trips.length ≤ TimetableService.pageSizeOf (settings n)

/-- The trips of pages that were turned in a direction, in the order of the trips. -/
def joined (later : Bool) (pages : List TripsResponse) : List Trip :=
  (if later then pages else pages.reverse).flatMap (·.trips)

theorem joined_cons (later : Bool) (page : TripsResponse) (pages : List TripsResponse) :
    joined later (page :: pages) = Cut.join later page.trips (joined later pages) := by
  cases later <;> simp [joined, Cut.join]

theorem Filled.cons {settings : Nat → Settings} {page : TripsResponse} {pages : List TripsResponse}
    (success : page.isOk = true) (some : page.trips ≠ [])
    (fits : page.trips.length ≤ TimetableService.pageSizeOf (settings 0))
    (filled : Filled (fun n => settings (n + 1)) pages) : Filled settings (page :: pages) := by
  intro n r found
  cases n with
  | zero =>
    rw [List.getElem?_cons_zero, Option.some.injEq] at found
    rw [← found]
    exact ⟨success, some, fits⟩
  | succ n =>
    rw [List.getElem?_cons_succ] at found
    exact filled n r found

theorem same_network (tt : Timetable) (metric : Metric) (maker settings : Settings) :
    (tt.service metric maker).timetable.network = (tt.service metric settings).timetable.network :=
  rfl

/-- A page that was reached was cut from the trips that the query finds. -/
theorem Reached.cut {r : TripsResponse} (reached : Reached tt metric q r)
    (success : r.isOk = true) :
    ∃ settings search trips cut, ∃ page : Page, tt.searchFor metric q = .ok search ∧
      search.trips? tt = some trips ∧
      page.cut? (TimetableService.pageSizeOf settings) trips = some cut ∧
      r = (tt.service metric settings).found q search cut := by
  induction reached with
  | @asked settings r answered =>
    obtain ⟨search, trips, cut, resolved, explored, made, shown⟩ :=
      cut_of_answer_trips answered success
    exact ⟨settings, search, trips, cut, _, resolved, explored, made, shown⟩
  | @turned settings r next later before allowed answered ih =>
    obtain ⟨maker, search, trips, cut, page, resolved, explored, made, rfl⟩ :=
      ih (TripsResponse.isOk_of_allows allowed)
    have planned : ((tt.service metric settings).moreTrips
        ((tt.service metric maker).continuationOf q cut) later).answer =
        ((tt.service metric settings).plan q (cut.neighbour q later)).answer :=
      answer_moreTrips (same_network tt metric maker settings) allowed
    have turned := planned.symm.trans answered
    obtain ⟨search, trips, cut, resolved, explored, made, shown⟩ :=
      cut_of_answer_plan turned success
    exact ⟨settings, search, trips, cut, _, resolved, explored, made, shown⟩

section Exhausting

variable {search : Search} {trips : List Trip}

/-- The induction is on the trips left on that side, of which every page takes at least one. -/
theorem exists_chain (resolved : tt.searchFor metric q = .ok search)
    (explored : search.trips? tt = some trips) (later : Bool) (settings : Nat → Settings)
    (maker : Settings) {cut : Cut} {page : Page} {size : Nat}
    (described : cut.Describes page size trips) :
    ∃ pages, Chain tt metric later settings ((tt.service metric maker).continuationOf q cut) pages ∧
      Filled settings pages ∧ joined later pages = cut.rest later trips := by
  have ascending := Search.trips?_ascending explored
  induction left : (cut.rest later trips).length using Nat.strongRecOn
    generalizing settings maker cut page size with
  | ind remaining ih =>
    by_cases allowed : ((tt.service metric maker).continuationOf q cut).allows later = true
    · have some := (described.rest_ne_nil_iff _ q later).mp allowed
      have positive := TimetableService.pageSizeOf_pos (settings 0)
      cases made :
          (cut.neighbour q later).cut? (TimetableService.pageSizeOf (settings 0)) trips with
      | none =>
        rw [Page.cut?_eq_none_iff positive, Cut.admitted_neighbour] at made
        exact absurd made some
      | some next =>
        have follows := Page.describes_of_cut? ascending made
        have split := Cut.rest_split ascending follows
        have shown := List.length_pos_iff.mpr follows.trips_ne_nil
        have fewer : (next.rest later trips).length < remaining := by
          rw [← left, split]
          cases later <;> simp only [Cut.join, List.length_append, if_true, Bool.false_eq_true,
            if_false] <;> omega
        obtain ⟨pages, onward, filled, whole⟩ :=
          ih _ fewer (fun n => settings (n + 1)) (settings 0) follows rfl
        have answered : ((tt.service metric (settings 0)).moreTrips
            ((tt.service metric maker).continuationOf q cut) later).answer =
            .ok ((tt.service metric (settings 0)).found q search next) := by
          rw [answer_moreTrips (same_network tt metric maker (settings 0)) allowed]
          exact answer_plan_of_cut resolved explored made
        refine ⟨(tt.service metric (settings 0)).found q search next :: pages,
          .turned allowed answered onward, ?_, ?_⟩
        · exact Filled.cons rfl follows.trips_ne_nil follows.length_le filled
        · rw [joined_cons, whole, split]
          rfl
    · have last : ((tt.service metric maker).continuationOf q cut).allows later = false :=
        Bool.eq_false_iff.mpr allowed
      have none : cut.rest later trips = [] := by
        rw [described.rest_ne_nil_iff] at allowed
        exact Decidable.not_not.mp allowed
      refine ⟨[], .ended last, ?_, ?_⟩
      · intro n page found
        rw [List.getElem?_nil] at found
        cases found
      · rw [none]
        cases later <;> rfl

end Exhausting

/-- There is but one way to turn the pages. -/
theorem Chain.unique {later : Bool} {settings : Nat → Settings} {c : Continuation}
    {pages others : List TripsResponse} (chain : Chain tt metric later settings c pages)
    (other : Chain tt metric later settings c others) : pages = others := by
  induction chain generalizing others with
  | ended last =>
    cases other with
    | ended => rfl
    | turned allowed =>
      rw [last] at allowed
      cases allowed
  | turned allowed answered onward ih =>
    cases other with
    | ended last =>
      rw [allowed] at last
      cases last
    | turned _ answeredToo onwardToo =>
      rw [answered] at answeredToo
      cases answeredToo
      rw [ih onwardToo]

theorem Chain.joined_of_blocked {later : Bool} {settings : Nat → Settings} {c : Continuation}
    {pages : List TripsResponse} (chain : Chain tt metric later settings c pages)
    (blocked : c.allows later = false) : joined later pages = [] := by
  rw [chain.unique (.ended blocked)]
  cases later <;> rfl

/-- Turning pages comes to an end, and the pages turned show just the given trips. -/
structure Exhausts (tt : Timetable) (metric : Metric) (later : Bool) (settings : Nat → Settings)
    (c : Continuation) (trips : List Trip) : Prop where
  ends : ∃ pages, Chain tt metric later settings c pages
  filled : ∀ pages, Chain tt metric later settings c pages → Filled settings pages
  whole : ∀ pages, Chain tt metric later settings c pages → joined later pages = trips

theorem exhausts_rest {search : Search} {trips : List Trip}
    (resolved : tt.searchFor metric q = .ok search) (explored : search.trips? tt = some trips)
    (later : Bool) (settings : Nat → Settings) (maker : Settings) {cut : Cut} {page : Page}
    {size : Nat} (described : cut.Describes page size trips) :
    Exhausts tt metric later settings ((tt.service metric maker).continuationOf q cut)
      (cut.rest later trips) := by
  obtain ⟨pages, chain, filled, whole⟩ :=
    exists_chain resolved explored later settings maker described
  refine ⟨⟨pages, chain⟩, fun others other => ?_, fun others other => ?_⟩
  · rw [← chain.unique other]
    exact filled
  · rw [← chain.unique other]
    exact whole

theorem trips?_of_searchFor {search : Search} {trips : List Trip}
    (resolved : tt.searchFor metric q = .ok search) (explored : search.trips? tt = some trips) :
    tt.trips? metric q = some trips := by
  unfold Timetable.trips?
  rw [resolved]
  exact explored

end Timetable

end JourneyPlanner

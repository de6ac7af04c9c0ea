import Mathlib
import JourneyPlanner.Proofs.Paging.Coverage

set_option autoImplicit false

/-!
Turning a page and turning back. The pages of a departure, and all that one provider turns to from
there, are blocks of neighbouring trips that are full unless they lie at an end of the list. So the
way back leads to the very page that one came from.
-/
namespace JourneyPlanner

namespace Page

/-- Whatever lies between two trips of a page is admitted too, unless it is cut by arrival. -/
theorem admits_between {page : Page} (byKey : ∀ time, page ≠ .arriving time)
    {first last key : TripKey} (firstIn : page.admits first = true)
    (lastIn : page.admits last = true) (notBefore : key.precedes first = false)
    (notAfter : last.precedes key = false) : page.admits key = true := by
  cases page with
  | departing time =>
    have inTime : time ≤ first.departure := of_decide_eq_true firstIn
    apply decide_eq_true
    exact Instant.le_trans inTime (TripKey.departure_le_of_not_precedes notBefore)
  | arriving time => exact absurd rfl (byKey time)
  | after bound => exact TripKey.precedes_of_precedes_of_not firstIn notBefore
  | before bound => exact TripKey.precedes_of_not_of_precedes notAfter lastIn

/-- A page that does not look back admits all that comes after a trip that it admits. -/
theorem admits_beyond {page : Page} (forth : page.looksBack = false) {key other : TripKey}
    (admitted : page.admits key = true) (order : key.precedes other = true) :
    page.admits other = true := by
  cases page with
  | departing time =>
    have inTime : time ≤ key.departure := of_decide_eq_true admitted
    apply decide_eq_true
    exact Instant.le_trans inTime (TripKey.departure_le_of_precedes order)
  | arriving time => cases forth
  | after bound => exact TripKey.precedes_trans admitted order
  | before bound => cases forth

/-- A page that looks back from a key admits all that comes before a trip that it admits. -/
theorem admits_ahead {page : Page} (byKey : ∀ time, page ≠ .arriving time)
    (back : page.looksBack = true) {key other : TripKey} (admitted : page.admits key = true)
    (order : other.precedes key = true) : page.admits other = true := by
  cases page with
  | departing time => cases back
  | arriving time => exact absurd rfl (byKey time)
  | after bound => cases back
  | before bound => exact TripKey.precedes_trans order admitted

/-- What does not fill a page is all there is. -/
theorem window_eq_self {α : Type} {page : Page} {size : Nat} {elements : List α}
    (short : (page.window size elements).length ≠ size) : page.window size elements = elements := by
  unfold window at short ⊢
  split at short
  · rw [lastOf, List.length_drop] at short
    have none : elements.length - size = 0 := by omega
    rw [if_pos ‹_›, lastOf, none, List.drop_zero]
  · rw [List.length_take] at short
    rw [if_neg ‹_›]
    apply List.take_of_length_le
    omega

end Page

namespace Cut

variable {cut next : Cut} {page : Page} {size : Nat} {trips : List Trip} {q : TripQuery}
  {later : Bool}

/-- Neighbouring trips of a list, as many as fit unless the page lies at an end of the list. -/
structure Block (cut : Cut) (size : Nat) (trips : List Trip) : Prop where
  whole : trips = Trip.ahead cut.first.key trips ++ cut.trips ++ Trip.beyond cut.last.key trips
  fits : cut.trips.length ≤ size
  full : cut.trips.length = size ∨ Trip.ahead cut.first.key trips = [] ∨
    Trip.beyond cut.last.key trips = []

/-- Where a page admits all trips on one side of its ends, it has room for them or is full. -/
theorem Describes.full (described : cut.Describes page size trips)
    (ascending : Trip.Ascending trips) (byKey : ∀ time, page ≠ .arriving time) :
    cut.trips.length = size ∨ Trip.ahead cut.first.key trips = [] ∨
      Trip.beyond cut.last.key trips = [] := by
  by_cases full : cut.trips.length = size
  · exact .inl full
  · refine .inr ?_
    have split := congrArg List.length (described.admitted_split ascending).1
    have shown := described.shown
    rw [shown] at full
    rw [Page.window_eq_self full] at shown
    rw [← shown, List.length_append, List.length_append] at split
    obtain ⟨firstIn, lastIn⟩ := described.first_admitted
    cases direction : page.looksBack with
    | false =>
      refine .inr (List.eq_nil_iff_forall_not_mem.mpr fun t mem => ?_)
      have inside := Page.admits_beyond direction lastIn (List.mem_filter.mp mem).2
      have none : Trip.beyond cut.last.key (page.admitted trips) = [] :=
        List.length_eq_zero_iff.mp (by rw [shown] at split; omega)
      rw [Page.admitted, Trip.beyond_filter] at none
      exact List.filter_eq_nil_iff.mp none t mem inside
    | true =>
      refine .inl (List.eq_nil_iff_forall_not_mem.mpr fun t mem => ?_)
      have inside := Page.admits_ahead byKey direction firstIn (List.mem_filter.mp mem).2
      have none : Trip.ahead cut.first.key (page.admitted trips) = [] :=
        List.length_eq_zero_iff.mp (by rw [shown] at split; omega)
      rw [Page.admitted, Trip.ahead_filter] at none
      exact List.filter_eq_nil_iff.mp none t mem inside

theorem Describes.block (described : cut.Describes page size trips)
    (ascending : Trip.Ascending trips) (byKey : ∀ time, page ≠ .arriving time) :
    cut.Block size trips := by
  refine ⟨?_, described.length_le, described.full ascending byKey⟩
  rw [described.covers ascending]
  refine (List.filter_eq_self.mpr fun t mem => ?_).symm
  cases before : t.key.precedes cut.first.key with
  | true => rfl
  | false =>
    cases after : cut.last.key.precedes t.key with
    | true => rfl
    | false =>
      obtain ⟨firstIn, lastIn⟩ := described.first_admitted
      exact Page.admits_between byKey firstIn lastIn before after

/-- Of one list a page is known by the trips that it shows. -/
theorem Describes.eq_of_trips {other : Page} {extent : Nat}
    (described : cut.Describes page size trips) (describedToo : next.Describes other extent trips)
    (same : cut.trips = next.trips) : cut = next := by
  have first : cut.first = next.first := by
    rw [← Option.some.injEq, ← described.first, same, describedToo.first]
  have last : cut.last = next.last := by
    rw [← Option.some.injEq, ← described.last, same, describedToo.last]
  have earlier : cut.earlier = next.earlier := by
    rw [Bool.eq_iff_iff, described.earlier, describedToo.earlier, first]
  have later : cut.later = next.later := by
    rw [Bool.eq_iff_iff, described.later, describedToo.later, last]
  cases cut
  cases next
  cases first
  cases last
  cases same
  cases earlier
  cases later
  rfl

/-- From the neighbouring page one looks back on the page itself, and on what lies behind it. -/
theorem Block.rest_back {extent : Nat} (block : cut.Block size trips)
    (ascending : Trip.Ascending trips)
    (described : next.Describes (cut.neighbour q later) extent trips) :
    next.rest (!later) trips = join (!later) cut.trips (cut.rest (!later) trips) := by
  have split := rest_split ascending described
  have whole := block.whole
  cases later with
  | true =>
    obtain ⟨tail, shown⟩ := List.head?_eq_some_iff.mp described.first
    change Trip.beyond cut.last.key trips = next.trips ++ _ at split
    rw [split, shown, List.cons_append] at whole
    change Trip.ahead next.first.key trips = Trip.ahead cut.first.key trips ++ cut.trips
    conv => lhs; rw [whole]
    exact Trip.Ascending.ahead_append (whole ▸ ascending)
  | false =>
    obtain ⟨front, shown⟩ := List.getLast?_eq_some_iff.mp described.last
    change Trip.ahead cut.first.key trips = _ ++ next.trips at split
    rw [split, shown] at whole
    simp only [List.append_assoc, List.singleton_append] at whole
    rw [← List.append_assoc] at whole
    change Trip.beyond next.last.key trips = cut.trips ++ Trip.beyond cut.last.key trips
    conv => lhs; rw [whole]
    exact Trip.Ascending.beyond_append (whole ▸ ascending)

theorem looksBack_neighbour (cut : Cut) (q : TripQuery) (later : Bool) :
    (cut.neighbour q later).looksBack = !later := by
  cases later <;> rfl

/-- The nearer stretch fills the page, or there is no other. -/
theorem window_join {near far : List Trip} (fits : near.length ≤ size)
    (full : near.length = size ∨ far = []) :
    (cut.neighbour q later).window size (join later near far) = near := by
  unfold Page.window
  rw [looksBack_neighbour]
  cases later with
  | true =>
    change (near ++ far).take size = near
    rcases full with full | none
    · rw [← full, List.take_left]
    · rw [none, List.append_nil, List.take_of_length_le fits]
  | false =>
    change Page.lastOf size (far ++ near) = near
    rw [Page.lastOf, List.length_append]
    rcases full with full | none
    · rw [full, Nat.add_sub_cancel, List.drop_left]
    · rw [none, List.nil_append, List.length_nil, Nat.zero_add, Nat.sub_eq_zero_of_le fits,
        List.drop_zero]

/-- The page that lies behind the neighbouring page is the one that it was turned from. -/
theorem Block.shown_back (block : cut.Block size trips) (ascending : Trip.Ascending trips)
    (described : next.Describes (cut.neighbour q later) size trips)
    (some : cut.rest later trips ≠ []) :
    (next.neighbour q (!later)).window size ((next.neighbour q (!later)).admitted trips) =
      cut.trips := by
  rw [admitted_neighbour, block.rest_back ascending described]
  apply window_join block.fits
  rcases block.full with full | ahead | beyond
  · exact .inl full
  · cases later with
    | true => exact .inr ahead
    | false => exact absurd ahead some
  · cases later with
    | true => exact absurd beyond some
    | false => exact .inr beyond

end Cut

namespace TimetableService

variable {ts : TimetableService} {q : TripQuery} {r : TripsResponse}

/-- What one provider answers, page after page: first to the query itself, then to the continuations
of its own pages. -/
inductive Answered (ts : TimetableService) (q : TripQuery) : TripsResponse → Prop where
  | asked {r : TripsResponse} (answered : (ts.trips q).answer = .ok r) : Answered ts q r
  | turned {r next : TripsResponse} {later : Bool} (before : Answered ts q r)
      (allowed : r.continuation.allows later = true)
      (answered : (ts.moreTrips r.continuation later).answer = .ok next) : Answered ts q next

/-- From a departure on no page is cut by arrival. -/
theorem Answered.cut (departing : q.departing = true) (reached : ts.Answered q r)
    (success : r.isOk = true) :
    ∃ search trips cut, ∃ page : Page, ts.timetable.searchFor ts.metric q = .ok search ∧
      search.trips? ts.timetable = some trips ∧ (∀ time, page ≠ .arriving time) ∧
      page.cut? ts.pageSize trips = some cut ∧ r = ts.found q search cut := by
  induction reached with
  | asked answered =>
    obtain ⟨search, trips, cut, resolved, explored, made, shown⟩ :=
      cut_of_answer_trips answered success
    refine ⟨search, trips, cut, _, resolved, explored, fun time => ?_, made, shown⟩
    rw [firstPage, if_pos departing]
    exact Page.noConfusion
  | @turned r next later before allowed answered ih =>
    obtain ⟨search, trips, cut, page, -, -, -, -, rfl⟩ := ih (TripsResponse.isOk_of_allows allowed)
    rw [continuation_found, answer_moreTrips rfl allowed] at answered
    obtain ⟨search, trips, cut, resolved, explored, made, shown⟩ :=
      cut_of_answer_plan answered success
    refine ⟨search, trips, cut, _, resolved, explored, fun time => ?_, made, shown⟩
    cases later <;> exact Page.noConfusion

/-- Whoever turns a page of a departure can turn back, and is shown again what was shown before. -/
theorem turning_back_returns (departing : q.departing = true) (positive : 0 < ts.pageSize)
    (reached : ts.Answered q r) (success : r.isOk = true) (later : Bool)
    (allowed : r.continuation.allows later = true) :
    ∃ next, (ts.moreTrips r.continuation later).answer = .ok next ∧ next.isOk = true ∧
      next.continuation.allows (!later) = true ∧
      (ts.moreTrips next.continuation (!later)).answer = .ok r := by
  obtain ⟨search, trips, cut, page, resolved, explored, byKey, made, rfl⟩ :=
    reached.cut departing success
  have ascending := Search.trips?_ascending explored
  have described := Page.describes_of_cut? ascending made
  have block := described.block ascending byKey
  have some := (described.rest_ne_nil_iff ts q later).mp allowed
  cases turned : (cut.neighbour q later).cut? ts.pageSize trips with
  | none =>
    rw [Page.cut?_eq_none_iff positive, Cut.admitted_neighbour] at turned
    exact absurd turned some
  | some next =>
    have describedNext := Page.describes_of_cut? ascending turned
    have someBack : next.rest (!later) trips ≠ [] := by
      rw [block.rest_back ascending describedNext]
      intro none
      cases later <;> simp [Cut.join, described.trips_ne_nil] at none
    have allowedBack := (describedNext.rest_ne_nil_iff ts q (!later)).mpr someBack
    refine ⟨ts.found q search next, ?_, rfl, allowedBack, ?_⟩
    · rw [continuation_found, answer_moreTrips rfl allowed]
      exact answer_plan_of_cut resolved explored turned
    · rw [continuation_found, answer_moreTrips rfl allowedBack]
      cases back : (next.neighbour q (!later)).cut? ts.pageSize trips with
      | none =>
        rw [Page.cut?_eq_none_iff positive, Cut.admitted_neighbour] at back
        exact absurd back someBack
      | some again =>
        have describedAgain := Page.describes_of_cut? ascending back
        have shown := block.shown_back ascending describedNext some
        rw [← describedAgain.shown] at shown
        rw [describedAgain.eq_of_trips described shown] at back
        exact answer_plan_of_cut resolved explored back

/-- From the second of three trips both ways lead back. -/
theorem turning_back_returns_overtaking :
    ∃ tt ts r, (Timetable.ofFile Overtaking.file).value = .ok tt ∧
      ts = tt.service Sample.metric Timetable.onePerPage ∧ 0 < ts.pageSize ∧
      (Overtaking.query true 490).departing = true ∧ ts.Answered (Overtaking.query true 490) r ∧
      r.isOk = true ∧ ∀ later, r.continuation.allows later = true ∧
        ∃ next, (ts.moreTrips r.continuation later).answer = .ok next ∧ next.isOk = true ∧
          next.continuation.allows (!later) = true ∧
          (ts.moreTrips next.continuation (!later)).answer = .ok r := by
  have checked : ((Timetable.ofFile Overtaking.file).value.toOption.any fun tt =>
      ((tt.service Sample.metric Timetable.onePerPage).trips
        (Overtaking.query true 490)).answer.toOption.any fun r =>
          r.isOk && r.continuation.allows true && r.continuation.allows false) = true := by cbv
  obtain ⟨tt, loaded, checked⟩ := exists_ok_of_any checked
  obtain ⟨r, answered, checked⟩ := exists_ok_of_any checked
  simp only [Bool.and_eq_true] at checked
  obtain ⟨⟨success, forth⟩, back⟩ := checked
  have positive := pageSizeOf_pos Timetable.onePerPage
  have reached : (tt.service Sample.metric Timetable.onePerPage).Answered
      (Overtaking.query true 490) r := .asked answered
  refine ⟨tt, _, r, loaded, rfl, positive, rfl, reached, success, fun later => ?_⟩
  have allowed : r.continuation.allows later = true := by
    cases later with
    | true => exact forth
    | false => exact back
  exact ⟨allowed, turning_back_returns rfl positive reached success later allowed⟩

end TimetableService

end JourneyPlanner

import Mathlib
import JourneyPlanner.Proofs.Paging.Constraint
import JourneyPlanner.Proofs.Paging.Continuing
import JourneyPlanner.Proofs.Search.Overflow

set_option autoImplicit false

/-!
Which well-put enquiries for trips end without an answer: just those whose search meets a time
beyond the calendar. One service at the end of the calendar is enough for that, though nobody asks
for it; where no call lies that far, every enquiry is answered.
-/
namespace JourneyPlanner

/-- There is an answer, unless a time lies beyond the calendar. -/
structure AnsweredUnless (beyond : Prop) (answer : Except QueryError TripsResponse) : Prop where
  answered : ¬ beyond → ∃ r, answer = .ok r
  failed : beyond → answer = .error .timeOutOfRange

namespace Timetable

variable {tt : Timetable} {metric : Metric}

/-- What the query searches for meets a time beyond the calendar. -/
def Overflows (tt : Timetable) (metric : Metric) (q : TripQuery) : Prop :=
  ∃ search, tt.searchFor metric q = .ok search ∧ search.Overflows tt

theorem HasLeeway.not_overflows (leeway : tt.HasLeeway) (metric : Metric) (q : TripQuery) :
    ¬ tt.Overflows metric q := by
  rintro ⟨search, resolved, beyond⟩
  exact Search.not_overflows leeway (Search.resolved_of_searchFor resolved) beyond

theorem answeredUnless_of_plan (ts : TimetableService) (q : TripQuery) (page : Page) :
    AnsweredUnless (ts.timetable.Overflows ts.metric q) (ts.plan q page).answer where
  answered within :=
    exists_answer_plan ts page fun search resolved none =>
      within ⟨search, resolved, Search.trips?_eq_none_iff.mp none⟩
  failed beyond := by
    obtain ⟨search, resolved, beyond⟩ := beyond
    rw [answer_plan, resolved]
    simp only [TimetableService.pageOf, Search.trips?_eq_none_iff.mpr beyond]
    rfl

theorem answeredUnless_of_moreTrips (settings : Settings) {c : Continuation} {later : Bool}
    (accepted : Check.paging tt.network c later = .ok ()) :
    AnsweredUnless (∃ cursor, c.payloadAs Cursor = .ok cursor ∧ tt.Overflows metric cursor.query)
      ((tt.service metric settings).moreTrips c later).answer := by
  obtain ⟨own, allowed⟩ := paging_ok_iff.mp accepted
  cases read : c.payloadAs Cursor with
  | error e =>
    refine ⟨fun _ => ⟨_, answer_moreTrips_unreadable _ own allowed read⟩, ?_⟩
    rintro ⟨cursor, same, -⟩
    cases same
  | ok cursor =>
    obtain ⟨answered, failed⟩ :=
      answeredUnless_of_plan (tt.service metric settings) cursor.query (cursor.page later)
    rw [answer_moreTrips_read (tt.service metric settings) own allowed read]
    refine ⟨fun within => answered fun beyond => within ⟨cursor, rfl, beyond⟩, ?_⟩
    rintro ⟨other, same, beyond⟩
    cases same
    exact failed beyond

/-- Whatever is well put is answered, but for what meets a time beyond the calendar on the way: an
accepted query or a continuation that leads on then fails, and nothing else does. Where no call lies
too close to an end of the calendar nothing fails. -/
theorem answered_unless_overflowing (tt : Timetable) (metric : Metric) (settings : Settings) :
    (∀ q, Check.tripQuery q TimetableService.capabilities = .ok () →
      AnsweredUnless (tt.Overflows metric q) ((tt.service metric settings).trips q).answer) ∧
    (∀ c later, Check.paging tt.network c later = .ok () →
      AnsweredUnless (∃ cursor, c.payloadAs Cursor = .ok cursor ∧ tt.Overflows metric cursor.query)
        ((tt.service metric settings).moreTrips c later).answer) ∧
    (tt.HasLeeway → ∀ q, ¬ tt.Overflows metric q) := by
  refine ⟨fun q accepted => ?_, fun c later => answeredUnless_of_moreTrips settings,
    fun leeway => leeway.not_overflows metric⟩
  rw [answer_trips accepted]
  exact answeredUnless_of_plan (tt.service metric settings) q (TimetableService.firstPage q)

end Timetable

/-! A bus that nobody asks for, which stops for the last time in the last minute of the calendar, so
that a change there would be ready after it. -/
namespace EndOfCalendar

/-- The beginning of the last minute of the calendar, or of one so many minutes before it. -/
def minutesBefore (minutes : Nat) : Instant :=
  (Instant.ofParts? (Time.greatestSecond - 59 - 60 * minutes) 0).getD .epoch

def file (services : List ServiceRecord) : TimetableFile :=
  Sample.file (Sample.morning 0) (Sample.morning 600)
    [Sample.station "A" 52000000, Sample.station "D" 52100000, Sample.station "E" 52200000]
    (Sample.bus "1" [Sample.call "A" (Sample.morning 0), Sample.call "D" (Sample.morning 60)] ::
      services)

def lastBus : ServiceRecord :=
  Sample.bus "2" [Sample.call "A" (minutesBefore 1), Sample.call "E" (minutesBefore 0)]

def query : TripQuery :=
  .departingAt Sample.origin Sample.destination (Sample.morning 0)

theorem exists_failed :
    ∃ tt, (Timetable.ofFile (file [lastBus])).value = .ok tt ∧
      Check.tripQuery query TimetableService.capabilities = .ok () ∧
      ((tt.service Sample.metric .usual).trips query).answer = .error .timeOutOfRange := by
  have checked : ((Timetable.ofFile (file [lastBus])).value.toOption.any fun tt =>
      match ((tt.service Sample.metric .usual).trips query).answer with
      | .error e => decide (e = .timeOutOfRange)
      | .ok _ => false) = true := by
    cbv
  obtain ⟨tt, loaded, checked⟩ := exists_ok_of_any checked
  refine ⟨tt, loaded, rfl, ?_⟩
  cases answered : ((tt.service Sample.metric .usual).trips query).answer with
  | error e =>
    rw [answered] at checked
    rw [of_decide_eq_true checked]
  | ok r =>
    rw [answered] at checked
    cases checked

/-- The end of a page that was shown before the last bus was added. -/
def cursor : Cursor where
  query := query
  first := ⟨Sample.morning 0, Sample.morning 60, "first"⟩
  last := ⟨Sample.morning 0, Sample.morning 60, "last"⟩

def onward (tt : Timetable) : Continuation :=
  .ofPayload tt.network true true (encode cursor)

/-- Without the last bus all is answered, and with it the same query fails on every page. -/
theorem answered_unless_overflowing_endOfCalendar :
    ∃ tt other r, (Timetable.ofFile (file [lastBus])).value = .ok tt ∧
      (Timetable.ofFile (file [])).value = .ok other ∧
      Check.tripQuery query TimetableService.capabilities = .ok () ∧
      tt.Overflows Sample.metric query ∧
      ((tt.service Sample.metric .usual).trips query).answer = .error .timeOutOfRange ∧
      Check.paging tt.network (onward tt) true = .ok () ∧
      ((tt.service Sample.metric .usual).moreTrips (onward tt) true).answer =
        .error .timeOutOfRange ∧
      other.HasLeeway ∧ ((other.service Sample.metric .usual).trips query).answer = .ok r := by
  have checked : ((Timetable.ofFile (file [])).value.toOption.any fun tt =>
      decide tt.HasLeeway) = true := by
    cbv
  obtain ⟨other, loadedToo, checked⟩ := exists_ok_of_any checked
  have leeway := of_decide_eq_true checked
  obtain ⟨tt, loaded, accepted, failed⟩ := exists_failed
  obtain ⟨trips, moreTrips, -⟩ := Timetable.answered_unless_overflowing tt Sample.metric .usual
  obtain ⟨others, -, within⟩ := Timetable.answered_unless_overflowing other Sample.metric .usual
  obtain ⟨r, answered⟩ := (others query accepted).answered (within leeway query)
  have beyond : tt.Overflows Sample.metric query := by
    by_contra inside
    obtain ⟨s, answeredToo⟩ := (trips query accepted).answered inside
    cases failed.symm.trans answeredToo
  have own : (onward tt).network = tt.network := Continuation.network_ofPayload ..
  have allowed : (onward tt).allows true = true := Continuation.allows_ofPayload ..
  have read : (onward tt).payloadAs Cursor = .ok cursor := Continuation.payloadAs_ofPayload allowed
  have leads : Check.paging tt.network (onward tt) true = .ok () :=
    paging_ok_iff.mpr ⟨own, allowed⟩
  exact ⟨tt, other, r, loaded, loadedToo, accepted, beyond, failed, leads,
    (moreTrips (onward tt) true leads).failed ⟨cursor, read, beyond⟩, leeway, answered⟩

/-- Not every accepted query over a loaded timetable is answered. -/
theorem not_every_query_answered :
    ¬ ∀ (file : TimetableFile) (tt : Timetable) (metric : Metric) (settings : Settings),
      (Timetable.ofFile file).value = .ok tt →
      (∀ q, Check.tripQuery q TimetableService.capabilities = .ok () →
        ∃ r, ((tt.service metric settings).trips q).answer = .ok r) ∧
      ∀ c later, Check.paging tt.network c later = .ok () →
        ∃ r, ((tt.service metric settings).moreTrips c later).answer = .ok r := by
  intro claimed
  obtain ⟨tt, loaded, accepted, failed⟩ := exists_failed
  obtain ⟨r, answered⟩ := (claimed _ tt Sample.metric .usual loaded).1 query accepted
  cases failed.symm.trans answered

end EndOfCalendar

end JourneyPlanner

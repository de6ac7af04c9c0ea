import JourneyPlanner.Proofs.Paging.Continuing
import JourneyPlanner.Proofs.Paging.WellFormed
import JourneyPlanner.Provider.Registry

set_option autoImplicit false

/-!
Pages asked of a registry. Of the providers registered for a network the last one answers, just as
if it was asked itself, and where there is none the network is unknown. A provider over a timetable
takes the continuations of its network for its own and leads back to it, so that page after page is
asked of the same provider.
-/
namespace JourneyPlanner

theorem Logged.bind_congr {α β : Type} {x : Logged α} {f g : α → Logged β}
    (same : f x.value = g x.value) : x >>= f = x >>= g := by
  change (⟨(f x.value).value, x.events ++ (f x.value).events⟩ : Logged β) = _
  rw [same]
  rfl

namespace Registry

/-- The registry after providers were registered one after another. -/
def ofProviders (providers : List Provider) : Registry :=
  providers.foldl (fun r p => (r.register p).value.2) empty

end Registry

/-- Of the providers registered for a network it is the last one. -/
def Provider.AnswersFor (network : NetworkId) (providers : List Provider) (p : Provider) : Prop :=
  p.network = network ∧ ∃ before after, providers = before ++ p :: after ∧
    ∀ q ∈ after, q.network ≠ network

theorem Provider.AnswersFor.mem {network : NetworkId} {providers : List Provider} {p : Provider}
    (answers : p.AnswersFor network providers) : p ∈ providers := by
  obtain ⟨-, before, after, rfl, -⟩ := answers
  exact List.mem_append_right before List.mem_cons_self

namespace Registry

variable {providers : List Provider} {network : NetworkId} {p : Provider} {r : Registry}
  {c : Continuation}

theorem ofProviders_snoc (providers : List Provider) (p : Provider) :
    ofProviders (providers ++ [p]) = (ofProviders providers).insert p := by
  rw [ofProviders, List.foldl_append]
  rfl

/-- By induction on what was registered, the last one first. -/
theorem get?_ofProviders (providers : List Provider) (network : NetworkId) :
    (ofProviders providers).get? network =
      providers.reverse.find? fun p => p.network = network := by
  induction providers using List.reverseRecOn with
  | nil => rfl
  | append_singleton before p ih =>
    rw [ofProviders_snoc, List.reverse_append, List.reverse_singleton, List.singleton_append,
      List.find?_cons]
    by_cases own : p.network = network
    · rw [← own, get?_insert_self, decide_eq_true rfl]
    · rw [get?_insert_of_ne _ (Ne.symm own), ih, decide_eq_false own]

theorem get?_eq_some_iff :
    (ofProviders providers).get? network = some p ↔ p.AnswersFor network providers := by
  rw [get?_ofProviders, List.find?_eq_some_iff_append, decide_eq_true_eq]
  refine and_congr_right fun _ => ?_
  constructor
  · rintro ⟨after, before, split, others⟩
    refine ⟨before.reverse, after.reverse, ?_, fun q mem => ?_⟩
    · rw [← List.reverse_reverse providers, split]
      simp
    · simpa using others q (List.mem_reverse.mp mem)
  · rintro ⟨before, after, rfl, others⟩
    refine ⟨after.reverse, before.reverse, by simp, fun q mem => ?_⟩
    simpa using others q (List.mem_reverse.mp mem)

theorem get?_eq_none_iff :
    (ofProviders providers).get? network = none ↔ ∀ p ∈ providers, p.network ≠ network := by
  rw [get?_ofProviders, List.find?_eq_none]
  simp

theorem moreTrips_of_none (unknown : r.get? c.network = none) (later : Bool) :
    r.moreTrips c later = throw (.unknownNetwork c.network) := by
  rw [moreTrips, unknown]

theorem moreTrips_of_some (known : r.get? c.network = some p) (later : Bool) :
    r.moreTrips c later = p.moreTrips c later := by
  rw [moreTrips, known]

end Registry

namespace TimetableService

variable {ts : TimetableService} {q : TripQuery} {page : Page} {c : Continuation} {later : Bool}
  {e : QueryError}

theorem moreTrips_refused (refused : Check.paging ts.timetable.network c later = .error e) :
    (ts.moreTrips c later).answer = .error e := by
  rw [moreTrips, refused]
  rfl

theorem error_of_moreTrips (own : c.network = ts.timetable.network)
    (failed : (ts.moreTrips c later).answer = .error e) :
    e = .pagingNotAllowed later ∨ e = .timeOutOfRange := by
  by_cases allowed : c.allows later = true
  · cases read : c.payloadAs Cursor with
    | error unreadable =>
      rw [answer_moreTrips_unreadable ts own allowed read] at failed
      cases failed
    | ok cursor =>
      rw [answer_moreTrips_read ts own allowed read] at failed
      exact .inr (error_of_plan failed)
  · rw [answer_moreTrips_blocked ts own allowed] at failed
    cases failed
    exact .inl rfl

end TimetableService

namespace Timetable.Serves

variable {tt : Timetable} {metric : Metric} {settings : Settings} {p : Provider}

theorem network (serves : tt.Serves metric settings p) : p.network = tt.network := by
  induction serves with
  | bare => rfl
  | guarded _ ih => exact ih

theorem capabilities (serves : tt.Serves metric settings p) :
    p.capabilities = TimetableService.capabilities := by
  induction serves with
  | bare => rfl
  | guarded _ ih => exact ih

/-- The shared rules, put around it however many times, change no page. -/
theorem answer_moreTrips (serves : tt.Serves metric settings p) (c : Continuation) (later : Bool) :
    (p.moreTrips c later).answer = ((tt.service metric settings).moreTrips c later).answer := by
  induction serves with
  | bare => rfl
  | @guarded p inner ih =>
    rw [← ih]
    change (p.guardMoreTrips c later).answer = _
    rw [Provider.guardMoreTrips_eq]
    refine Enquiry.answer_governed_self (fun e refused => ?_)
      (fun r => Provider.answer_reportFailure _ r.toResponse) fun _ _ => rfl
    rw [inner.capabilities, inner.network] at refused
    rw [ih]
    exact TimetableService.moreTrips_refused refused

theorem network_of_trips (serves : tt.Serves metric settings p) {q : TripQuery}
    {r : TripsResponse} (answered : (p.trips q).answer = .ok r) :
    r.continuation.network = tt.network := by
  induction serves with
  | bare =>
    exact (TimetableService.wellFormed_of_plan (answer_plan_of_trips answered)).network
  | guarded inner ih =>
    rcases Provider.answer_guardTrips_cases answered with rfl | asked
    · exact inner.network
    · exact ih asked

end Timetable.Serves

namespace Provider

variable {p : Provider} {c : Continuation} {later : Bool} {r : TripsResponse}

/-- The provider of some timetable, as it is or with the shared rules put around it. -/
def IsOfTimetable (p : Provider) : Prop :=
  ∃ tt metric settings, Timetable.Serves tt metric settings p

namespace IsOfTimetable

/-- A continuation of its own network is refused for its direction or for want of time only. -/
theorem error_of_moreTrips (kind : p.IsOfTimetable) {e : QueryError}
    (own : c.network = p.network) (failed : (p.moreTrips c later).answer = .error e) :
    e = .pagingNotAllowed later ∨ e = .timeOutOfRange := by
  obtain ⟨tt, metric, settings, serves⟩ := kind
  rw [serves.answer_moreTrips] at failed
  rw [serves.network] at own
  exact TimetableService.error_of_moreTrips own failed

theorem network_of_moreTrips (kind : p.IsOfTimetable)
    (answered : (p.moreTrips c later).answer = .ok r) : r.continuation.network = p.network := by
  obtain ⟨tt, metric, settings, serves⟩ := kind
  rw [serves.answer_moreTrips] at answered
  rw [serves.network]
  exact (TimetableService.wellFormed_of_moreTrips answered).network

theorem network_of_trips (kind : p.IsOfTimetable) {q : TripQuery}
    (answered : (p.trips q).answer = .ok r) : r.continuation.network = p.network := by
  obtain ⟨tt, metric, settings, serves⟩ := kind
  rw [serves.network]
  exact serves.network_of_trips answered

end IsOfTimetable

end Provider

/-- Where a page leads; what fails leads nowhere, and its continuation stays. -/
def Continuation.after (c : Continuation) (outcome : Except QueryError TripsResponse) :
    Continuation :=
  match outcome with
  | .ok r => r.continuation
  | .error _ => c

/-- What comes of pages asked for one after another, each of them in a direction from where the page
before it led. -/
def pages (ask : Continuation → Bool → Enquiry TripsResponse) (c : Continuation) :
    List Bool → Logged (List (Except QueryError TripsResponse))
  | [] => pure []
  | later :: directions => do
      let outcome ← (ask c later).run
      let others ← pages ask (c.after outcome) directions
      return outcome :: others

namespace Registry

/-- How pages of one network are asked for: all of them of its provider, whose trips they begin
with. -/
structure PagesOver (r : Registry) (p : Provider) : Prop where
  begun : ∀ q s, (p.trips q).answer = .ok s → s.continuation.network = p.network
  led : ∀ c later s, c.network = p.network → (r.moreTrips c later).answer = .ok s →
    s.continuation.network = p.network
  refused : ∀ c later e, c.network = p.network → (r.moreTrips c later).answer = .error e →
    e = .pagingNotAllowed later ∨ e = .timeOutOfRange
  chain : ∀ c directions, c.network = p.network →
    pages r.moreTrips c directions = pages p.moreTrips c directions

/-- Who answers where a page is asked of the registry of the providers. -/
structure Routes (r : Registry) (providers : List Provider) : Prop where
  unknown : ∀ c later, (∀ p ∈ providers, p.network ≠ c.network) →
    r.moreTrips c later = throw (.unknownNetwork c.network)
  known : ∀ network, (∃ p ∈ providers, p.network = network) →
    ∃ p : Provider, p.AnswersFor network providers
  asked : ∀ (c : Continuation) (later : Bool) (p : Provider), p.AnswersFor c.network providers →
    r.moreTrips c later = p.moreTrips c later
  /-- The error is the registry's own: no provider is to say it of its own network. -/
  missing : ∀ (c : Continuation) (later : Bool),
    (∀ p : Provider, p.AnswersFor c.network providers →
      (p.moreTrips c later).answer ≠ .error (.unknownNetwork c.network)) →
    ((r.moreTrips c later).answer = .error (.unknownNetwork c.network) ↔
      ∀ p ∈ providers, p.network ≠ c.network)
  /-- Whatever the providers of the other networks are. -/
  paged : ∀ network (p : Provider), p.AnswersFor network providers → p.IsOfTimetable →
    r.PagesOver p

/-- With providers of timetables a network is unknown just where none was registered for it, and no
continuation is called foreign. -/
structure RoutesTimetables (r : Registry) (providers : List Provider) : Prop where
  missing : ∀ c later, (r.moreTrips c later).answer = .error (.unknownNetwork c.network) ↔
    ∀ p ∈ providers, p.network ≠ c.network
  foreign : ∀ c later expected found,
    (r.moreTrips c later).answer ≠ .error (.foreignContinuation expected found)

variable {providers : List Provider} {p : Provider} {r : Registry} {c : Continuation}

/-- By induction on the directions, with the continuation general: each page leads back to the
network of the provider. -/
theorem pages_eq (routed : ∀ c later, c.network = p.network →
      r.moreTrips c later = p.moreTrips c later)
    (led : ∀ c later s, c.network = p.network → (p.moreTrips c later).answer = .ok s →
      s.continuation.network = p.network)
    (own : c.network = p.network) (directions : List Bool) :
    pages r.moreTrips c directions = pages p.moreTrips c directions := by
  induction directions generalizing c with
  | nil => rfl
  | cons later directions ih =>
    have back : (c.after (p.moreTrips c later).answer).network = p.network := by
      cases outcome : (p.moreTrips c later).answer with
      | ok s => exact led c later s own outcome
      | error e => exact own
    rw [pages, pages, routed c later own]
    apply Logged.bind_congr
    change (pages r.moreTrips (c.after (p.moreTrips c later).answer) directions >>= _) = _
    rw [ih back]
    rfl

theorem moreTrips_of_answersFor (answers : p.AnswersFor c.network providers) (later : Bool) :
    (ofProviders providers).moreTrips c later = p.moreTrips c later :=
  moreTrips_of_some (get?_eq_some_iff.mpr answers) later

/-- There is always one who answers, unless none was registered. -/
theorem answersFor_or_none (providers : List Provider) (network : NetworkId) :
    (∃ p : Provider, p.AnswersFor network providers) ∨
      ∀ p ∈ providers, p.network ≠ network := by
  cases found : (ofProviders providers).get? network with
  | none => exact .inr (get?_eq_none_iff.mp found)
  | some p => exact .inl ⟨p, get?_eq_some_iff.mp found⟩

theorem pagesOver_of_answersFor {network : NetworkId} (kind : p.IsOfTimetable)
    (answers : p.AnswersFor network providers) : (ofProviders providers).PagesOver p := by
  have routed : ∀ c later, c.network = p.network →
      (ofProviders providers).moreTrips c later = p.moreTrips c later := by
    intro c later own
    have answers : p.AnswersFor c.network providers := by rwa [own, answers.1]
    exact moreTrips_of_answersFor answers later
  refine ⟨fun q s => kind.network_of_trips, fun c later s own answered => ?_,
    fun c later e own failed => ?_, fun c directions own => ?_⟩
  · rw [routed c later own] at answered
    exact kind.network_of_moreTrips answered
  · rw [routed c later own] at failed
    exact kind.error_of_moreTrips own failed
  · exact pages_eq routed (fun c later s _ => kind.network_of_moreTrips) own directions

theorem routes_ofProviders (providers : List Provider) :
    (ofProviders providers).Routes providers where
  unknown c later none := moreTrips_of_none (get?_eq_none_iff.mpr none) later
  known network some := by
    rcases answersFor_or_none providers network with ⟨p, answers⟩ | none
    · exact ⟨p, answers⟩
    · obtain ⟨p, mem, own⟩ := some
      exact absurd own (none p mem)
  asked c later p answers := moreTrips_of_answersFor answers later
  missing c later honest := by
    constructor
    · intro failed
      rcases answersFor_or_none providers c.network with ⟨p, answers⟩ | none
      · rw [moreTrips_of_answersFor answers] at failed
        exact absurd failed (honest p answers)
      · exact none
    · intro none
      rw [moreTrips_of_none (get?_eq_none_iff.mpr none)]
      rfl
  paged _ _ answers kind := pagesOver_of_answersFor kind answers

theorem routesTimetables_ofProviders (kinds : ∀ p ∈ providers, p.IsOfTimetable) :
    (ofProviders providers).RoutesTimetables providers := by
  have refused : ∀ (c : Continuation) (later : Bool) (p : Provider) (e : QueryError),
      p.AnswersFor c.network providers → (p.moreTrips c later).answer = .error e →
        e = .pagingNotAllowed later ∨ e = .timeOutOfRange := by
    intro c later p e answers failed
    exact (kinds p answers.mem).error_of_moreTrips answers.1.symm failed
  refine ⟨fun c later => ?_, fun c later expected found failed => ?_⟩
  · refine (routes_ofProviders providers).missing c later fun p answers failed => ?_
    rcases refused c later p _ answers failed with blocked | late
    · cases blocked
    · cases late
  · rcases answersFor_or_none providers c.network with ⟨p, answers⟩ | none
    · rw [moreTrips_of_answersFor answers] at failed
      rcases refused c later p _ answers failed with blocked | late
      · cases blocked
      · cases late
    · rw [moreTrips_of_none (get?_eq_none_iff.mpr none)] at failed
      cases failed

/-- Whatever was registered, a page is asked of the provider registered last for its network, and if
that is a provider of a timetable so are the pages after it, one by one. -/
theorem pages_reach_owner (providers : List Provider) :
    (ofProviders providers).Routes providers ∧
      ((∀ p ∈ providers, p.IsOfTimetable) →
        (ofProviders providers).RoutesTimetables providers) :=
  ⟨routes_ofProviders providers, routesTimetables_ofProviders⟩

end Registry

/-! Two networks, for one of which a second provider is registered. -/
namespace TwoNetworks

def other : TimetableFile :=
  { Overtaking.file with network := "OTHER" }

/-- The last provider takes the place of the first one. -/
def providers (tt away : Timetable) : List Provider :=
  [(tt.service Sample.metric .usual).provider, (away.service Sample.metric .usual).provider,
    (tt.service Sample.metric Timetable.onePerPage).provider.guarded Sample.metric]

theorem answersFor_last (tt away : Timetable) :
    Provider.AnswersFor tt.network (providers tt away)
      ((tt.service Sample.metric Timetable.onePerPage).provider.guarded Sample.metric) :=
  ⟨rfl, [(tt.service Sample.metric .usual).provider,
    (away.service Sample.metric .usual).provider], [], rfl, fun _ none => nomatch none⟩

theorem pages_reach_owner_twoNetworks :
    ∃ tt away r s, (Timetable.ofFile Overtaking.file).value = .ok tt ∧
      (Timetable.ofFile other).value = .ok away ∧
      ((tt.service Sample.metric Timetable.onePerPage).trips (Overtaking.query true 0)).answer =
        .ok r ∧ r.continuation.allows true = true ∧
      ((Registry.ofProviders (providers tt away)).moreTrips r.continuation true).answer = .ok s ∧
      (∀ p ∈ providers tt away, p.IsOfTimetable) ∧
      (Registry.ofProviders (providers tt away)).Routes (providers tt away) ∧
      (Registry.ofProviders (providers tt away)).RoutesTimetables (providers tt away) := by
  have checked : ((Timetable.ofFile Overtaking.file).value.toOption.any fun tt =>
      (Timetable.ofFile other).value.toOption.any fun _ =>
        ((tt.service Sample.metric Timetable.onePerPage).trips
          (Overtaking.query true 0)).answer.toOption.any fun r => r.continuation.allows true) =
            true := by cbv
  obtain ⟨tt, loaded, checked⟩ := exists_ok_of_any checked
  obtain ⟨away, loadedToo, checked⟩ := exists_ok_of_any checked
  obtain ⟨r, answered, allowed⟩ := exists_ok_of_any checked
  have kinds : ∀ p ∈ providers tt away, p.IsOfTimetable := by
    intro p mem
    simp only [providers, List.mem_cons, List.not_mem_nil, or_false] at mem
    rcases mem with rfl | rfl | rfl
    · exact ⟨tt, _, _, .bare⟩
    · exact ⟨away, _, _, .bare⟩
    · exact ⟨tt, _, _, .guarded .bare⟩
  have routes := Registry.pages_reach_owner (providers tt away)
  obtain ⟨search, trips, cut, resolved, explored, -, rfl⟩ :=
    cut_of_answer_trips answered (TripsResponse.isOk_of_allows allowed)
  obtain ⟨s, planned⟩ := exists_answer_plan (tt.service Sample.metric Timetable.onePerPage)
    (Cursor.page ⟨Overtaking.query true 0, cut.first.key, cut.last.key⟩ true)
    fun found same => by
      cases resolved.symm.trans same
      rw [explored]
      exact Option.some_ne_none trips
  have paged : ((Registry.ofProviders (providers tt away)).moreTrips
      ((tt.service Sample.metric Timetable.onePerPage).continuationOf (Overtaking.query true 0) cut)
      true).answer = .ok s := by
    have own : ((tt.service Sample.metric Timetable.onePerPage).continuationOf
        (Overtaking.query true 0) cut).network = tt.network := Continuation.network_ofPayload ..
    have serves : tt.Serves Sample.metric Timetable.onePerPage
        ((tt.service Sample.metric Timetable.onePerPage).provider.guarded Sample.metric) :=
      .guarded .bare
    rw [Registry.moreTrips_of_answersFor (own ▸ answersFor_last tt away), serves.answer_moreTrips,
      answer_moreTrips rfl allowed]
    exact planned
  exact ⟨tt, away, _, s, loaded, loadedToo, answered, allowed, paged, kinds, routes.1,
    routes.2 kinds⟩

end TwoNetworks

end JourneyPlanner

import JourneyPlanner.Proofs.Provider.Routing
import JourneyPlanner.Proofs.Text.Trimmed
import JourneyPlanner.Proofs.Timetable.Offered

set_option autoImplicit false

/-!
Which ends of a trip are let through to be looked up. They are checked for what their kinds go by,
and looked up by an id, else by a point, else by a name, whatever their kind is. So the check
refuses some that could be looked up: those without a name that have an id or a point, but not the
one of their kind.
-/
namespace JourneyPlanner

namespace Location

/-- Nothing is known of the location, but for a name that is blank. -/
@[mk_iff]
structure IsBare (l : Location) : Prop where
  noId : l.id = none
  noPoint : l.point = none
  noName : l.hasName = false

/-- The location is known by an id or a point, but not by what its kind goes by. -/
@[mk_iff]
structure IsOverlooked (l : Location) : Prop where
  astray : (l.kind = .station ∧ l.id = none ∧ l.point ≠ none) ∨
    (l.kind = .address ∧ l.id ≠ none ∧ l.point = none) ∨ (l.kind = .any ∧ l.point ≠ none)
  noName : l.hasName = false

/-- The check does not let the location through. -/
def IsRefused (l : Location) : Prop :=
  l.IsOverlooked ∨ (l.IsBare ∧ l.kind ≠ .poi)

variable {l : Location}

/-- What is identified is so by what its kind goes by. -/
theorem isRefused_iff : l.IsRefused ↔ l.isIdentified = false ∧ l.hasName = false := by
  obtain ⟨-, anyWithoutId, -, coordAlone⟩ := LocationDetails.rules_of_sound l.sound
  rw [IsRefused, isOverlooked_iff, isBare_iff, isIdentified]
  cases kind : l.kind with
  | any =>
    rw [anyWithoutId kind]
    simp [← or_and_right, ne_or_eq]
  | station =>
    by_cases located : l.point = none
    · simp [hasId, located]
    · simp [hasId, located]
  | poi => simp
  | address =>
    by_cases known : l.id = none
    · simp [hasPoint, known]
    · simp [hasPoint, known]
  | coord =>
    obtain ⟨located, -, -⟩ := coordAlone kind
    simp [hasPoint, located]

instance : Decidable l.IsRefused :=
  decidable_of_iff _ isRefused_iff.symm

end Location

namespace TripQuery

/-- The ends of the trip and what it passes, in the order in which they are checked. -/
def endpoints (q : TripQuery) : List (Argument × Location) :=
  (.origin, q.origin) :: (.destination, q.destination) ::
    (q.via.map fun via => (Argument.via, via)).toList

end TripQuery

namespace Check

/-- The first of some ends that the check does not let through, as it is called in errors. -/
def FirstRefused (ends : List (Argument × Location)) (argument : Argument) : Prop :=
  ∃ before l after, ends = before ++ (argument, l) :: after ∧
    (∀ e ∈ before, ¬ e.2.IsRefused) ∧ l.IsRefused

variable {ends before : List (Argument × Location)} {argument : Argument}

theorem endpoint_of_refused {l : Location} (argument : Argument) (refused : l.IsRefused) :
    endpoint argument l = .error (.invalidArgument argument) := by
  obtain ⟨unidentified, unnamed⟩ := Location.isRefused_iff.mp refused
  rw [endpoint, unidentified, unnamed]
  rfl

theorem endpoint_of_not_refused {l : Location} (argument : Argument) (allowed : ¬ l.IsRefused) :
    endpoint argument l = .ok () := by
  rw [Location.isRefused_iff, not_and_or, Bool.not_eq_false, Bool.not_eq_false] at allowed
  rw [endpoint, if_pos (Bool.or_eq_true_iff.mpr allowed)]

theorem tripQuery_eq (q : TripQuery) :
    tripQuery q TimetableService.capabilities = forM q.endpoints fun e => endpoint e.1 e.2 := by
  unfold tripQuery TripQuery.endpoints
  cases q.via with
  | none => rfl
  | some via =>
    change _ = do
      endpoint .origin q.origin
      endpoint .destination q.destination
      endpoint .via via >>= fun _ => pure ()
    rw [bind_pure_unit]
    rfl

/-- What is let through makes no difference to what is checked after it. -/
theorem forM_endpoint_append (ends : List (Argument × Location))
    (allowed : ∀ e ∈ before, ¬ e.2.IsRefused) :
    (forM (before ++ ends) fun e => endpoint e.1 e.2) = forM ends fun e => endpoint e.1 e.2 := by
  induction before with
  | nil => rfl
  | cons e rest ih =>
    obtain ⟨first, others⟩ := List.forall_mem_cons.mp allowed
    rw [List.cons_append, List.forM_cons, endpoint_of_not_refused e.1 first]
    exact ih others

theorem forM_endpoint_of_allowed (allowed : ∀ e ∈ ends, ¬ e.2.IsRefused) :
    (forM ends fun e => endpoint e.1 e.2) = .ok () := by
  rw [← List.append_nil ends, forM_endpoint_append [] allowed]
  rfl

theorem forM_endpoint_of_firstRefused (found : FirstRefused ends argument) :
    (forM ends fun e => endpoint e.1 e.2) = .error (.invalidArgument argument) := by
  obtain ⟨before, l, after, rfl, allowed, refused⟩ := found
  rw [forM_endpoint_append _ allowed, List.forM_cons, endpoint_of_refused argument refused]
  rfl

theorem exists_firstRefused (ends : List (Argument × Location)) :
    (∀ e ∈ ends, ¬ e.2.IsRefused) ∨ ∃ argument, FirstRefused ends argument := by
  cases found : ends.find? fun e => decide e.2.IsRefused with
  | none =>
    left
    simpa using List.find?_eq_none.mp found
  | some e =>
    obtain ⟨refused, before, after, split, allowed⟩ := List.find?_eq_some_iff_append.mp found
    refine .inr ⟨e.1, before, e.2, after, split, ?_, of_decide_eq_true refused⟩
    simpa using allowed

theorem tripQuery_eq_ok_iff {q : TripQuery} :
    tripQuery q TimetableService.capabilities = .ok () ↔ ∀ e ∈ q.endpoints, ¬ e.2.IsRefused := by
  rw [tripQuery_eq]
  constructor
  · intro accepted
    rcases exists_firstRefused q.endpoints with allowed | ⟨argument, found⟩
    · exact allowed
    · rw [forM_endpoint_of_firstRefused found] at accepted
      cases accepted
  · exact forM_endpoint_of_allowed

theorem tripQuery_eq_error_iff {q : TripQuery} {err : QueryError} :
    tripQuery q TimetableService.capabilities = .error err ↔
      ∃ argument, FirstRefused q.endpoints argument ∧ err = .invalidArgument argument := by
  rw [tripQuery_eq]
  constructor
  · intro failed
    rcases exists_firstRefused q.endpoints with allowed | ⟨argument, found⟩
    · rw [forM_endpoint_of_allowed allowed] at failed
      cases failed
    · rw [forM_endpoint_of_firstRefused found, Except.error.injEq] at failed
      exact ⟨argument, found, failed.symm⟩
  · rintro ⟨argument, found, rfl⟩
    exact forM_endpoint_of_firstRefused found

end Check

namespace Timetable

variable {tt : Timetable} {metric : Metric} {l : Location}

/-- The location is found in the timetable, or on the map. -/
def Resolves (tt : Timetable) (metric : Metric) (l : Location) : Prop :=
  ∃ unknown e, tt.resolve metric l unknown = .ok e

/-- What becomes of the ends of a trip before they are looked up. -/
structure ChecksEndpoints (tt : Timetable) (metric : Metric) (settings : Settings)
    (q : TripQuery) : Prop where
  accepted : Check.tripQuery q TimetableService.capabilities = .ok () ↔
    ∀ e ∈ q.endpoints, ¬ e.2.IsRefused
  refused : ∀ err, Check.tripQuery q TimetableService.capabilities = .error err ↔
    ∃ argument, Check.FirstRefused q.endpoints argument ∧ err = .invalidArgument argument
  answered : ∀ argument, ((tt.service metric settings).provider.trips q).answer =
      .error (.invalidArgument argument) ↔
    Check.tripQuery q TimetableService.capabilities = .error (.invalidArgument argument)
  overlooked : ∀ e ∈ q.endpoints, e.2.IsOverlooked →
    (tt.Resolves metric e.2 ↔ e.2.id = none ∨ ∃ p ∈ tt.places, e.2.id = some p.id)
  bare : ∀ e ∈ q.endpoints, e.2.IsBare → tt.Resolves metric e.2 →
    ∃ p ∈ tt.places, p.location.name = some ""
  resolved : (∀ p ∈ tt.places, p.location.name ≠ some "") →
    (∀ e ∈ q.endpoints, tt.Resolves metric e.2) →
      (Check.tripQuery q TimetableService.capabilities = .ok () ↔
        ∀ e ∈ q.endpoints, ¬ e.2.IsOverlooked)

theorem resolves_iff_of_id (named : NamedPlaces tt.places) {id : String} (known : l.id = some id) :
    tt.Resolves metric l ↔ ∃ p ∈ tt.places, p.id = id := by
  unfold Resolves resolve
  simp only [known]
  constructor
  · rintro ⟨unknown, e, resolved⟩
    split at resolved
    · rename_i p found
      exact ⟨p, of_placeWithId? found⟩
    · cases resolved
  · rintro ⟨p, loaded, rfl⟩
    rw [placeWithId?_id named loaded]
    exact ⟨.unknownFrom, _, rfl⟩

theorem resolves_of_point (noId : l.id = none) (located : l.point ≠ none) :
    tt.Resolves metric l := by
  obtain ⟨point, located⟩ := Option.ne_none_iff_exists'.mp located
  unfold Resolves resolve
  simp only [noId, located]
  exact ⟨.unknownFrom, _, rfl⟩

theorem resolves_iff_of_overlooked (named : NamedPlaces tt.places) (overlooked : l.IsOverlooked) :
    tt.Resolves metric l ↔ l.id = none ∨ ∃ p ∈ tt.places, l.id = some p.id := by
  cases known : l.id with
  | none =>
    have located : l.point ≠ none := by
      rcases overlooked.astray with ⟨-, -, located⟩ | ⟨-, identified, -⟩ | ⟨-, located⟩
      · exact located
      · exact absurd known identified
      · exact located
    exact iff_of_true (resolves_of_point known located) (.inl rfl)
  | some id =>
    rw [resolves_iff_of_id named known]
    simp only [reduceCtorEq, false_or, Option.some.injEq, eq_comm]

/-- No name in full is empty. -/
theorem name_eq_empty_of_nameMatches {p : Place} (located : p.Located)
    (same : nameMatches "" p = true) : p.location.name = some "" := by
  have shown (text : String) (empty : Text.lowercase text = "") : text = "" := by
    by_contra some
    exact Text.lowercase_ne_empty some empty
  rcases (nameMatches_iff located).mp same with ⟨name, named, empty⟩ | ⟨place, name, -, -, -, empty⟩
  · rw [named, shown name empty]
  · have short := congrArg String.length (shown _ empty)
    simp only [String.length_append] at short
    have comma : ", ".length = 2 := rfl
    have none : "".length = 0 := rfl
    omega

/-- A blank name is looked up as the empty one. -/
theorem exists_nameless_of_bare (located : ∀ p ∈ tt.places, p.Located) (bare : l.IsBare)
    (resolves : tt.Resolves metric l) : ∃ p ∈ tt.places, p.location.name = some "" := by
  obtain ⟨unknown, e, resolved⟩ := resolves
  simp only [resolve, bare.noId, bare.noPoint] at resolved
  obtain ⟨p, candidate⟩ : ∃ p, p ∈ tt.placesNamed l := by
    split at resolved
    · cases resolved
    · rename_i p only
      exact ⟨p, only ▸ List.mem_singleton_self p⟩
    · cases resolved
  have noName := bare.noName
  unfold placesNamed at candidate
  unfold Location.hasName at noName
  cases written : l.name with
  | none =>
    rw [written] at candidate
    cases candidate
  | some name =>
    simp only [written, Option.any_some, Bool.not_eq_false', List.mem_filter, Bool.and_eq_true]
      at candidate noName
    rw [Text.trim_of_isBlankText noName] at candidate
    obtain ⟨known, ⟨-, same⟩, -⟩ := candidate
    exact ⟨p, known, name_eq_empty_of_nameMatches (located p known) same⟩

/-- Ends that can be looked up are let through unless they are overlooked. -/
theorem checks_endpoints {file : TimetableFile} (loaded : (ofFile file).value = .ok tt)
    (metric : Metric) (settings : Settings) (q : TripQuery) :
    tt.ChecksEndpoints metric settings q := by
  have named := named_of_ofFile loaded
  have located := located_of_ofFile loaded
  refine ⟨Check.tripQuery_eq_ok_iff, fun err => Check.tripQuery_eq_error_iff, ?_,
    fun e _ overlooked => resolves_iff_of_overlooked named overlooked,
    fun e _ bare resolves => exists_nameless_of_bare located bare resolves, ?_⟩
  · intro argument
    constructor
    · intro failed
      cases checked : Check.tripQuery q TimetableService.capabilities with
      | error err =>
        cases (trips_refused checked).symm.trans failed
        rfl
      | ok =>
        have planned := (answer_trips checked).symm.trans failed
        cases error_of_plan planned
    · exact trips_refused
  · intro nameless resolves
    rw [Check.tripQuery_eq_ok_iff]
    apply forall₂_congr
    intro e mem
    refine not_congr (or_iff_left ?_)
    rintro ⟨bare, -⟩
    obtain ⟨p, known, empty⟩ := exists_nameless_of_bare located bare (resolves e mem)
    exact nameless p known empty

end Timetable

/-! A point from which to go, as a location of a kind and without a name. -/
namespace PointOnMap

def location (kind : LocationKind) (known : kind ≠ .coord) : Location where
  kind := kind
  id := none
  point := some ⟨52000000, 13000000, by decide, by decide⟩
  place := none
  name := none
  sound := by simp [LocationDetails.violation, known]
  products := none

def query (origin : Location) : TripQuery :=
  .departingAt origin Sample.origin (Sample.morning 0)

theorem exists_loaded :
    ∃ tt, (Timetable.ofFile Sample.patchy).value = .ok tt ∧
      (∀ p ∈ tt.places, p.location.name ≠ some "") ∧ ∃ p ∈ tt.places, p.id = "A" := by
  have checked : ((Timetable.ofFile Sample.patchy).value.toOption.any fun tt =>
      (tt.places.all fun p => decide (p.location.name ≠ some "")) &&
        tt.places.any fun p => decide (p.id = "A")) = true := by
    decide +kernel
  obtain ⟨tt, loaded, checked⟩ := exists_ok_of_any checked
  obtain ⟨named, station⟩ := Bool.and_eq_true_iff.mp checked
  refine ⟨tt, loaded, ?_, ?_⟩
  · simpa using named
  · simpa using station

/-- The ends of the query can be looked up, its origin on the map. -/
theorem resolves_endpoints {tt : Timetable} (named : NamedPlaces tt.places)
    (station : ∃ p ∈ tt.places, p.id = "A") (kind : LocationKind) (known : kind ≠ .coord) :
    ∀ e ∈ (query (location kind known)).endpoints, tt.Resolves Sample.metric e.2 := by
  have origin : tt.Resolves Sample.metric (location kind known) :=
    Timetable.resolves_of_point rfl (by simp [location])
  have destination : tt.Resolves Sample.metric Sample.origin :=
    (Timetable.resolves_iff_of_id named rfl).mpr station
  simp [TripQuery.endpoints, query, TripQuery.departingAt, origin, destination]

/-- From an address, which goes by its point. -/
theorem checks_endpoints_address :
    ∃ tt, (Timetable.ofFile Sample.patchy).value = .ok tt ∧
      (∀ p ∈ tt.places, p.location.name ≠ some "") ∧
      (∀ e ∈ (query (location .address (by decide))).endpoints, tt.Resolves Sample.metric e.2) ∧
        tt.ChecksEndpoints Sample.metric .usual (query (location .address (by decide))) := by
  obtain ⟨tt, loaded, named, station⟩ := exists_loaded
  exact ⟨tt, loaded, named, resolves_endpoints (Timetable.named_of_ofFile loaded) station _ _,
    Timetable.checks_endpoints loaded Sample.metric .usual _⟩

/-- Not every query whose ends can be looked up is let through. -/
theorem not_every_resolving_accepted :
    ¬ ∀ (file : TimetableFile) (tt : Timetable) (metric : Metric) (q : TripQuery),
      (Timetable.ofFile file).value = .ok tt → (∀ e ∈ q.endpoints, tt.Resolves metric e.2) →
        Check.tripQuery q TimetableService.capabilities = .ok () := by
  intro claimed
  obtain ⟨tt, loaded, -, station⟩ := exists_loaded
  have resolves := resolves_endpoints (Timetable.named_of_ofFile loaded) station .any (by decide)
  cases claimed Sample.patchy tt Sample.metric _ loaded resolves

end PointOnMap

end JourneyPlanner

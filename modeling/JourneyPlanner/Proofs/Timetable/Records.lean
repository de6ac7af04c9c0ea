import Mathlib.Data.List.Chain
import Mathlib.Data.List.Forall2
import JourneyPlanner.Timetable.Loading

set_option autoImplicit false

/-!
The records of a document one by one: which of them are valid, what they make, and what is reported
of the others. A record is taken apart here once, and all else goes by the outcome.
-/
namespace JourneyPlanner

/-- How a record is reported for an error, and its id. -/
def RecordError.subject : RecordError → String × String
  | .invalidPlace id _ | .duplicateId id => ("skipping place", id)
  | .unknownStation service _ | .tooFewCalls service | .missingTime service _
  | .backInTime service => ("skipping service", service)

namespace PlaceRecord

/-- A kind that goes by an id, the id, and a point on the globe. -/
def isValid (r : PlaceRecord) : Bool :=
  (r.kind = .station || r.kind = .poi || r.kind = .address) && !Text.isBlankText r.id &&
    decide ((-greatestLatitude ≤ r.latitude.toInt ∧ r.latitude.toInt ≤ greatestLatitude) ∧
      -greatestLongitude ≤ r.longitude.toInt ∧ r.longitude.toInt ≤ greatestLongitude)

/-- What the record tells of the place at a point. -/
def details (r : PlaceRecord) (point : GeoPoint) : LocationDetails :=
  { kind := r.kind, id := some r.id, point := some point, place := r.place, name := some r.name }

/-- The place has all that the record tells of it. -/
structure Makes (r : PlaceRecord) (p : Place) : Prop where
  id : p.id = r.id
  details : p.location.toLocationDetails = r.details p.point
  latitude : p.point.latitude = r.latitude.toInt
  longitude : p.point.longitude = r.longitude.toInt
  group : p.group = r.group

/-- Where there are a point and a name, only the kind and the id can be at fault. -/
theorem isValid_iff {r : PlaceRecord} {point : GeoPoint}
    (latitude : point.latitude = r.latitude.toInt)
    (longitude : point.longitude = r.longitude.toInt) :
    r.isValid = true ↔ (r.details point).violation = none := by
  have inRange := And.intro point.latitude_inRange point.longitude_inRange
  rw [latitude, longitude] at inRange
  rw [isValid, decide_eq_true inRange, Bool.and_true]
  unfold LocationDetails.violation details
  cases blank : Text.isBlankText r.id <;> cases kind : r.kind <;> simp [blank]

end PlaceRecord

namespace Place

/-- What comes of a record after those that were loaded before it. -/
inductive Outcome (loaded : List Place) (r : PlaceRecord) : Except RecordError Place → Prop where
  | made {p : Place} (fresh : r.id ∉ loaded.map Place.id) (valid : r.isValid = true)
      (makes : r.Makes p) (number : p.number = loaded.length)
      (unserved : p.location.products = none) : Outcome loaded r (.ok p)
  | taken (known : r.id ∈ loaded.map Place.id) : Outcome loaded r (.error (.duplicateId r.id))
  | broken (invalid : r.isValid = false) (cause : LocationError) :
      Outcome loaded r (.error (.invalidPlace r.id cause))

theorem outcome_ofRecord (loaded : List Place) (r : PlaceRecord) :
    Outcome loaded r (ofRecord loaded r) := by
  have known_iff : loaded.any (·.id = r.id) = true ↔ r.id ∈ loaded.map Place.id := by
    simp only [List.any_eq_true, decide_eq_true_eq, List.mem_map]
  unfold ofRecord
  split
  · rename_i known
    exact .taken (known_iff.mp known)
  · rename_i fresh
    rw [known_iff] at fresh
    rcases GeoPoint.ofMicrodegrees_cases r.latitude.toInt r.longitude.toInt with
      ⟨point, read, latitude, longitude⟩ | ⟨e, failed, outside⟩
    · have valid_iff := PlaceRecord.isValid_iff latitude longitude
      rcases Location.ofDetails_cases (r.details point) with
        ⟨l, made, told, unserved, none⟩ | ⟨e, failed, violation⟩
      · unfold PlaceRecord.details at made
        simp only [read, made]
        exact .made fresh (valid_iff.mpr none) ⟨rfl, told, latitude, longitude, rfl⟩ rfl unserved
      · unfold PlaceRecord.details at failed
        simp only [read, failed]
        refine .broken (Bool.eq_false_iff.mpr fun valid => ?_) e
        rw [valid_iff.mp valid] at violation
        cases violation
    · simp only [failed]
      refine .broken ?_ _
      rw [PlaceRecord.isValid, decide_eq_false outside, Bool.and_false]

theorem outcome_of_ok {loaded : List Place} {r : PlaceRecord} {p : Place}
    (read : ofRecord loaded r = .ok p) : Outcome loaded r (.ok p) := by
  rw [← read]
  exact outcome_ofRecord loaded r

/-- A valid record is skipped only where its id is taken. -/
theorem of_error {loaded : List Place} {r : PlaceRecord} {e : RecordError}
    (failed : ofRecord loaded r = .error e) :
    e.subject = ("skipping place", r.id) ∧ (r.isValid = true → r.id ∈ loaded.map Place.id) := by
  have outcome := outcome_ofRecord loaded r
  rw [failed] at outcome
  cases outcome with
  | taken known => exact ⟨rfl, fun _ => known⟩
  | broken invalid cause =>
    refine ⟨rfl, fun valid => ?_⟩
    rw [valid] at invalid
    cases invalid

/-- A station of a list of places. -/
def IsStationIn (places : List Place) (p : Place) : Prop :=
  p ∈ places ∧ p.isStation = true

/-- The ids at which services may call. -/
def stationIds (places : List Place) : List String :=
  (places.filter isStation).map Place.id

end Place

namespace CallRecord

/-- A station, and a time there. -/
def isValid (stations : List String) (r : CallRecord) : Bool :=
  stations.contains r.station && (r.arrival.or r.departure).isSome

/-- The times of arrival and departure, each that of the other where it is not given. -/
def times (r : CallRecord) : List Instant :=
  (r.arrival.or r.departure).toList ++ (r.departure.or r.arrival).toList

structure Makes (r : CallRecord) (call : Call) : Prop where
  station : call.station.id = r.station
  arrival : r.arrival.or r.departure = some call.arrival
  departure : r.departure.or r.arrival = some call.departure
  platform : call.platform = r.platform

end CallRecord

namespace Call

inductive Outcome (places : List Place) (service : String) (r : CallRecord) :
    Except RecordError Call → Prop where
  | made {call : Call} (valid : r.isValid (Place.stationIds places) = true) (makes : r.Makes call)
      (station : call.station.IsStationIn places) : Outcome places service r (.ok call)
  | broken (invalid : r.isValid (Place.stationIds places) = false) (e : RecordError)
      (about : e.subject = ("skipping service", service)) : Outcome places service r (.error e)

theorem outcome_ofRecord (places : List Place) (service : String) (r : CallRecord) :
    Outcome places service r (ofRecord places service r) := by
  unfold ofRecord
  split
  · rename_i absent
    refine .broken ?_ _ rfl
    have unknown : r.station ∉ Place.stationIds places := by
      intro mem
      obtain ⟨p, known, same⟩ := List.mem_map.mp mem
      obtain ⟨inside, station⟩ := List.mem_filter.mp known
      have found := List.find?_eq_none.mp absent p inside
      rw [decide_eq_true same, station] at found
      exact found rfl
    rw [CallRecord.isValid, List.contains_eq_mem, decide_eq_false unknown, Bool.false_and]
  · rename_i station found
    have wanted := List.find?_some found
    rw [Bool.and_eq_true, decide_eq_true_iff] at wanted
    have known : station.IsStationIn places := ⟨List.mem_of_find?_eq_some found, wanted.2⟩
    have listed : r.station ∈ Place.stationIds places :=
      List.mem_map.mpr ⟨station, List.mem_filter.mpr known, wanted.1⟩
    split
    · rename_i arrival departure arrives departs
      refine .made ?_ ⟨wanted.1, arrives, departs, rfl⟩ known
      rw [CallRecord.isValid, List.contains_eq_mem, decide_eq_true listed, arrives]
      rfl
    · rename_i untimed
      refine .broken ?_ _ rfl
      have none : r.arrival.or r.departure = none := by
        cases arrival : r.arrival <;> cases departure : r.departure <;> simp_all
      rw [CallRecord.isValid, none, Option.isSome_none, Bool.and_false]

/-- Either all calls of a service are valid, or one that is not gives the error. -/
theorem mapM_ofRecord_cases (places : List Place) (service : String) (records : List CallRecord) :
    (∃ calls, records.mapM (ofRecord places service) = .ok calls ∧
        List.Forall₂ CallRecord.Makes records calls ∧
        (∀ call ∈ calls, call.station.IsStationIn places) ∧
        records.all (CallRecord.isValid (Place.stationIds places)) = true) ∨
      ∃ e, records.mapM (ofRecord places service) = .error e ∧
        e.subject = ("skipping service", service) ∧
        records.all (CallRecord.isValid (Place.stationIds places)) = false := by
  induction records with
  | nil => exact .inl ⟨[], rfl, .nil, fun call none => absurd none List.not_mem_nil, rfl⟩
  | cons r rest ih =>
    have outcome := outcome_ofRecord places service r
    rw [List.mapM_cons, List.all_cons]
    cases read : ofRecord places service r with
    | error e =>
      rw [read] at outcome
      cases outcome with
      | broken invalid e about => exact .inr ⟨e, rfl, about, by rw [invalid, Bool.false_and]⟩
    | ok call =>
      rw [read] at outcome
      cases outcome with
      | made valid makes station =>
        rcases ih with ⟨calls, done, made, stations, all⟩ | ⟨e, failed, about, broken⟩
        · refine .inl ⟨call :: calls, by rw [done]; rfl, .cons makes made, ?_, ?_⟩
          · exact List.forall_mem_cons.mpr ⟨station, stations⟩
          · rw [valid, all, Bool.and_true]
        · refine .inr ⟨e, by rw [failed]; rfl, about, ?_⟩
          rw [broken, Bool.and_false]

/-- The order of calls is that of all their times. -/
theorem inOrder_iff (calls : List Call) :
    inOrder calls = true ↔
      (calls.flatMap fun call => [call.arrival, call.departure]).IsChain (· ≤ ·) := by
  induction calls with
  | nil => simp [inOrder]
  | cons call rest ih =>
    cases rest with
    | nil => simp [inOrder]
    | cons next rest =>
      simp only [List.flatMap_cons, List.cons_append, List.nil_append] at ih
      simp only [inOrder, Bool.and_eq_true, decide_eq_true_eq, ih, List.flatMap_cons,
        List.cons_append, List.nil_append, List.isChain_cons_cons, and_assoc]

end Call

/-- The calls of a service are in the order of time, at stations of a list of places. -/
structure Service.RunsOver (places : List Place) (s : Service) : Prop where
  inOrder : Call.inOrder s.calls = true
  stations : ∀ call ∈ s.calls, call.station.IsStationIn places

namespace ServiceRecord

/-- Two calls or more, each of them valid, and no time before the one ahead of it. -/
def isValid (stations : List String) (r : ServiceRecord) : Bool :=
  decide (2 ≤ r.calls.length) && r.calls.all (CallRecord.isValid stations) &&
    decide ((r.calls.flatMap CallRecord.times).IsChain (· ≤ ·))

/-- The service has what the record tells of it, in a document. -/
structure Makes (file : TimetableFile) (r : ServiceRecord) (s : Service) : Prop where
  id : s.id = r.id
  line : s.line =
    Line.ofRecord file.network file.badges r.bikesAllowed r.wheelchairAccessible r.line
  bikesAllowed : s.bikesAllowed = r.bikesAllowed
  wheelchairAccessible : s.wheelchairAccessible = r.wheelchairAccessible
  calls : List.Forall₂ CallRecord.Makes r.calls s.calls

theorem flatMap_times {records : List CallRecord} {calls : List Call}
    (made : List.Forall₂ CallRecord.Makes records calls) :
    records.flatMap CallRecord.times =
      calls.flatMap fun call => [call.arrival, call.departure] := by
  induction made with
  | nil => rfl
  | cons makes _ ih =>
    rw [List.flatMap_cons, List.flatMap_cons, ih, CallRecord.times, makes.arrival, makes.departure]
    rfl

end ServiceRecord

namespace Service

inductive Outcome (file : TimetableFile) (places : List Place) (loaded : List Service)
    (r : ServiceRecord) : Except RecordError Service → Prop where
  | made {s : Service} (valid : r.isValid (Place.stationIds places) = true)
      (makes : r.Makes file s) (number : s.number = loaded.length) (runs : s.RunsOver places) :
      Outcome file places loaded r (.ok s)
  | broken (invalid : r.isValid (Place.stationIds places) = false) (e : RecordError)
      (about : e.subject = ("skipping service", r.id)) : Outcome file places loaded r (.error e)

theorem outcome_ofRecord (file : TimetableFile) (places : List Place) (loaded : List Service)
    (r : ServiceRecord) :
    Outcome file places loaded r (ofRecord file.network file.badges places loaded r) := by
  unfold ofRecord
  by_cases few : r.calls.length < 2
  · rw [if_pos few]
    refine .broken ?_ _ rfl
    rw [ServiceRecord.isValid, decide_eq_false (Nat.not_le.mpr few), Bool.false_and, Bool.false_and]
  · rw [if_neg few]
    rcases Call.mapM_ofRecord_cases places r.id r.calls with
      ⟨calls, done, makes, stations, valid⟩ | ⟨e, failed, about, broken⟩
    · have inOrder_iff := Call.inOrder_iff calls
      rw [← ServiceRecord.flatMap_times makes] at inOrder_iff
      rw [done]
      change Outcome file places loaded r (if !Call.inOrder calls then _ else .ok _)
      cases order : Call.inOrder calls with
      | false =>
        rw [order] at inOrder_iff
        refine .broken ?_ _ rfl
        rw [ServiceRecord.isValid, decide_eq_false (inOrder_iff.not.mp Bool.false_ne_true),
          Bool.and_false]
      | true =>
        refine .made ?_ ⟨rfl, rfl, rfl, rfl, makes⟩ rfl ⟨order, stations⟩
        rw [ServiceRecord.isValid, decide_eq_true (inOrder_iff.mp order), valid,
          decide_eq_true (Nat.le_of_not_lt few)]
        rfl
    · rw [failed]
      refine .broken ?_ e about
      rw [ServiceRecord.isValid, broken, Bool.and_false, Bool.false_and]

theorem outcome_of_ok {file : TimetableFile} {places : List Place} {loaded : List Service}
    {r : ServiceRecord} {s : Service}
    (read : ofRecord file.network file.badges places loaded r = .ok s) :
    Outcome file places loaded r (.ok s) := by
  rw [← read]
  exact outcome_ofRecord file places loaded r

theorem of_error {file : TimetableFile} {places : List Place} {loaded : List Service}
    {r : ServiceRecord} {e : RecordError}
    (failed : ofRecord file.network file.badges places loaded r = .error e) :
    e.subject = ("skipping service", r.id) ∧ r.isValid (Place.stationIds places) = false := by
  have outcome := outcome_ofRecord file places loaded r
  rw [failed] at outcome
  cases outcome with
  | broken invalid e about => exact ⟨about, invalid⟩

end Service

end JourneyPlanner

import Mathlib.Data.List.Forall2
import JourneyPlanner.Proofs.Timetable.Loaded
import JourneyPlanner.Representatives

set_option autoImplicit false

/-!
Records that are skipped. A document without them makes the same timetable and has nothing to
report; in the document as it is, each record makes its place or service, in their order, or is
reported.
-/
namespace JourneyPlanner

namespace TimetableFile

/-- The records that make places: of the valid ones the first under each id. -/
def loadablePlaces (file : TimetableFile) : List PlaceRecord :=
  representatives (fun kept r => kept.id = r.id) (file.places.filter PlaceRecord.isValid)

def stationIds (file : TimetableFile) : List String :=
  (file.loadablePlaces.filter fun r => r.kind = .station).map PlaceRecord.id

def loadableServices (file : TimetableFile) : List ServiceRecord :=
  file.services.filter (ServiceRecord.isValid file.stationIds)

/-- The document without the records that make nothing. -/
def loadable (file : TimetableFile) : TimetableFile :=
  { file with places := file.loadablePlaces, services := file.loadableServices }

end TimetableFile

/-- The event that tells of a skipped record. -/
def RecordError.event (skipped : String) (e : RecordError) : Event :=
  ⟨.warn, skipped, [("error", e.message)]⟩

/-- The event tells why the record of an id is skipped. -/
def Event.TellsSkipped (skipped id : String) (event : Event) : Prop :=
  ∃ e : RecordError, e.subject = (skipped, id) ∧ event = e.event skipped

/-- Records gone through one by one: each is kept and makes the next value, or causes the next
event. -/
inductive Sifted {ρ α : Type} (makes : ρ → α → Prop) (tells : ρ → Event → Prop) :
    List ρ → List ρ → List α → List Event → Prop where
  | done : Sifted makes tells [] [] [] []
  | kept {r : ρ} {a : α} {records keeping : List ρ} {values : List α} {events : List Event}
      (made : makes r a) (rest : Sifted makes tells records keeping values events) :
      Sifted makes tells (r :: records) (r :: keeping) (a :: values) events
  | skipped {r : ρ} {event : Event} {records keeping : List ρ} {values : List α}
      {events : List Event} (told : tells r event)
      (rest : Sifted makes tells records keeping values events) :
      Sifted makes tells (r :: records) keeping values (event :: events)

namespace Sifted

variable {ρ α : Type} {makes : ρ → α → Prop} {tells : ρ → Event → Prop} {records keeping : List ρ}
  {values : List α} {events : List Event}

theorem forall₂ (sifted : Sifted makes tells records keeping values events) :
    List.Forall₂ makes keeping values := by
  induction sifted with
  | done => exact .nil
  | kept made _ ih => exact .cons made ih
  | skipped _ _ ih => exact ih

theorem map (sifted : Sifted makes tells records keeping values events) {f : α → α}
    (still : ∀ r a, makes r a → makes r (f a)) :
    Sifted makes tells records keeping (values.map f) events := by
  induction sifted with
  | done => exact .done
  | kept made _ ih => exact .kept (still _ _ made) ih
  | skipped told _ ih => exact .skipped told ih

end Sifted

section Loading

variable {ρ α : Type}

/-- The records that are loaded, in their order. -/
def loadableRecords (load : List α → ρ → Except RecordError α) (loaded : List α) : List ρ → List ρ
  | [] => []
  | r :: rest =>
      match load loaded r with
      | .ok a => r :: loadableRecords load (loaded ++ [a]) rest
      | .error _ => loadableRecords load loaded rest

variable {load : List α → ρ → Except RecordError α}

/-- Loading only what can be loaded makes the same and reports nothing. -/
theorem loadRecords_loadable (skipped : String) (records : List ρ) (loaded : List α) :
    loadRecords skipped load loaded (loadableRecords load loaded records) =
      pure (loadRecords skipped load loaded records).value := by
  induction records generalizing loaded with
  | nil => rfl
  | cons r rest ih =>
    rw [loadableRecords, loadRecords]
    cases read : load loaded r with
    | ok a =>
      simp only [loadRecords, read]
      exact ih (loaded ++ [a])
    | error e => exact ih loaded

/-- The induction keeps what was loaded before as it is. -/
theorem sifted_loadRecords_from {makes : ρ → α → Prop} {tells : ρ → Event → Prop}
    {skipped : String} (ofOk : ∀ loaded r a, load loaded r = .ok a → makes r a)
    (ofError : ∀ loaded r e, load loaded r = .error e → tells r (e.event skipped))
    (records : List ρ) (loaded : List α) :
    ∃ values, (loadRecords skipped load loaded records).value = loaded ++ values ∧
      Sifted makes tells records (loadableRecords load loaded records) values
        (loadRecords skipped load loaded records).events := by
  induction records generalizing loaded with
  | nil => exact ⟨[], (List.append_nil loaded).symm, .done⟩
  | cons r rest ih =>
    rw [loadableRecords, loadRecords]
    cases read : load loaded r with
    | ok a =>
      obtain ⟨values, made, sifted⟩ := ih (loaded ++ [a])
      refine ⟨a :: values, ?_, .kept (ofOk loaded r a read) sifted⟩
      rw [made, List.append_assoc, List.singleton_append]
    | error e =>
      obtain ⟨values, made, sifted⟩ := ih loaded
      exact ⟨values, made, .skipped (ofError loaded r e read) sifted⟩

theorem sifted_loadRecords {makes : ρ → α → Prop} {tells : ρ → Event → Prop} {skipped : String}
    (ofOk : ∀ loaded r a, load loaded r = .ok a → makes r a)
    (ofError : ∀ loaded r e, load loaded r = .error e → tells r (e.event skipped))
    (records : List ρ) :
    Sifted makes tells records (loadableRecords load [] records)
      (loadRecords skipped load [] records).value (loadRecords skipped load [] records).events := by
  obtain ⟨values, made, sifted⟩ := sifted_loadRecords_from ofOk ofError records []
  rw [made, List.nil_append]
  exact sifted

end Loading

namespace Place

/-- Only valid records under new ids are loaded. -/
theorem keepUncovered_eq {kept : List PlaceRecord} {loaded : List Place}
    (same : kept.map PlaceRecord.id = loaded.map Place.id) (records : List PlaceRecord) :
    keepUncovered (fun kept r => kept.id = r.id) kept (records.filter PlaceRecord.isValid) =
      kept ++ loadableRecords ofRecord loaded records := by
  induction records generalizing kept loaded with
  | nil => exact (List.append_nil kept).symm
  | cons r rest ih =>
    have known_iff : (kept.any fun k => decide (k.id = r.id)) = true ↔
        r.id ∈ loaded.map Place.id := by
      rw [← same]
      simp only [List.any_eq_true, decide_eq_true_eq, List.mem_map]
    rw [loadableRecords]
    cases read : ofRecord loaded r with
    | ok p =>
      obtain ⟨fresh, valid, makes, -, -⟩ := outcome_of_ok read
      have still : (kept ++ [r]).map PlaceRecord.id = (loaded ++ [p]).map Place.id := by
        rw [List.map_append, List.map_append, same, List.map_singleton, List.map_singleton,
          makes.id]
      rw [List.filter_cons_of_pos valid, keepUncovered, if_neg (known_iff.not.mpr fresh), ih still,
        List.append_assoc, List.singleton_append]
    | error e =>
      cases valid : r.isValid with
      | false =>
        rw [List.filter_cons_of_neg (Bool.eq_false_iff.mp valid)]
        exact ih same
      | true =>
        have known := (of_error read).2 valid
        rw [List.filter_cons_of_pos valid, keepUncovered, if_pos (known_iff.mpr known)]
        exact ih same

theorem loadable_places (file : TimetableFile) :
    file.loadablePlaces = loadableRecords ofRecord [] file.places :=
  keepUncovered_eq rfl file.places

theorem sifted_places (file : TimetableFile) :
    Sifted PlaceRecord.Makes (fun r => Event.TellsSkipped "skipping place" r.id) file.places
      file.loadablePlaces file.loadedPlaces.value file.loadedPlaces.events := by
  have ofOk : ∀ loaded r p, ofRecord loaded r = .ok p → r.Makes p := by
    intro loaded r p read
    obtain ⟨-, -, makes, -, -⟩ := outcome_of_ok read
    exact makes
  have ofError : ∀ loaded r e, ofRecord loaded r = .error e →
      Event.TellsSkipped "skipping place" r.id (e.event "skipping place") :=
    fun loaded r e failed => ⟨e, (of_error failed).1, rfl⟩
  rw [loadable_places]
  exact sifted_loadRecords ofOk ofError file.places

/-- At which ids services may call is told by the records. -/
theorem stationIds_of_makes {records : List PlaceRecord} {places : List Place}
    (made : List.Forall₂ PlaceRecord.Makes records places) :
    stationIds places = (records.filter fun r => r.kind = .station).map PlaceRecord.id := by
  induction made with
  | nil => rfl
  | @cons r p rest places makes _ ih =>
    have kind : p.isStation = decide (r.kind = .station) := by
      rw [isStation, makes.details]
      rfl
    rw [stationIds] at ih ⊢
    rw [List.filter_cons, List.filter_cons, kind]
    split
    · rw [List.map_cons, List.map_cons, ih, makes.id]
    · exact ih

end Place

namespace Service

/-- Which services are loaded depends on the stations alone. -/
theorem loadable_services (file : TimetableFile) (loaded : List Service)
    (records : List ServiceRecord) :
    loadableRecords (ofRecord file.network file.badges file.loadedPlaces.value) loaded records =
      records.filter (ServiceRecord.isValid file.stationIds) := by
  have stations : Place.stationIds file.loadedPlaces.value = file.stationIds :=
    Place.stationIds_of_makes (Place.sifted_places file).forall₂
  rw [← stations]
  induction records generalizing loaded with
  | nil => rfl
  | cons r rest ih =>
    rw [loadableRecords]
    cases read : ofRecord file.network file.badges file.loadedPlaces.value loaded r with
    | ok s =>
      obtain ⟨valid, -, -, -⟩ := outcome_of_ok read
      rw [List.filter_cons_of_pos valid]
      exact congrArg (r :: ·) (ih (loaded ++ [s]))
    | error e =>
      rw [List.filter_cons_of_neg (Bool.eq_false_iff.mp (of_error read).2)]
      exact ih loaded

theorem sifted_services (file : TimetableFile) :
    Sifted (ServiceRecord.Makes file) (fun r => Event.TellsSkipped "skipping service" r.id)
      file.services file.loadableServices file.loadedServices.value
      file.loadedServices.events := by
  have ofOk : ∀ loaded r s, ofRecord file.network file.badges file.loadedPlaces.value loaded r =
      .ok s → r.Makes file s := by
    intro loaded r s read
    obtain ⟨-, makes, -, -⟩ := outcome_of_ok read
    exact makes
  have ofError : ∀ loaded r e, ofRecord file.network file.badges file.loadedPlaces.value loaded r =
      .error e → Event.TellsSkipped "skipping service" r.id (e.event "skipping service") :=
    fun loaded r e failed => ⟨e, (of_error failed).1, rfl⟩
  rw [TimetableFile.loadableServices, ← loadable_services file []]
  exact sifted_loadRecords ofOk ofError file.services

end Service

/-! What is told of places and services later leaves what the records made of them. -/

theorem PlaceRecord.Makes.serving {r : PlaceRecord} {p : Place} (makes : r.Makes p)
    (services : List Service) : r.Makes (p.serving services) := by
  unfold Place.serving
  split
  · exact makes
  · exact ⟨makes.id, makes.details, makes.latitude, makes.longitude, makes.group⟩

theorem ServiceRecord.Makes.withStations {file : TimetableFile} {r : ServiceRecord} {s : Service}
    (makes : r.Makes file s) (services : List Service) :
    r.Makes file (s.withStations services) := by
  refine ⟨makes.id, makes.line, makes.bikesAllowed, makes.wheelchairAccessible, ?_⟩
  refine List.forall₂_map_right_iff.mpr (makes.calls.imp fun c call made => ?_)
  exact ⟨(Place.id_serving services call.station).trans made.station, made.arrival,
    made.departure, made.platform⟩

theorem Logged.eq_pure {α : Type} {logged : Logged α} {a : α} (value : logged.value = a)
    (silent : logged.events = []) : logged = pure a := by
  cases logged
  cases value
  cases silent
  rfl

namespace Timetable

variable {tt : Timetable} {file : TimetableFile}

/-- A document without the records that were skipped makes the same timetable and skips nothing. -/
theorem ofFile_loadable (loaded : (ofFile file).value = .ok tt) :
    ofFile file.loadable = pure (.ok tt) := by
  obtain ⟨named, forwards, minChange, read, same⟩ := ofFile_eq_ok_iff.mp loaded
  have places : file.loadable.loadedPlaces = pure file.loadedPlaces.value := by
    rw [TimetableFile.loadedPlaces, TimetableFile.loadable, Place.loadable_places]
    exact loadRecords_loadable "skipping place" file.places []
  have services : file.loadable.loadedServices = pure file.loadedServices.value := by
    rw [TimetableFile.loadedServices, places, TimetableFile.loadable,
      TimetableFile.loadableServices, ← Service.loadable_services file []]
    exact loadRecords_loadable "skipping service" file.services []
  have again : (ofFile file.loadable).value = .ok tt := by
    rw [ofFile_eq_ok_iff, places, services]
    exact ⟨named, forwards, minChange, read, same⟩
  have silent := events_ofFile again
  rw [places, services] at silent
  exact Logged.eq_pure again silent

/-- Records that are skipped might as well be missing, and each is reported. -/
theorem skipped_records_as_good_as_absent (loaded : (ofFile file).value = .ok tt) :
    ofFile file.loadable = pure (.ok tt) ∧
      ∃ placeEvents serviceEvents, (ofFile file).events = placeEvents ++ serviceEvents ∧
        Sifted PlaceRecord.Makes (fun r => Event.TellsSkipped "skipping place" r.id)
          file.places file.loadable.places tt.places placeEvents ∧
        Sifted (ServiceRecord.Makes file)
          (fun r => Event.TellsSkipped "skipping service" r.id)
          file.services file.loadable.services tt.services serviceEvents := by
  refine ⟨ofFile_loadable loaded, file.loadedPlaces.events, file.loadedServices.events,
    events_ofFile loaded, ?_⟩
  obtain ⟨-, -, minChange, -, rfl⟩ := ofFile_eq_ok_iff.mp loaded
  exact ⟨(Place.sifted_places file).map fun r p makes => makes.serving _,
    (Service.sifted_services file).map fun r s makes => makes.withStations _⟩

theorem skipped_records_as_good_as_absent_patchy :
    ∃ tt, (ofFile Sample.patchy).value = .ok tt ∧
      (ofFile Sample.patchy).events.length = 9 ∧ Sample.patchy.loadable.places.length = 3 ∧
      Sample.patchy.loadable.services.length = 1 ∧
      ofFile Sample.patchy.loadable = pure (.ok tt) ∧
      ∃ placeEvents serviceEvents,
        (ofFile Sample.patchy).events = placeEvents ++ serviceEvents ∧
        Sifted PlaceRecord.Makes (fun r => Event.TellsSkipped "skipping place" r.id)
          Sample.patchy.places Sample.patchy.loadable.places tt.places placeEvents ∧
        Sifted (ServiceRecord.Makes Sample.patchy)
          (fun r => Event.TellsSkipped "skipping service" r.id)
          Sample.patchy.services Sample.patchy.loadable.services tt.services serviceEvents := by
  have checked : ((ofFile Sample.patchy).value.toOption.any fun _ => true) = true := rfl
  obtain ⟨tt, loaded, -⟩ := exists_ok_of_any checked
  exact ⟨tt, loaded, rfl, rfl, rfl, skipped_records_as_good_as_absent loaded⟩

end Timetable

end JourneyPlanner

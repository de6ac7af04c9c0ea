import JourneyPlanner.Proofs.Fallible
import JourneyPlanner.Proofs.Timetable.Records

set_option autoImplicit false

/-!
What every loaded timetable keeps to, however many records of its document were skipped: places and
services know their positions, services call in the order of time at stations of the timetable, and
a change takes no negative time.
-/
namespace JourneyPlanner

/-- What each record that is loaded preserves holds of all that is loaded. -/
theorem loadRecords_invariant {ρ α : Type} {load : List α → ρ → Except RecordError α}
    (Inv : List α → Prop)
    (step : ∀ loaded r a, load loaded r = .ok a → Inv loaded → Inv (loaded ++ [a]))
    (skipped : String) (records : List ρ) (loaded : List α) (start : Inv loaded) :
    Inv (loadRecords skipped load loaded records).value := by
  induction records generalizing loaded with
  | nil => exact start
  | cons r rest ih =>
    rw [loadRecords]
    cases read : load loaded r with
    | ok a => exact ih (loaded ++ [a]) (step loaded r a read start)
    | error e => exact ih loaded start

/-- Each element has its position for its number. -/
def Numbered {α : Type} (number : α → Nat) (elements : List α) : Prop :=
  ∀ n a, elements[n]? = some a → number a = n

namespace Numbered

variable {α : Type} {number : α → Nat} {elements : List α}

theorem nil (number : α → Nat) : Numbered number [] := by
  intro n a found
  rw [List.getElem?_nil] at found
  cases found

theorem snoc (numbered : Numbered number elements) {a : α} (next : number a = elements.length) :
    Numbered number (elements ++ [a]) := by
  intro n b found
  rcases Nat.lt_trichotomy n elements.length with inside | last | outside
  · rw [List.getElem?_append_left inside] at found
    exact numbered n b found
  · rw [last, List.getElem?_concat_length, Option.some.injEq] at found
    rw [← found, next, last]
  · rw [List.getElem?_append_right (by omega), List.getElem?_eq_none (by simp; omega)] at found
    cases found

theorem map (numbered : Numbered number elements) {f : α → α}
    (same : ∀ a, number (f a) = number a) : Numbered number (elements.map f) := by
  intro n b found
  rw [List.getElem?_map] at found
  obtain ⟨a, known, rfl⟩ := Option.map_eq_some_iff.mp found
  rw [same]
  exact numbered n a known

theorem getElem?_of_mem (numbered : Numbered number elements) {a : α} (mem : a ∈ elements) :
    elements[number a]? = some a := by
  obtain ⟨n, found⟩ := List.mem_iff_getElem?.mp mem
  rw [numbered n a found]
  exact found

theorem eq_of_number (numbered : Numbered number elements) {a b : α} (mem : a ∈ elements)
    (memToo : b ∈ elements) (same : number a = number b) : a = b := by
  have found := numbered.getElem?_of_mem mem
  rw [same, numbered.getElem?_of_mem memToo, Option.some.injEq] at found
  exact found.symm

theorem ascending (numbered : Numbered number elements) :
    elements.Pairwise fun a b => number a < number b := by
  rw [List.pairwise_iff_getElem]
  intro i j inside insideToo before
  rw [numbered i _ (List.getElem?_eq_getElem inside),
    numbered j _ (List.getElem?_eq_getElem insideToo)]
  exact before

end Numbered

theorem numbered_loadRecords {ρ α : Type} {load : List α → ρ → Except RecordError α}
    {number : α → Nat} (next : ∀ loaded r a, load loaded r = .ok a → number a = loaded.length)
    (skipped : String) (records : List ρ) :
    Numbered number (loadRecords skipped load [] records).value :=
  loadRecords_invariant (Numbered number)
    (fun loaded r a read numbered => numbered.snoc (next loaded r a read)) skipped records []
    (Numbered.nil number)

/-- What is loaded was made from a record. -/
theorem made_of_mem_loadRecords {ρ α : Type} {load : List α → ρ → Except RecordError α}
    {skipped : String} {records : List ρ} {a : α}
    (mem : a ∈ (loadRecords skipped load [] records).value) :
    ∃ loaded r, load loaded r = .ok a := by
  refine loadRecords_invariant (fun values => ∀ a ∈ values, ∃ loaded r, load loaded r = .ok a)
    (fun loaded r b read made c inside => ?_) skipped records []
    (fun b none => absurd none List.not_mem_nil) a mem
  rcases List.mem_append.mp inside with before | last
  · exact made c before
  · rw [List.mem_singleton.mp last]
    exact ⟨loaded, r, read⟩

namespace TimetableFile

def loadedPlaces (file : TimetableFile) : Logged (List Place) :=
  loadRecords "skipping place" Place.ofRecord [] file.places

def loadedServices (file : TimetableFile) : Logged (List Service) :=
  loadRecords "skipping service"
    (Service.ofRecord file.network file.badges file.loadedPlaces.value) [] file.services

end TimetableFile

/-- What is relied on in a loaded timetable. -/
structure Timetable.Sound (tt : Timetable) : Prop where
  places_numbered : Numbered Place.number tt.places
  services_numbered : Numbered Service.number tt.services
  services_run : ∀ s ∈ tt.services, s.RunsOver tt.places
  minChange_nonneg : 0 ≤ tt.minChange

namespace Place

@[simp] theorem id_serving (services : List Service) (p : Place) :
    (p.serving services).id = p.id := by
  unfold serving
  split <;> rfl

@[simp] theorem number_serving (services : List Service) (p : Place) :
    (p.serving services).number = p.number := by
  unfold serving
  split <;> rfl

@[simp] theorem isStation_serving (services : List Service) (p : Place) :
    (p.serving services).isStation = p.isStation := by
  unfold serving
  split <;> rfl

end Place

namespace Call

theorem inOrder_map (f : Call → Call)
    (same : ∀ call, (f call).arrival = call.arrival ∧ (f call).departure = call.departure)
    (calls : List Call) : inOrder (calls.map f) = inOrder calls := by
  induction calls with
  | nil => rfl
  | cons call rest ih =>
    cases rest with
    | nil => simp only [List.map_cons, List.map_nil, inOrder, same]
    | cons next rest =>
      simp only [List.map_cons] at ih
      simp only [List.map_cons, inOrder, same, ih]

end Call

namespace Service

/-- Products told at the stations change neither where nor when a service calls. -/
theorem RunsOver.withStations {places : List Place} {s : Service} (runs : s.RunsOver places)
    (services : List Service) :
    (s.withStations services).RunsOver (places.map (Place.serving services)) := by
  refine ⟨?_, fun call mem => ?_⟩
  · have kept : Call.inOrder (s.withStations services).calls = Call.inOrder s.calls := by
      apply Call.inOrder_map
      exact fun _ => ⟨rfl, rfl⟩
    rw [kept]
    exact runs.inOrder
  · obtain ⟨original, inside, rfl⟩ := List.mem_map.mp mem
    obtain ⟨known, station⟩ := runs.stations original inside
    refine ⟨List.mem_map_of_mem known, ?_⟩
    rw [Place.isStation_serving]
    exact station

end Service

/-! Records of small documents, all other details left to what is usual. -/
namespace Sample

def station (id : String) (latitude : Int32) : PlaceRecord :=
  { id, kind := .station, name := id, place := none, latitude, longitude := 13000000,
    group := none }

def call (station : String) (time : Instant) : CallRecord :=
  { station, arrival := some time, departure := none, platform := none }

def bus (id : String) (calls : List CallRecord) : ServiceRecord where
  id := id
  line := { label := id, product := .bus, network := none, name := none }
  destination := none
  bikesAllowed := false
  wheelchairAccessible := false
  calls := calls

def file (validFrom validUntil : Instant) (places : List PlaceRecord)
    (services : List ServiceRecord) : TimetableFile where
  network := "NET"
  serverProduct := none
  version := none
  validFrom := validFrom
  validUntil := validUntil
  minChangeMinutes := TimetableFile.usualMinChangeMinutes
  maxWalkMeters := TimetableFile.usualMaxWalkMeters
  places := places
  services := services
  badges := .empty

def poi (id : String) (latitude : Int32) : PlaceRecord :=
  { station id latitude with kind := .poi }

/-- A second counted from 1970, within a time that is long enough for samples. -/
def wholeSecond (second : Nat) : Instant where
  second := second % 4000000000
  nanos := 0
  inRange := by
    unfold Time.leastSecond Time.greatestSecond
    omega
  bounded := Instant.epoch.bounded
  leap := by omega

/-- So many minutes after eight on the fifteenth of March 2024. -/
def morning (minutes : Nat) : Instant := wholeSecond (1710489600 + 60 * minutes)

/-- The beginning of the last hour of 2016, which is one second longer than others. -/
def lastHour : Instant := wholeSecond 1483225200

/-- A thousandth of the last second of that hour, which takes two. -/
def lastSecond (millis : Nat) : Instant where
  second := 1483228799
  nanos := millis % 2000 * 1000000
  inRange := by decide
  bounded := by omega
  leap := fun _ => by decide

/-- Services around the end of 2016 between three stations and a place fifty metres from the second
of them. -/
def newYear (services : List ServiceRecord) : TimetableFile :=
  file lastHour (wholeSecond 1483315200)
    [station "A" 52000000, station "D" 52100000, station "E" 52200000, poi "P" 52100050] services

/-- Two stations with a bus between them, a point of interest, and records of all kinds that are
skipped. -/
def patchy : TimetableFile :=
  file (morning 0) (morning 600)
    [station "A" 52000000, { station "B" 52000000 with kind := .any }, station "B" 52100000,
      poi "P" 52000050, station "C" 100000000, station "A" 52200000, station " " 52000000]
    [bus "short" [call "A" (morning 0)],
      bus "unknown" [call "A" (morning 0), call "C" (morning 10)],
      bus "1" [call "A" (morning 0), call "B" (morning 10)],
      bus "astray" [call "A" (morning 0), call "P" (morning 10)],
      bus "untimed" [call "A" (morning 0), { call "B" (morning 10) with arrival := none }],
      bus "backwards" [call "A" (morning 10), call "B" (morning 0)]]

/-- A microdegree of latitude or longitude counts as a metre. -/
def metric : Metric := fun p q =>
  ((p.latitude - q.latitude).natAbs + (p.longitude - q.longitude).natAbs : Nat)

def place (kind : LocationKind) (id : String) (known : Text.isBlankText id = false)
    (identified : kind ≠ .any ∧ kind ≠ .coord) : Location where
  kind := kind
  id := some id
  point := none
  place := none
  name := none
  sound := by simp [LocationDetails.violation, known, identified]
  products := none

def stationPlace (id : String) (known : Text.isBlankText id = false) : Location :=
  place .station id known (by decide)

theorem poi_identified : LocationKind.poi ≠ .any ∧ LocationKind.poi ≠ .coord := by decide

def poiPlace (id : String) (known : Text.isBlankText id = false) : Location :=
  place .poi id known poi_identified

/-- Where the sample queries start. -/
def origin : Location := stationPlace "A" (by decide)

/-- Where most of them end. -/
def destination : Location := stationPlace "D" (by decide)

end Sample

namespace Timetable

theorem minChangeOf_nonneg {file : TimetableFile} {minChange : Int}
    (read : minChangeOf file = some minChange) : 0 ≤ minChange := by
  unfold minChangeOf Time.minutes? at read
  split at read
  · cases read
    have nonneg : 0 ≤ max 0 file.minChangeMinutes.toInt := Int.le_max_left _ _
    exact Int.mul_nonneg nonneg (by decide)
  · cases read

/-- Services with the products known at their stations. -/
def completed (services : List Service) : List Service :=
  services.map (Service.withStations services)

/-- The places and services of a document put together. -/
def assembled (file : TimetableFile) (minChange : Int) (places : List Place)
    (services : List Service) : Timetable where
  network := ⟨file.network⟩
  header := headerOf file
  validFrom := file.validFrom
  validUntil := file.validUntil
  minChange := minChange
  maxWalkMeters := file.maxWalkMeters
  places := places.map (Place.serving services)
  services := completed services
  badges := file.badges
  boardings := Boarding.ofServices (completed services)
  boardings_eq := rfl

/-- A document whose own details are in order makes a timetable of what its records make. -/
theorem ofFile_eq_ok_iff {file : TimetableFile} {tt : Timetable} :
    (ofFile file).value = .ok tt ↔
      Text.isBlankText file.network = false ∧ ¬ file.validUntil < file.validFrom ∧
        ∃ minChange, minChangeOf file = some minChange ∧
          assembled file minChange file.loadedPlaces.value file.loadedServices.value = tt := by
  unfold ofFile
  split
  · rename_i blank
    simp only [blank, Bool.true_eq_false, false_and, iff_false]
    exact fun loaded => nomatch loaded
  · rename_i named
    split
    · rename_i backwards
      simp only [backwards, not_true_eq_false, false_and, and_false, iff_false]
      exact fun loaded => nomatch loaded
    · rename_i forwards
      simp only [bind, pure, Bool.eq_false_iff.mpr named, forwards, not_false_eq_true, true_and]
      cases minChangeOf file with
      | none => simp only [reduceCtorEq, false_and, exists_false]
      | some minChange =>
        simp only [Except.ok.injEq, Option.some.injEq, exists_eq_left']
        exact Iff.rfl

/-- Of a document that makes a timetable, all that is reported are its records. -/
theorem events_ofFile {file : TimetableFile} {tt : Timetable}
    (loaded : (ofFile file).value = .ok tt) :
    (ofFile file).events = file.loadedPlaces.events ++ file.loadedServices.events := by
  obtain ⟨named, forwards, minChange, read, -⟩ := ofFile_eq_ok_iff.mp loaded
  unfold ofFile
  rw [named, if_neg Bool.false_ne_true, if_neg forwards]
  simp only [bind, pure, read, List.append_nil]
  rfl

theorem sound_of_ofFile {file : TimetableFile} {tt : Timetable}
    (loaded : (ofFile file).value = .ok tt) : tt.Sound := by
  obtain ⟨-, -, minChange, read, rfl⟩ := ofFile_eq_ok_iff.mp loaded
  have places : Numbered Place.number file.loadedPlaces.value := by
    refine numbered_loadRecords (fun loaded r p read => ?_) "skipping place" file.places
    obtain ⟨-, -, -, number, -⟩ := Place.outcome_of_ok read
    exact number
  have services : Numbered Service.number file.loadedServices.value := by
    refine numbered_loadRecords (fun loaded r s read => ?_) "skipping service" file.services
    obtain ⟨-, -, number, -⟩ := Service.outcome_of_ok read
    exact number
  refine ⟨places.map fun p => Place.number_serving _ p, services.map fun s => rfl, ?_,
    minChangeOf_nonneg read⟩
  intro s mem
  obtain ⟨original, inside, rfl⟩ := List.mem_map.mp mem
  obtain ⟨loaded, r, read⟩ := made_of_mem_loadRecords inside
  obtain ⟨-, -, -, runs⟩ := Service.outcome_of_ok read
  exact runs.withStations _

end Timetable

end JourneyPlanner

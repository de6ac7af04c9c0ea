import Mathlib
import JourneyPlanner.Proofs.Location.Ranking
import JourneyPlanner.Proofs.Timetable.Resolving
import JourneyPlanner.Trip.Identifier

set_option autoImplicit false

/-!
Places of a loaded timetable go by their ids, which are distinct. An endpoint found in it is reached
in one way from each of its stations, and all its ways are walks or none is.
-/
namespace JourneyPlanner

/-- Each place is located under its id, and no two places have one id. -/
structure NamedPlaces (places : List Place) : Prop where
  located : ∀ p ∈ places, p.location.id = some p.id
  distinct : (places.map Place.id).Nodup

namespace Place

@[simp] theorem locationId_serving (services : List Service) (p : Place) :
    (p.serving services).location.id = p.location.id := by
  unfold serving
  split <;> rfl

theorem named_of_ofRecord (loaded : List Place) (r : PlaceRecord) (p : Place)
    (read : ofRecord loaded r = .ok p) (named : NamedPlaces loaded) :
    NamedPlaces (loaded ++ [p]) := by
  obtain ⟨fresh, -, makes, -, -⟩ := outcome_of_ok read
  refine ⟨fun q mem => ?_, ?_⟩
  · rcases List.mem_append.mp mem with before | last
    · exact named.located q before
    · rw [List.mem_singleton.mp last, makes.details, makes.id]
      rfl
  · rw [List.map_append, List.map_singleton, List.nodup_append]
    refine ⟨named.distinct, List.nodup_singleton _, fun id mem other last => ?_⟩
    rw [List.mem_singleton.mp last, makes.id]
    intro same
    exact fresh (same ▸ mem)

end Place

namespace NamedPlaces

variable {places part whole : List Place}

theorem nil : NamedPlaces [] :=
  ⟨fun _ mem => absurd mem List.not_mem_nil, List.nodup_nil⟩

theorem sublist (inside : part.Sublist whole) (named : NamedPlaces whole) :
    NamedPlaces part where
  located p mem := named.located p (inside.subset mem)
  distinct := (inside.map Place.id).nodup named.distinct

theorem perm (same : part.Perm whole) (named : NamedPlaces whole) : NamedPlaces part where
  located p mem := named.located p (same.subset mem)
  distinct := (same.map Place.id).nodup_iff.mpr named.distinct

/-- Places with different ids are different, wherever they lie. -/
theorem apart (metric : Metric) (named : NamedPlaces whole) :
    (whole.map Place.location).Pairwise fun a b => a.isSamePlace metric b = false := by
  rw [List.pairwise_map]
  refine (List.pairwise_map.mp named.distinct).imp_of_mem fun mem memToo different => ?_
  exact Location.isSamePlace_of_ids (named.located _ mem) (named.located _ memToo) different

theorem serving (named : NamedPlaces places) (services : List Service) :
    NamedPlaces (places.map (Place.serving services)) := by
  refine ⟨fun p mem => ?_, ?_⟩
  · obtain ⟨q, known, rfl⟩ := List.mem_map.mp mem
    rw [Place.locationId_serving, Place.id_serving]
    exact named.located q known
  · have same : Place.id ∘ Place.serving services = Place.id :=
      funext fun p => Place.id_serving services p
    rw [List.map_map, same]
    exact named.distinct

theorem eq_of_id (named : NamedPlaces places) {p q : Place} (known : p ∈ places)
    (knownToo : q ∈ places) (same : p.id = q.id) : p = q :=
  List.inj_on_of_nodup_map named.distinct known knownToo same

theorem key (named : NamedPlaces places) {p : Place} (known : p ∈ places) :
    p.location.key = p.id := by
  rw [Location.key, named.located p known]

end NamedPlaces

namespace Timetable

variable {tt : Timetable}

theorem named_of_ofFile {file : TimetableFile} (loaded : (ofFile file).value = .ok tt) :
    NamedPlaces tt.places := by
  have records := loadRecords_invariant NamedPlaces Place.named_of_ofRecord "skipping place"
    file.places [] .nil
  obtain ⟨-, -, minChange, -, rfl⟩ := ofFile_eq_ok_iff.mp loaded
  exact records.serving file.loadedServices.value

end Timetable

namespace Endpoint

/-- All ways to a place are walks or none is, there is one from each station, and without a walk
there are no metres. -/
structure Uniform (e : Endpoint) : Prop where
  alike : ∀ a ∈ e.accesses, ∀ b ∈ e.accesses, a.onFoot = b.onFoot
  single : ∀ a ∈ e.accesses, ∀ b ∈ e.accesses, a.station = b.station → a = b
  riding : ∀ a ∈ e.accesses, a.onFoot = false → a.meters = 0

theorem uniform_walkable (metric : Metric) (tt : Timetable) (point : GeoPoint) (l : Location) :
    Uniform { location := l, accesses := tt.walkableStations metric point } := by
  have walks : ∀ a ∈ tt.walkableStations metric point, a.onFoot = true := fun a mem =>
    (Timetable.mem_walkableStations mem).2
  refine ⟨fun a mem b memToo => ?_, fun a mem b memToo same => ?_, fun a mem riding => ?_⟩
  · rw [walks a mem, walks b memToo]
  · have reached := Timetable.walkTo?_of_mem mem
    rw [same, Timetable.walkTo?_of_mem memToo, Option.some.injEq] at reached
    exact reached.symm
  · rw [walks a mem] at riding
    cases riding

theorem uniform_endpointAt (metric : Metric) (tt : Timetable) (p : Place) :
    (tt.endpointAt metric p).Uniform := by
  unfold Timetable.endpointAt
  by_cases station : p.isStation = true
  · rw [if_pos station]
    refine ⟨fun a mem b memToo => ?_, fun a mem b memToo _ => ?_, fun a mem _ => ?_⟩
    · rw [List.mem_singleton.mp mem, List.mem_singleton.mp memToo]
    · rw [List.mem_singleton.mp mem, List.mem_singleton.mp memToo]
    · rw [List.mem_singleton.mp mem]
      rfl
  · rw [if_neg station]
    exact uniform_walkable metric tt p.point p.location

/-- An endpoint as it was looked up in a timetable: it goes by the id of a place or by a point. -/
structure FoundIn (tt : Timetable) (e : Endpoint) : Prop where
  served : e.ServedBy tt
  uniform : e.Uniform
  keyed : (∃ p ∈ tt.places, e.location.key = p.id) ∨
    ∃ point : GeoPoint, e.location.key = point.text

theorem foundIn_of_resolve {metric : Metric} {tt : Timetable} {l : Location} {unknown : NoTrips}
    {e : Endpoint} (named : NamedPlaces tt.places)
    (resolved : tt.resolve metric l unknown = .ok e) : e.FoundIn tt := by
  have served := Timetable.servedBy_of_resolve resolved
  rcases Timetable.resolve_eq_ok resolved with ⟨p, known, rfl⟩ | ⟨point, ⟨none, some⟩, rfl⟩
  · exact ⟨served, uniform_endpointAt metric tt p, .inl ⟨p, known, named.key known⟩⟩
  · refine ⟨served, uniform_walkable metric tt point l, .inr ⟨point, ?_⟩⟩
    rw [Location.key, none, some]

/-- The ways from stations of one id are one way. -/
theorem FoundIn.access_eq {tt : Timetable} {e : Endpoint} (found : e.FoundIn tt)
    (named : NamedPlaces tt.places) {a b : Access} (mem : a ∈ e.accesses)
    (memToo : b ∈ e.accesses) (same : a.station.id = b.station.id) : a = b :=
  found.uniform.single a mem b memToo (named.eq_of_id (found.served.stations a mem).1
    (found.served.stations b memToo).1 same)

end Endpoint

end JourneyPlanner

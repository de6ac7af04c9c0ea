import JourneyPlanner.Proofs.Timetable.Loaded
import JourneyPlanner.Timetable.Resolution

set_option autoImplicit false

/-!
Places looked up in a loaded timetable are reached from stations of that timetable. Only a station
is reached without a walk, from itself.
-/
namespace JourneyPlanner

/-- An endpoint as the timetable serves it. -/
structure Endpoint.ServedBy (tt : Timetable) (e : Endpoint) : Prop where
  stations : ∀ access ∈ e.accesses, access.station.IsStationIn tt.places
  atStation : ∀ access ∈ e.accesses, access.onFoot = false → access.station.location = e.location

namespace Timetable

variable {tt : Timetable} {metric : Metric} {point : GeoPoint} {p : Place}

theorem walkTo?_eq_some {station : Place} {access : Access}
    (walked : walkTo? metric tt point station = some access) :
    access.station = station ∧ access.onFoot = true := by
  unfold walkTo? at walked
  simp only at walked
  split at walked
  · cases walked
    exact ⟨rfl, rfl⟩
  · cases walked

theorem meters_le_of_walkTo? {station : Place} {access : Access}
    (walked : walkTo? metric tt point station = some access) :
    access.meters ≤ tt.maxWalkMeters := by
  unfold walkTo? at walked
  simp only at walked
  split at walked
  · rename_i near
    cases walked
    rw [UInt32.le_iff_toNat_le, Access.walking, UInt32.toNat_ofNat']
    have whole := Nat.mod_le (metric point station.point).ceil.toNat (2 ^ 32)
    omega
  · cases walked

theorem walkTo?_of_mem {access : Access} (mem : access ∈ walkableStations metric tt point) :
    walkTo? metric tt point access.station = some access := by
  rw [walkableStations, List.mem_mergeSort, List.mem_filterMap] at mem
  obtain ⟨station, -, walked⟩ := mem
  rw [(walkTo?_eq_some walked).1]
  exact walked

theorem mem_walkableStations {access : Access}
    (mem : access ∈ walkableStations metric tt point) :
    access.station.IsStationIn tt.places ∧ access.onFoot = true := by
  rw [walkableStations, List.mem_mergeSort, List.mem_filterMap] at mem
  obtain ⟨station, known, walked⟩ := mem
  obtain ⟨rfl, onFoot⟩ := walkTo?_eq_some walked
  exact ⟨List.mem_filter.mp known, onFoot⟩

theorem servedBy_of_walkable (metric : Metric) (tt : Timetable) (point : GeoPoint) (l : Location) :
    Endpoint.ServedBy tt { location := l, accesses := walkableStations metric tt point } := by
  refine ⟨fun access mem => (mem_walkableStations mem).1, fun access mem riding => ?_⟩
  rw [(mem_walkableStations mem).2] at riding
  cases riding

theorem servedBy_endpointAt (metric : Metric) (known : p ∈ tt.places) :
    (endpointAt metric tt p).ServedBy tt := by
  unfold endpointAt
  by_cases station : p.isStation = true
  · rw [if_pos station]
    refine ⟨fun access mem => ?_, fun access mem _ => ?_⟩
    · rw [List.mem_singleton.mp mem]
      exact ⟨known, station⟩
    · rw [List.mem_singleton.mp mem]
      rfl
  · rw [if_neg station]
    exact servedBy_of_walkable metric tt p.point p.location

/-- What is found is a place of the timetable, or a point with the stations around it. -/
theorem resolve_eq_ok {l : Location} {unknown : NoTrips} {e : Endpoint}
    (resolved : resolve metric tt l unknown = .ok e) :
    (∃ p ∈ tt.places, e = endpointAt metric tt p) ∨
      ∃ point, (l.id = none ∧ l.point = some point) ∧
        e = { location := l, accesses := walkableStations metric tt point } := by
  unfold resolve at resolved
  split at resolved
  · split at resolved
    · rename_i found
      cases resolved
      exact .inl ⟨_, List.mem_of_find?_eq_some found, rfl⟩
    · cases resolved
  · rename_i none some
    cases resolved
    exact .inr ⟨_, ⟨none, some⟩, rfl⟩
  · split at resolved
    · cases resolved
    · rename_i named
      cases resolved
      refine .inl ⟨_, ?_, rfl⟩
      unfold placesNamed at named
      split at named
      · cases named
      · exact (List.mem_filter.mp (named ▸ List.mem_cons_self)).1
    · cases resolved

/-- No way to a place that was looked up is longer than one may walk. -/
theorem meters_le_of_resolve {l : Location} {unknown : NoTrips} {e : Endpoint}
    (resolved : resolve metric tt l unknown = .ok e) {access : Access} (mem : access ∈ e.accesses) :
    access.meters ≤ tt.maxWalkMeters := by
  rcases resolve_eq_ok resolved with ⟨p, known, rfl⟩ | ⟨point, -, rfl⟩
  · unfold endpointAt at mem
    by_cases station : p.isStation = true
    · rw [if_pos station] at mem
      rw [List.mem_singleton.mp mem, UInt32.le_iff_toNat_le]
      exact Nat.zero_le _
    · rw [if_neg station] at mem
      exact meters_le_of_walkTo? (walkTo?_of_mem mem)
  · exact meters_le_of_walkTo? (walkTo?_of_mem mem)

theorem servedBy_of_resolve {l : Location} {unknown : NoTrips} {e : Endpoint}
    (resolved : resolve metric tt l unknown = .ok e) : e.ServedBy tt := by
  rcases resolve_eq_ok resolved with ⟨p, known, rfl⟩ | ⟨point, -, rfl⟩
  · exact servedBy_endpointAt metric known
  · exact servedBy_of_walkable metric tt point l

end Timetable

namespace Place

/-- Stations of one timetable are known by their numbers. -/
theorem eq_of_is {tt : Timetable} (sound : tt.Sound) {p q : Place} (known : p ∈ tt.places)
    (knownToo : q ∈ tt.places) (same : p.is q = true) : p = q :=
  sound.places_numbered.eq_of_number known knownToo (of_decide_eq_true same)

end Place

end JourneyPlanner

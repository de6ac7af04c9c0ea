import JourneyPlanner.Proofs.Time.Order
import JourneyPlanner.Proofs.Timetable.Loaded
import JourneyPlanner.Timetable.Journey

set_option autoImplicit false

/-!
Boardings and rides as stretches of the calls of a service. The index of boardings holds every call
that is not the last, and from a boarding there is a ride to every later call, in the order of time.
-/
namespace JourneyPlanner

theorem Call.inOrder_pairwise {calls : List Call} (inOrder : Call.inOrder calls = true) :
    (∀ call ∈ calls, call.arrival ≤ call.departure) ∧
      calls.Pairwise fun a b => a.departure ≤ b.arrival := by
  induction calls with
  | nil => exact ⟨fun call mem => absurd mem List.not_mem_nil, List.Pairwise.nil⟩
  | cons call rest ih =>
    cases rest with
    | nil =>
      rw [Call.inOrder, decide_eq_true_iff] at inOrder
      refine ⟨fun other mem => ?_, List.pairwise_singleton _ _⟩
      rw [List.mem_singleton.mp mem]
      exact inOrder
    | cons next rest =>
      rw [Call.inOrder, Bool.and_eq_true, Bool.and_eq_true, decide_eq_true_iff,
        decide_eq_true_iff] at inOrder
      obtain ⟨⟨here, step⟩, later⟩ := inOrder
      obtain ⟨each, pairwise⟩ := ih later
      refine ⟨fun other mem => ?_, List.pairwise_cons.mpr ⟨fun other mem => ?_, pairwise⟩⟩
      · rcases List.mem_cons.mp mem with rfl | after
        · exact here
        · exact each other after
      · rcases List.mem_cons.mp mem with rfl | after
        · exact step
        · have wait := each next List.mem_cons_self
          have onward := (List.pairwise_cons.mp pairwise).1 other after
          exact Instant.le_trans (Instant.le_trans step wait) onward

namespace Service

theorem mem_boardingsFrom {s : Service} {position : Nat} {calls : List Call} {b : Boarding} :
    b ∈ s.boardingsFrom position calls ↔ ∃ before, calls = before ++ b.call :: b.ahead ∧
      b.ahead ≠ [] ∧ b.service = s ∧ b.position = position + before.length := by
  induction calls generalizing position with
  | nil =>
    rw [boardingsFrom.eq_def]
    simp
  | cons call rest ih =>
    cases rest with
    | nil =>
      rw [boardingsFrom.eq_def]
      constructor
      · intro mem
        cases mem
      · rintro ⟨before, split, some, -⟩
        cases before with
        | nil => exact absurd (List.cons.inj split).2.symm some
        | cons first before => simp at split
    | cons next rest =>
      rw [boardingsFrom, List.mem_cons, ih]
      constructor
      · rintro (rfl | ⟨before, split, some, owner, place⟩)
        · exact ⟨[], rfl, List.cons_ne_nil _ _, rfl, rfl⟩
        · refine ⟨call :: before, by rw [split, List.cons_append], some, owner, ?_⟩
          rw [place, List.length_cons]
          omega
      · rintro ⟨before, split, some, owner, place⟩
        cases before with
        | nil =>
          obtain ⟨here, ahead⟩ := List.cons.inj split
          refine .inl ?_
          cases b
          cases here
          cases ahead
          cases owner
          cases place
          rfl
        | cons first before =>
          obtain ⟨rfl, onward⟩ := List.cons.inj split
          refine .inr ⟨before, onward, some, owner, ?_⟩
          rw [place, List.length_cons]
          omega

theorem mem_boardings {s : Service} {b : Boarding} :
    b ∈ s.boardings ↔ ∃ before, s.calls = before ++ b.call :: b.ahead ∧ b.ahead ≠ [] ∧
      b.service = s ∧ b.position = before.length := by
  rw [boardings, mem_boardingsFrom]
  simp only [Nat.zero_add]

end Service

/-- A stretch of the calls of one service of the timetable. -/
structure Ride.RunsIn (tt : Timetable) (r : Ride) : Prop where
  scheduled : r.service ∈ tt.services
  stretch : ∃ before after, r.service.calls = before ++ r.board :: r.between ++ r.alight :: after

/-- What passengers board are calls of the services. -/
theorem Boarding.mem_ofServices {services : List Service} {b : Boarding} :
    b ∈ ofServices services ↔ b.service ∈ services ∧ b ∈ b.service.boardings := by
  rw [ofServices, List.mem_mergeSort, List.mem_flatMap]
  constructor
  · rintro ⟨s, known, mem⟩
    obtain ⟨-, -, -, owner, -⟩ := Service.mem_boardings.mp mem
    rw [owner]
    exact ⟨known, mem⟩
  · rintro ⟨known, mem⟩
    exact ⟨b.service, known, mem⟩

namespace Timetable

variable {tt : Timetable} {p : Place} {b : Boarding}

theorem mem_boardingsAt :
    b ∈ tt.boardingsAt p ↔
      b.service ∈ tt.services ∧ b ∈ b.service.boardings ∧ b.call.station.is p = true := by
  rw [boardingsAt, tt.boardings_eq, List.mem_filter, Boarding.mem_ofServices, and_assoc]

end Timetable

namespace Boarding

variable {tt : Timetable} {p : Place} {b : Boarding} {ride : Ride}

theorem mem_ridesFrom {passed ahead : List Call} :
    ride ∈ b.ridesFrom passed ahead ↔ ∃ between alight after, ahead = between ++ alight :: after ∧
      ride = ⟨b.service, b.call, passed ++ between, alight⟩ := by
  induction ahead generalizing passed with
  | nil =>
    rw [ridesFrom]
    simp
  | cons call rest ih =>
    rw [ridesFrom, List.mem_cons, ih]
    constructor
    · rintro (rfl | ⟨between, alight, after, rfl, rfl⟩)
      · exact ⟨[], call, rest, rfl, by rw [List.append_nil]⟩
      · exact ⟨call :: between, alight, after, rfl, by simp⟩
    · rintro ⟨between, alight, after, split, rfl⟩
      cases between with
      | nil =>
        obtain ⟨rfl, rfl⟩ := List.cons.inj split
        exact .inl (by rw [List.append_nil])
      | cons first between =>
        obtain ⟨rfl, rfl⟩ := List.cons.inj split
        exact .inr ⟨between, alight, after, rfl, by simp⟩

theorem mem_rides :
    ride ∈ b.rides ↔ ∃ between alight after, b.ahead = between ++ alight :: after ∧
      ride = ⟨b.service, b.call, between, alight⟩ :=
  mem_ridesFrom

theorem map_alight_ridesFrom (b : Boarding) (passed ahead : List Call) :
    (b.ridesFrom passed ahead).map Ride.alight = ahead := by
  induction ahead generalizing passed with
  | nil => rfl
  | cons call rest ih => rw [ridesFrom, List.map_cons, ih]

/-- What is ridden from a boarding of the timetable runs in it. -/
theorem runsIn_of_mem_rides (boarded : b ∈ tt.boardingsAt p) (rode : ride ∈ b.rides) :
    ride.RunsIn tt ∧ ride.service = b.service ∧ ride.board.station.is p = true := by
  obtain ⟨known, mem, here⟩ := Timetable.mem_boardingsAt.mp boarded
  obtain ⟨before, split, -⟩ := Service.mem_boardings.mp mem
  obtain ⟨between, alight, after, ahead, rfl⟩ := mem_rides.mp rode
  refine ⟨⟨known, before, after, ?_⟩, rfl, here⟩
  simp only [split, ahead, List.append_assoc, List.cons_append]

/-- Every ride of the timetable is one from a boarding where it begins. -/
theorem exists_of_runsIn (runs : ride.RunsIn tt) (here : ride.board.station.is p = true) :
    ∃ b ∈ tt.boardingsAt p, b.service = ride.service ∧ b.call = ride.board ∧ ride ∈ b.rides := by
  obtain ⟨before, after, split⟩ := runs.stretch
  refine ⟨⟨ride.service, before.length, ride.board, ride.between ++ ride.alight :: after⟩,
    Timetable.mem_boardingsAt.mpr ⟨runs.scheduled, ?_, here⟩, rfl, rfl, ?_⟩
  · refine Service.mem_boardings.mpr ⟨before, ?_, by simp, rfl, rfl⟩
    simp only [split, List.append_assoc, List.cons_append]
  · exact mem_rides.mpr ⟨ride.between, ride.alight, after, rfl, rfl⟩

/-- The later a ride ends along its service, the later it arrives. -/
theorem rides_ascending (sound : tt.Sound) (boarded : b ∈ tt.boardingsAt p) :
    b.rides.Pairwise fun r s => r.alight.arrival ≤ s.alight.arrival := by
  obtain ⟨known, mem, -⟩ := Timetable.mem_boardingsAt.mp boarded
  obtain ⟨before, split, -⟩ := Service.mem_boardings.mp mem
  obtain ⟨each, pairwise⟩ := Call.inOrder_pairwise (sound.services_run _ known).inOrder
  have ahead : b.ahead.Pairwise fun a c => a.arrival ≤ c.arrival := by
    have tail := (List.pairwise_cons.mp (List.pairwise_append.mp (split ▸ pairwise)).2.1).2
    refine List.Pairwise.imp_of_mem (fun {a c} inside _ step => ?_) tail
    have wait := each a (split ▸ List.mem_append_right before (List.mem_cons_of_mem b.call inside))
    exact Instant.le_trans wait step
  rw [← map_alight_ridesFrom b [] b.ahead, List.pairwise_map] at ahead
  exact ahead

end Boarding

namespace Ride.RunsIn

variable {tt : Timetable} {r : Ride}

/-- No ride runs back in time. -/
theorem forward (runs : r.RunsIn tt) (sound : tt.Sound) : r.board.departure ≤ r.alight.arrival := by
  obtain ⟨before, after, split⟩ := runs.stretch
  obtain ⟨-, pairwise⟩ := Call.inOrder_pairwise (sound.services_run _ runs.scheduled).inOrder
  rw [split] at pairwise
  exact (List.pairwise_append.mp pairwise).2.2 r.board (by simp) r.alight List.mem_cons_self

end Ride.RunsIn

end JourneyPlanner

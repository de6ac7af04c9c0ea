import JourneyPlanner.Proofs.Line.Order
import JourneyPlanner.Proofs.Provider.Transparent
import JourneyPlanner.Proofs.Timetable.Consistent

set_option autoImplicit false

/-!
The boards of stations. A board tells the next departures from its station, up to a limit, and all
lines that leave the station, whatever the time and the limit.
-/
namespace JourneyPlanner

/-- A call of a service of the timetable at the place, from which the service goes on. -/
structure Boarding.LeavesFrom (tt : Timetable) (p : Place) (b : Boarding) : Prop where
  scheduled : tt.services[b.service.number]? = some b.service
  call : b.service.calls[b.position]? = some b.call
  station : b.call.station = p
  ahead : b.ahead = b.service.calls.drop (b.position + 1)
  onward : b.position + 1 < b.service.calls.length

/-- Departs earlier, or at the same time as an earlier service or from an earlier call. -/
def Boarding.Before (a b : Boarding) : Prop :=
  a.call.departure < b.call.departure ∨ (a.call.departure = b.call.departure ∧
    (a.service.number < b.service.number ∨
      (a.service.number = b.service.number ∧ a.position < b.position)))

/-- What is told of a boarding: the time in the plan, the line, the platform of the call and where
the service ends. -/
structure Departure.Tells (b : Boarding) (d : Departure) : Prop where
  planned : d.planned = some b.call.departure
  predicted : d.predicted = none
  line : d.line = b.service.line
  platform : d.platform = b.call.platform.map Platform.named
  destination : d.destination = b.service.destination
  message : d.message = none

namespace Timetable

/-- All boardings at the place from a time on, one after the other. -/
structure ListsFrom (tt : Timetable) (p : Place) (time : Instant) (boardings : List Boarding) :
    Prop where
  ascending : boardings.Pairwise Boarding.Before
  members : ∀ b, b ∈ boardings ↔ b.LeavesFrom tt p ∧ time ≤ b.call.departure

/-- The lines of all boardings at the place and where they run to, each once, in the order of the
lines. -/
structure ListsLines (tt : Timetable) (p : Place) (lines : List LineDirection) : Prop where
  inOrder : lines.Pairwise fun d e => (compare d.line e.line).isLE = true
  distinct : lines.Pairwise fun d e => (d == e) = false
  boarded : ∀ d ∈ lines, ∃ b : Boarding, b.LeavesFrom tt p ∧
    d = ⟨b.service.line, b.service.destination⟩
  complete : ∀ b : Boarding, b.LeavesFrom tt p →
    ∃ d ∈ lines, (d == ⟨b.service.line, b.service.destination⟩) = true

end Timetable

/-- The board of a place: the departures from a time on up to the limit, and all lines, among them
those of the departures. -/
structure Board.IsExact (tt : Timetable) (p : Place) (time : Instant) (count : UInt32) (b : Board) :
    Prop where
  location : b.location = p.location
  departures : ∃ boardings, tt.ListsFrom p time boardings ∧
    List.Forall₂ Departure.Tells (limited count boardings) b.departures
  lines : ∃ lines, b.lines = some lines ∧ tt.ListsLines p lines ∧
    ∀ d ∈ b.departures, ∃ l ∈ lines, (l == ⟨d.line, d.destination⟩) = true

namespace Boarding

/-- The order in which boardings are sorted is strict between calls that are not the same. -/
theorem before_of_isLE {a b : Boarding} (sorted : (compareTime a b).isLE = true)
    (different : a.index ≠ b.index) : a.Before b := by
  rw [compareTime, Ordering.isLE_then_iff_or, Std.LawfulEqOrd.compare_eq_iff_eq] at sorted
  rcases sorted with sooner | ⟨together, sorted⟩
  · exact .inl (Instant.compare_lt.mp sooner)
  · refine .inr ⟨together, ?_⟩
    rw [Ordering.isLE_then_iff_or, Nat.compare_eq_lt, Nat.compare_eq_eq, Nat.isLE_compare] at sorted
    rcases sorted with service | ⟨service, position⟩
    · exact .inl service
    · refine .inr ⟨service, ?_⟩
      have apart : a.position ≠ b.position := by
        intro same
        apply different
        rw [index, index, service, same]
      omega

end Boarding

namespace Timetable

variable {tt : Timetable} {p : Place}

theorem mem_boardingsAt_iff (sound : tt.Sound) (known : p ∈ tt.places) {b : Boarding} :
    b ∈ tt.boardingsAt p ↔ b.LeavesFrom tt p := by
  rw [mem_boardingsAt]
  constructor
  · rintro ⟨scheduled, boarded, here⟩
    obtain ⟨-, call, ahead, onward⟩ := Service.mem_boardings_iff.mp boarded
    have station := ((sound.services_run _ scheduled).stations _ (List.mem_of_getElem? call)).1
    exact ⟨sound.services_numbered.getElem?_of_mem scheduled, call,
      (is_iff sound station known).mp here, ahead, onward⟩
  · intro leaves
    refine ⟨List.mem_of_getElem? leaves.scheduled, ?_, ?_⟩
    · exact Service.mem_boardings_iff.mpr ⟨rfl, leaves.call, leaves.ahead, leaves.onward⟩
    · rw [leaves.station]
      exact decide_eq_true rfl

theorem listsFrom (sound : tt.Sound) (known : p ∈ tt.places) (time : Instant) :
    tt.ListsFrom p time ((tt.boardingsAt p).filter fun b => time ≤ b.call.departure) := by
  have index := indexesBoardingsAt sound known
  constructor
  · have ascending : (tt.boardingsAt p).Pairwise Boarding.Before :=
      index.ordered.imp₂ (fun _ _ sorted different => Boarding.before_of_isLE sorted different)
        (List.pairwise_map.mp index.distinct)
    exact ascending.sublist List.filter_sublist
  · intro b
    rw [List.mem_filter, mem_boardingsAt_iff sound known, decide_eq_true_iff]

theorem listsLines (sound : tt.Sound) (known : p ∈ tt.places) :
    tt.ListsLines p (TimetableService.directions (tt.boardingsAt p)) := by
  have sorted := List.mergeSort_perm (representatives (fun kept d => kept == d)
    ((tt.boardingsAt p).map TimetableService.directionOf)) fun d e => (compare d.line e.line).isLE
  have := transCmp_part (compare : Line → Line → Ordering) LineDirection.line
  constructor
  · exact mergeSort_inOrder (fun d e : LineDirection => compare d.line e.line) _
  · have symmetric : ∀ {d e : LineDirection}, (d == e) = false → (e == d) = false := by
      intro d e different
      rw [LineDirection.beq_comm, different]
    exact (sorted.pairwise_iff symmetric).mpr (representatives_pairwise _)
  · intro d mem
    have kept := (representatives_sublist _ _).subset (sorted.mem_iff.mp mem)
    obtain ⟨b, boarded, rfl⟩ := List.mem_map.mp kept
    exact ⟨b, (mem_boardingsAt_iff sound known).mp boarded, rfl⟩
  · intro b leaves
    have mem := List.mem_map_of_mem (f := TimetableService.directionOf)
      ((mem_boardingsAt_iff sound known).mpr leaves)
    have found : ∃ k ∈ representatives (fun kept d => kept == d)
        ((tt.boardingsAt p).map TimetableService.directionOf),
          k = TimetableService.directionOf b ∨ (k == TimetableService.directionOf b) = true :=
      exists_representative mem
    obtain ⟨k, kept, rfl | same⟩ := found
    · exact ⟨_, sorted.mem_iff.mpr kept, LineDirection.beq_self _⟩
    · exact ⟨k, sorted.mem_iff.mpr kept, same⟩

end Timetable

theorem Departure.tells_departureOf (b : Boarding) :
    Departure.Tells b (TimetableService.departureOf b) :=
  ⟨rfl, rfl, rfl, rfl, rfl, rfl⟩

theorem Boarding.Before.departure_le {a b : Boarding} (before : a.Before b) :
    a.call.departure ≤ b.call.departure := by
  rcases before with sooner | ⟨together, -⟩
  · exact Instant.le_of_lt sooner
  · rw [together]
    exact Instant.le_refl _

theorem Board.exists_ofDepartures {l : Location} (station : l.kind = .station)
    (departures : List Departure) (lines : List LineDirection) :
    ∃ b, ofDepartures l departures (some lines) = .ok b ∧ b.location = l ∧
      b.departures = byTime departures ∧ b.lines = some lines := by
  rw [ofDepartures, dif_pos station]
  exact ⟨_, rfl, rfl, rfl, rfl⟩

namespace TimetableService

variable {ts : TimetableService} {p : Place}

/-- Departures that come in the order of time stay as they come. -/
theorem byTime_departures {boardings : List Boarding}
    (ascending : boardings.Pairwise Boarding.Before) :
    Board.byTime (boardings.map departureOf) = boardings.map departureOf := by
  apply List.mergeSort_of_pairwise
  rw [List.pairwise_map]
  apply ascending.imp
  intro a b before
  exact decide_eq_true before.departure_le

/-- Every station has a board. -/
theorem exists_board (sound : ts.timetable.Sound) (known : p ∈ ts.timetable.places)
    (station : p.isStation = true) (time : Instant) (count : UInt32) :
    ∃ b, ts.board time count p = .ok b ∧ b.IsExact ts.timetable p time count := by
  have lists := Timetable.listsFrom sound known time
  have lines := Timetable.listsLines sound known
  have shown := byTime_departures (lists.ascending.sublist (limited_sublist count _))
  obtain ⟨b, made, location, departures, directions⟩ := Board.exists_ofDepartures
    (of_decide_eq_true station) _ _
  rw [shown] at departures
  refine ⟨b, made, location, ⟨_, lists, ?_⟩, ⟨_, directions, lines, ?_⟩⟩
  · rw [departures, List.forall₂_map_right_iff, List.forall₂_same]
    intro boarding _
    exact Departure.tells_departureOf boarding
  · intro d mem
    rw [departures] at mem
    obtain ⟨boarding, inside, rfl⟩ := List.mem_map.mp mem
    apply lines.complete
    exact ((lists.members boarding).mp ((limited_sublist count _).subset inside)).1

end TimetableService

end JourneyPlanner

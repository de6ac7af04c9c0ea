import Mathlib
import JourneyPlanner.Proofs.Timetable.Consistent

set_option autoImplicit false

/-!
Timetables to which services were added. Each service of the smaller one has a counterpart in the
larger one that stops where and when it does, so that there is a boarding for each boarding and a
ride for each ride.
-/
namespace JourneyPlanner

/-- Where and when a vehicle stops. -/
structure Stopping where
  station : Nat
  arrival : Instant
  departure : Instant
  deriving DecidableEq

/-- What a search looks at in a service. -/
structure Course where
  product : Option Product
  bikesAllowed : Bool
  wheelchairAccessible : Bool
  stops : List Stopping
  deriving DecidableEq

def Call.stopping (c : Call) : Stopping :=
  ⟨c.station.number, c.arrival, c.departure⟩

def Service.course (s : Service) : Course :=
  ⟨s.line.product, s.bikesAllowed, s.wheelchairAccessible, s.calls.map Call.stopping⟩

/-- The services of the other timetable run in this one, in the same order; others may run between
them. -/
def Timetable.Extends (larger tt : Timetable) : Prop :=
  (tt.services.map Service.course).Sublist (larger.services.map Service.course)

instance (larger tt : Timetable) : Decidable (larger.Extends tt) :=
  inferInstanceAs (Decidable (List.Sublist _ _))

/-- The services of a timetable at other positions of a larger one. -/
structure Timetable.Embeds (larger tt : Timetable) (place : Nat → Nat) : Prop where
  injective : Function.Injective place
  course : ∀ n, (tt.services[n]?).map Service.course =
    (larger.services[place n]?).map Service.course

/-- The same boarding in a larger timetable, whose services have other positions. -/
structure Boarding.Matches (place : Nat → Nat) (b c : Boarding) : Prop where
  number : c.service.number = place b.service.number
  course : c.service.course = b.service.course
  call : b.call.stopping = c.call.stopping
  ahead : b.ahead.map Call.stopping = c.ahead.map Call.stopping

structure Ride.Matches (place : Nat → Nat) (r t : Ride) : Prop where
  number : t.service.number = place r.service.number
  board : r.board.stopping = t.board.stopping
  between : r.between.map Call.stopping = t.between.map Call.stopping
  alight : r.alight.stopping = t.alight.stopping

namespace Timetable

variable {tt larger : Timetable} {place : Nat → Nat}

theorem Extends.exists_embeds (extended : larger.Extends tt) :
    ∃ place, larger.Embeds tt place := by
  obtain ⟨place, same⟩ := List.sublist_iff_exists_orderEmbedding_getElem?_eq.mp extended
  refine ⟨place, place.injective, fun n => ?_⟩
  rw [← List.getElem?_map, ← List.getElem?_map]
  exact same n

theorem Embeds.exists_service (embedded : larger.Embeds tt place)
    (numbered : Numbered Service.number tt.services)
    (numberedToo : Numbered Service.number larger.services) {s : Service}
    (scheduled : s ∈ tt.services) :
    ∃ t ∈ larger.services, t.number = place s.number ∧ t.course = s.course := by
  have course := embedded.course s.number
  rw [numbered.getElem?_of_mem scheduled, Option.map_some] at course
  obtain ⟨t, found, same⟩ := Option.map_eq_some_iff.mp course.symm
  exact ⟨t, List.mem_of_getElem? found, numberedToo _ t found, same⟩

/-- Where passengers board in a timetable they board in a larger one. -/
theorem Embeds.exists_boarding (embedded : larger.Embeds tt place)
    (numbered : Numbered Service.number tt.services)
    (numberedToo : Numbered Service.number larger.services) {b : Boarding} {p q : Place}
    (boarded : b ∈ tt.boardingsAt p) (same : q.number = p.number) :
    ∃ c ∈ larger.boardingsAt q, b.Matches place c := by
  obtain ⟨scheduled, mem, here⟩ := mem_boardingsAt.mp boarded
  obtain ⟨t, known, number, course⟩ :=
    embedded.exists_service numbered numberedToo scheduled
  obtain ⟨-, call, ahead, inside⟩ := Service.mem_boardings_iff.mp mem
  have stops : t.calls.map Call.stopping = b.service.calls.map Call.stopping :=
    congrArg Course.stops course
  have length : t.calls.length = b.service.calls.length := by
    simpa using congrArg List.length stops
  have insideToo : b.position < t.calls.length := by omega
  have stopping : b.call.stopping = t.calls[b.position].stopping := by
    have there := congrArg (·[b.position]?) stops
    simp only [List.getElem?_map, call, List.getElem?_eq_getElem insideToo, Option.map_some,
      Option.some.injEq] at there
    exact there.symm
  have onward : b.position + 1 < t.calls.length := by omega
  refine ⟨⟨t, b.position, t.calls[b.position], t.calls.drop (b.position + 1)⟩,
    mem_boardingsAt.mpr ⟨known, Service.mem_boardings_iff.mpr ?_, ?_⟩, number, course, stopping, ?_⟩
  · exact ⟨rfl, List.getElem?_eq_getElem insideToo, rfl, onward⟩
  · have station : b.call.station.number = t.calls[b.position].station.number :=
      congrArg Stopping.station stopping
    have there : b.call.station.number = p.number := of_decide_eq_true here
    refine decide_eq_true ?_
    rw [same, ← there, ← station]
  · rw [ahead, List.map_drop, List.map_drop, stops]

end Timetable

namespace Boarding

variable {place : Nat → Nat} {b c : Boarding}

/-- By induction on the calls ahead, with those passed so far general. -/
theorem Matches.ridesFrom (matched : b.Matches place c)
    {passed passedToo ahead aheadToo : List Call}
    (before : passed.map Call.stopping = passedToo.map Call.stopping)
    (same : ahead.map Call.stopping = aheadToo.map Call.stopping) :
    List.Forall₂ (Ride.Matches place) (b.ridesFrom passed ahead)
      (c.ridesFrom passedToo aheadToo) := by
  induction ahead generalizing passed passedToo aheadToo with
  | nil =>
    rw [List.map_nil, eq_comm, List.map_eq_nil_iff] at same
    subst same
    exact List.Forall₂.nil
  | cons call rest ih =>
    obtain ⟨other, others, rfl, here, following⟩ := List.map_eq_cons_iff.mp same.symm
    refine List.Forall₂.cons ⟨matched.number, matched.call, before, here.symm⟩
      (ih ?_ following.symm)
    rw [List.map_append, List.map_append, before, List.map_singleton, List.map_singleton, here]

theorem Matches.rides (matched : b.Matches place c) :
    List.Forall₂ (Ride.Matches place) b.rides c.rides :=
  matched.ridesFrom rfl matched.ahead

end Boarding

namespace Ride

variable {place : Nat → Nat} {r t : Ride}

theorem passes_eq (r : Ride) (stations : List Place) :
    r.passes stations = (r.calls.map Call.stopping).any fun stop =>
      (stations.map Place.number).any fun number => stop.station = number := by
  rw [passes, List.any_map]
  refine congrArg r.calls.any (funext fun call => ?_)
  rw [Function.comp_apply, List.any_map]
  rfl

/-- Rides that match pass the same stations. -/
theorem Matches.passes (matched : r.Matches place t) {stations others : List Place}
    (same : others.map Place.number = stations.map Place.number) :
    t.passes others = r.passes stations := by
  have calls : t.calls.map Call.stopping = r.calls.map Call.stopping := by
    simp only [Ride.calls, List.map_append, List.map_cons, List.map_nil, matched.board,
      matched.between, matched.alight]
  rw [passes_eq, passes_eq, calls, same]

end Ride

end JourneyPlanner

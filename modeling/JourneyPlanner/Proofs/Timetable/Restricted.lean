import Mathlib
import JourneyPlanner.Proofs.Timetable.Consistent

set_option autoImplicit false

/-!
A timetable with only some of its services. They have other numbers there, but in the same order, so
passengers board them in the order in which they did before.
-/
namespace JourneyPlanner

namespace Service

/-- The services in their order, with their positions for numbers. -/
def renumbered (services : List Service) : List Service :=
  services.zipIdx.map fun entry => { entry.1 with number := entry.2 }

/-- The service with its position among the given ones for a number. -/
def placedIn (services : List Service) (s : Service) : Service :=
  { s with number := (services.map Service.number).idxOf s.number }

variable {services : List Service} {s t : Service}

theorem number_placedIn (ascending : services.Pairwise fun s t => s.number < t.number) {n : Nat}
    (inside : n < services.length) : (services[n].placedIn services).number = n := by
  have distinct : (services.map Service.number).Nodup :=
    List.pairwise_map.mpr (ascending.imp Nat.ne_of_lt)
  have place : n < (services.map Service.number).length := by rwa [List.length_map]
  have found := distinct.idxOf_getElem n place
  rw [List.getElem_map] at found
  exact found

theorem renumbered_eq_map (ascending : services.Pairwise fun s t => s.number < t.number) :
    renumbered services = services.map (placedIn services) := by
  refine List.ext_getElem (by simp [renumbered]) fun n inside insideToo => ?_
  rw [List.length_map] at insideToo
  have number := number_placedIn ascending insideToo
  simp only [placedIn] at number
  simp only [renumbered, List.getElem_map, List.getElem_zipIdx, placedIn, number, Nat.zero_add]

/-- Services keep their order when they are numbered anew. -/
theorem compare_placedIn (ascending : services.Pairwise fun s t => s.number < t.number)
    (mem : s ∈ services) (memToo : t ∈ services) :
    compare (s.placedIn services).number (t.placedIn services).number =
      compare s.number t.number := by
  obtain ⟨i, inside, rfl⟩ := List.mem_iff_getElem.mp mem
  obtain ⟨j, insideToo, rfl⟩ := List.mem_iff_getElem.mp memToo
  rw [number_placedIn ascending inside, number_placedIn ascending insideToo]
  have order := List.pairwise_iff_getElem.mp ascending
  rcases Nat.lt_trichotomy i j with before | same | after
  · rw [Nat.compare_eq_lt.mpr before, Nat.compare_eq_lt.mpr (order i j inside insideToo before)]
  · subst same
    rw [Nat.compare_eq_eq.mpr rfl, Nat.compare_eq_eq.mpr rfl]
  · rw [Nat.compare_eq_gt.mpr after, Nat.compare_eq_gt.mpr (order j i insideToo inside after)]

theorem number_placedIn_inj (ascending : services.Pairwise fun s t => s.number < t.number)
    (mem : s ∈ services) (memToo : t ∈ services) :
    (s.placedIn services).number = (t.placedIn services).number ↔ s.number = t.number := by
  rw [← Nat.compare_eq_eq, compare_placedIn ascending mem memToo, Nat.compare_eq_eq]

end Service

namespace Boarding

/-- The same boarding of the service as it is numbered among the given ones. -/
def placedIn (services : List Service) (b : Boarding) : Boarding :=
  { b with service := b.service.placedIn services }

variable {services : List Service} {a b : Boarding}

theorem compareTime_placedIn (ascending : services.Pairwise fun s t => s.number < t.number)
    (mem : a.service ∈ services) (memToo : b.service ∈ services) :
    compareTime (a.placedIn services) (b.placedIn services) = compareTime a b := by
  have numbers := Service.compare_placedIn ascending mem memToo
  simp only [compareTime, placedIn, numbers]

/-- By induction on the calls. -/
theorem boardingsFrom_placedIn (s : Service) (position : Nat) (calls : List Call) :
    (s.placedIn services).boardingsFrom position calls =
      (s.boardingsFrom position calls).map (placedIn services) := by
  induction calls generalizing position with
  | nil => rfl
  | cons call rest ih =>
    cases rest with
    | nil => rfl
    | cons next rest =>
      rw [Service.boardingsFrom, Service.boardingsFrom, ih, List.map_cons]
      rfl

/-- The order of boardings does not depend on the numbers of services that keep their order. -/
theorem ofServices_placedIn (ascending : services.Pairwise fun s t => s.number < t.number) :
    ofServices (services.map (Service.placedIn services)) =
      (ofServices services).map (placedIn services) := by
  have each : (services.map (Service.placedIn services)).flatMap Service.boardings =
      (services.flatMap Service.boardings).map (placedIn services) := by
    rw [List.flatMap_map, List.map_flatMap]
    refine List.flatMap_congr fun s _ => ?_
    exact boardingsFrom_placedIn s 0 s.calls
  have owned : ∀ b ∈ services.flatMap Service.boardings, b.service ∈ services := by
    intro b mem
    rw [← List.mem_mergeSort, ← ofServices] at mem
    exact (mem_ofServices.mp mem).1
  rw [ofServices, ofServices, each, List.map_mergeSort]
  intro a mem b memToo
  rw [compareTime_placedIn ascending (owned a mem) (owned b memToo)]

/-- Boardings that compare as equal are one, as each call of each service is boarded once. -/
theorem eq_of_compareTime (numbered : Numbered Service.number services)
    (mem : a ∈ ofServices services) (memToo : b ∈ ofServices services)
    (same : compareTime a b = .eq) : a = b := by
  rw [compareTime, Ordering.then_eq_eq, Ordering.then_eq_eq] at same
  obtain ⟨-, number, position⟩ := same
  refine List.inj_on_of_nodup_map (nodup_ofServices numbered) mem memToo ?_
  rw [index, index, Nat.compare_eq_eq.mp number, Nat.compare_eq_eq.mp position]

/-- What is boarded of the services kept, by induction on the services. -/
theorem flatMap_boardings_filter (services : List Service) (keep : Service → Bool) :
    (services.filter keep).flatMap Service.boardings =
      (services.flatMap Service.boardings).filter fun b => keep b.service := by
  induction services with
  | nil => rfl
  | cons s rest ih =>
    have owner : ∀ b ∈ s.boardings, b.service = s := fun b mem =>
      (Service.mem_boardings_iff.mp mem).1
    rw [List.flatMap_cons, List.filter_append, ← ih]
    by_cases kept : keep s = true
    · have all : (s.boardings.filter fun b => keep b.service) = s.boardings :=
        List.filter_eq_self.mpr fun b mem => by rw [owner b mem, kept]
      rw [List.filter_cons_of_pos kept, List.flatMap_cons, all]
    · have none : (s.boardings.filter fun b => keep b.service) = [] :=
        List.filter_eq_nil_iff.mpr fun b mem => by rwa [owner b mem]
      rw [List.filter_cons_of_neg kept, none, List.nil_append]

/-- Leaving out services leaves the order of the other boardings as it is: there is only one order
in which they are sorted. -/
theorem ofServices_filter (numbered : Numbered Service.number services) (keep : Service → Bool) :
    ofServices (services.filter keep) =
      (ofServices services).filter fun b => keep b.service := by
  have inside : ∀ b ∈ ofServices (services.filter keep), b ∈ ofServices services := by
    intro b mem
    obtain ⟨known, boarded⟩ := mem_ofServices.mp mem
    exact mem_ofServices.mpr ⟨List.mem_of_mem_filter known, boarded⟩
  have sorted := mergeSort_inOrder compareTime ((services.filter keep).flatMap Service.boardings)
  have sortedToo := (mergeSort_inOrder compareTime (services.flatMap Service.boardings)).sublist
    (List.filter_sublist (p := fun b => keep b.service))
  refine List.Perm.eq_of_pairwise (fun a b mem memToo forth back => ?_) sorted sortedToo ?_
  · exact eq_of_compareTime numbered (inside a mem) (List.mem_of_mem_filter memToo)
      (Std.OrientedCmp.isLE_antisymm forth back)
  · have all := (List.mergeSort_perm (services.flatMap Service.boardings)
      fun a b => (compareTime a b).isLE).filter fun b => keep b.service
    rw [← flatMap_boardings_filter] at all
    exact (List.mergeSort_perm _ _).trans all.symm

end Boarding

namespace Timetable

/-- The timetable with only those of its services that are kept. -/
def restrict (tt : Timetable) (keep : Service → Bool) : Timetable :=
  { tt with
    services := Service.renumbered (tt.services.filter keep)
    boardings := Boarding.ofServices (Service.renumbered (tt.services.filter keep))
    boardings_eq := rfl }

variable {tt : Timetable} {keep : Service → Bool}

theorem ascending_filter (numbered : Numbered Service.number tt.services) :
    (tt.services.filter keep).Pairwise fun s t => s.number < t.number :=
  numbered.ascending.sublist List.filter_sublist

/-- The departures left are those of the services kept, in the same order. -/
theorem boardings_restrict (numbered : Numbered Service.number tt.services) :
    (tt.restrict keep).boardings =
      (tt.boardings.filter fun b => keep b.service).map
        (Boarding.placedIn (tt.services.filter keep)) := by
  have ascending : (tt.services.filter keep).Pairwise fun s t => s.number < t.number :=
    ascending_filter numbered
  have renumbered : (tt.restrict keep).boardings =
      Boarding.ofServices (Service.renumbered (tt.services.filter keep)) := rfl
  rw [renumbered, Service.renumbered_eq_map ascending, Boarding.ofServices_placedIn ascending,
    Boarding.ofServices_filter numbered, tt.boardings_eq]

theorem boardingsAt_restrict (numbered : Numbered Service.number tt.services) (p : Place) :
    (tt.restrict keep).boardingsAt p =
      ((tt.boardingsAt p).filter fun b => keep b.service).map
        (Boarding.placedIn (tt.services.filter keep)) := by
  rw [boardingsAt, boardings_restrict numbered, List.filter_map, boardingsAt, List.filter_filter,
    List.filter_filter]
  refine congrArg _ (List.filter_congr fun b _ => ?_)
  exact Bool.and_comm _ _

end Timetable

end JourneyPlanner

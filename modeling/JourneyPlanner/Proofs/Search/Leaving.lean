import Mathlib
import JourneyPlanner.Proofs.Search.Completeness
import JourneyPlanner.Proofs.Search.Soundness

set_option autoImplicit false

/-!
Where the search leaves a service: at the first call after boarding from which the destination is in
reach. What is kept is at least as good as every journey cut short there. It need not be as good as
one that rides on to a call nearer to the destination.
-/
namespace JourneyPlanner

/-- The calls after boarding, with that of alighting. -/
def Ride.ahead (r : Ride) : List Call :=
  r.between ++ [r.alight]

namespace Search

variable {s : Search} {tt : Timetable} {b : Boarding} {ride taken : Ride} {access : Access}
  {next : Ride × Access} {it short : Itinerary} {its : List Itinerary}

/-- No call of the ride after boarding is in reach of the destination. -/
def Misses (s : Search) (r : Ride) : Prop :=
  ∀ call ∈ r.ahead, s.destination.access? call.station = none

/-- The beginning of a ride, up to the first call after boarding in reach of the destination. -/
structure LeavesAt (s : Search) (r taken : Ride) (access : Access) : Prop where
  service : taken.service = r.service
  board : taken.board = r.board
  stretch : ∃ after, r.ahead = taken.ahead ++ after
  missed : ∀ call ∈ taken.between, s.destination.access? call.station = none
  reached : s.destination.access? taken.alight.station = some access

/-- The same journey, but left where the destination is first in reach: on the first ride, or else
on the second. -/
inductive CutShort (s : Search) (it : Itinerary) : Itinerary → Prop where
  | first {taken : Ride} {access : Access} {short : Itinerary}
      (leaves : s.LeavesAt it.first taken access)
      (made : s.itinerary? it.start taken none access = some short) : CutShort s it short
  | second {second taken : Ride} {access : Access} {short : Itinerary}
      (change : it.second = some second) (missed : s.Misses it.first)
      (leaves : s.LeavesAt second taken access)
      (made : s.itinerary? it.start it.first (some taken) access = some short) : CutShort s it short

section Exploring

/-- By induction on the calls ahead: of their rides the first in reach is taken. -/
theorem findSome?_ridesFrom {passed ahead : List Call}
    (found : (b.ridesFrom passed ahead).findSome? (fun ride =>
      (s.destination.access? ride.alight.station).map fun a => (ride, a)) = some (taken, access)) :
    ∃ before after, ahead = before ++ taken.alight :: after ∧ taken.service = b.service ∧
      taken.board = b.call ∧ taken.between = passed ++ before ∧
      (∀ call ∈ before, s.destination.access? call.station = none) ∧
      s.destination.access? taken.alight.station = some access := by
  induction ahead generalizing passed with
  | nil => cases found
  | cons call rest ih =>
    rw [Boarding.ridesFrom, List.findSome?_cons] at found
    cases reach : s.destination.access? call.station with
    | some nearest =>
      simp only [reach, Option.map_some, Option.some.injEq, Prod.mk.injEq] at found
      obtain ⟨rfl, rfl⟩ := found
      refine ⟨[], rest, rfl, rfl, rfl, ?_, fun call mem => absurd mem List.not_mem_nil, reach⟩
      rw [List.append_nil]
    | none =>
      simp only [reach, Option.map_none] at found
      obtain ⟨before, after, split, service, board, between, missed, reached⟩ := ih found
      refine ⟨call :: before, after, ?_, service, board, ?_, ?_, reached⟩
      · rw [split, List.cons_append]
      · rw [between, List.append_assoc, List.singleton_append]
      · intro other mem
        rcases List.mem_cons.mp mem with rfl | later
        · exact reach
        · exact missed other later

theorem ahead_of_mem_rides (rode : ride ∈ b.rides) :
    ride.service = b.service ∧ ride.board = b.call ∧ ∃ after, b.ahead = ride.ahead ++ after := by
  obtain ⟨between, alight, after, ahead, rfl⟩ := Boarding.mem_rides.mp rode
  refine ⟨rfl, rfl, after, ?_⟩
  rw [ahead, Ride.ahead, List.append_assoc, List.singleton_append]

/-- A ride that comes within reach of the destination is left at its first call there. -/
theorem exists_leavesAt (rode : ride ∈ b.rides) (reach : ¬ s.Misses ride) :
    ∃ taken access, s.directRide? b = some (taken, access) ∧ s.LeavesAt ride taken access := by
  obtain ⟨service, board, after, ahead⟩ := ahead_of_mem_rides rode
  cases direct : s.directRide? b with
  | none =>
    refine absurd (fun call mem => ?_) reach
    have inside : call ∈ b.rides.map Ride.alight := by
      rw [Boarding.rides, Boarding.map_alight_ridesFrom, ahead]
      exact List.mem_append_left after mem
    obtain ⟨other, otherMem, rfl⟩ := List.mem_map.mp inside
    exact Option.map_eq_none_iff.mp (List.findSome?_eq_none_iff.mp direct other otherMem)
  | some next =>
    obtain ⟨taken, access⟩ := next
    obtain ⟨before, rest, split, owner, call, between, missed, reached⟩ :=
      findSome?_ridesFrom direct
    rw [List.nil_append] at between
    refine ⟨taken, access, rfl, ?_, ?_, ?_, between ▸ missed, reached⟩
    · rw [owner, service]
    · rw [call, board]
    · -- The ride does not end before the first call in reach.
      rw [ahead] at split
      rcases List.append_eq_append_iff.mp split with ⟨more, early, -⟩ | ⟨more, whole, tail⟩
      · refine absurd (fun call mem => missed call ?_) reach
        rw [early]
        exact List.mem_append_left more mem
      · cases more with
        | nil =>
          rw [List.append_nil] at whole
          exact absurd (fun call mem => missed call (whole ▸ mem)) reach
        | cons first more =>
          rw [List.cons_append] at tail
          obtain ⟨rfl, -⟩ := List.cons.inj tail
          refine ⟨more, ?_⟩
          rw [whole, Ride.ahead, between, List.append_assoc, List.singleton_append]

/-- By induction on the calls in between, all of which are out of reach. -/
theorem mem_takeWhile_ridesFrom {passed between after : List Call} {alight : Call}
    (missed : ∀ call ∈ between ++ [alight], s.destination.access? call.station = none) :
    (⟨b.service, b.call, passed ++ between, alight⟩ : Ride) ∈
      (b.ridesFrom passed (between ++ alight :: after)).takeWhile fun ride =>
        (s.destination.access? ride.alight.station).isNone := by
  induction between generalizing passed with
  | nil =>
    have here := missed alight List.mem_cons_self
    rw [List.nil_append, List.append_nil, Boarding.ridesFrom,
      List.takeWhile_cons_of_pos (by rw [here]; rfl)]
    exact List.mem_cons_self
  | cons call between ih =>
    have here := missed call List.mem_cons_self
    have onward := @ih (passed ++ [call]) fun other mem =>
      missed other (List.mem_cons_of_mem call mem)
    rw [List.append_assoc, List.singleton_append] at onward
    rw [List.cons_append, Boarding.ridesFrom, List.takeWhile_cons_of_pos (by rw [here]; rfl)]
    exact List.mem_cons_of_mem _ onward

/-- Changes are looked at where a ride ends that has missed the destination. -/
theorem mem_ridesBefore (rode : ride ∈ b.rides) (missed : s.Misses ride) :
    ride ∈ s.ridesBefore b := by
  obtain ⟨between, alight, after, ahead, rfl⟩ := Boarding.mem_rides.mp rode
  rw [ridesBefore, Boarding.rides, ahead]
  exact mem_takeWhile_ridesFrom missed

/-- Every feasible journey is explored as far as it goes before the destination is in reach. -/
theorem exists_cutShort (sound : tt.Sound) (found : s.itineraries? tt = some its)
    (feasible : s.Feasible tt it) :
    ∃ short, s.CutShort it short ∧ (s.passesVia short = true → short ∈ its) := by
  obtain ⟨b, boarded, owner, -, rode⟩ := Boarding.exists_of_runsIn feasible.runs feasible.boards
  have usable : s.usable b.service = true := by
    rw [owner]
    exact feasible.usable
  have ends : ∀ r : Ride, r = it.lastRide → ¬ s.Misses r := by
    rintro r rfl missed
    have here := Endpoint.access?_isSome feasible.finish_mem feasible.alights
    rw [missed it.lastRide.alight (List.mem_append_right _ List.mem_cons_self)] at here
    cases here
  by_cases missed : s.Misses it.first
  · cases change : it.second with
    | none =>
      exact absurd missed (ends it.first (Itinerary.lastRide_of_none change).symm)
    | some second =>
      have last := (Itinerary.lastRide_of_some change).symm
      obtain ⟨ready, arrived, onward, connected, rodeOn⟩ :=
        exists_connection sound feasible change
      obtain ⟨taken, access, direct, leaves⟩ := exists_leavesAt rodeOn (ends second last)
      obtain ⟨short, made, inside⟩ := exists_changing found feasible.start_mem boarded usable
        (mem_ridesBefore rode missed) arrived connected direct
      exact ⟨short, .second change missed leaves made, inside⟩
  · obtain ⟨taken, access, direct, leaves⟩ := exists_leavesAt rode missed
    obtain ⟨short, made, inside⟩ := exists_direct found feasible.start_mem boarded usable direct
    exact ⟨short, .first leaves made, inside⟩

end Exploring

section Determined

variable {r other : Ride} {otherAccess : Access} {otherShort : Itinerary}

theorem LeavesAt.not_misses (leaves : s.LeavesAt r taken access) : ¬ s.Misses r := by
  intro missed
  obtain ⟨after, split⟩ := leaves.stretch
  have inside : taken.alight ∈ r.ahead := by
    rw [split]
    exact List.mem_append_left after (List.mem_append_right _ List.mem_cons_self)
  have reached := leaves.reached
  rw [missed taken.alight inside] at reached
  cases reached

/-- The calls before leaving are the longest beginning of a ride that is out of reach. -/
theorem LeavesAt.between_eq (leaves : s.LeavesAt r taken access) :
    r.ahead.takeWhile (fun call => (s.destination.access? call.station).isNone) =
      taken.between := by
  obtain ⟨after, split⟩ := leaves.stretch
  have out : ∀ call ∈ taken.between, (s.destination.access? call.station).isNone = true :=
    fun call mem => Option.isNone_iff_eq_none.mpr (leaves.missed call mem)
  rw [split, Ride.ahead, List.append_assoc, List.singleton_append,
    List.takeWhile_append_of_pos out,
    List.takeWhile_cons_of_neg (by rw [leaves.reached]; exact Bool.false_ne_true), List.append_nil]

theorem LeavesAt.unique (leaves : s.LeavesAt r taken access)
    (leavesToo : s.LeavesAt r other otherAccess) : taken = other ∧ access = otherAccess := by
  have between : taken.between = other.between :=
    leaves.between_eq.symm.trans leavesToo.between_eq
  obtain ⟨after, split⟩ := leaves.stretch
  obtain ⟨rest, splitToo⟩ := leavesToo.stretch
  have alight : taken.alight = other.alight := by
    rw [split, Ride.ahead, Ride.ahead, between, List.append_assoc, List.append_assoc,
      List.append_cancel_left_eq] at splitToo
    exact (List.cons.inj splitToo).1
  have same : taken = other := by
    cases taken
    cases other
    cases leaves.service.trans leavesToo.service.symm
    cases leaves.board.trans leavesToo.board.symm
    cases between
    cases alight
    rfl
  refine ⟨same, ?_⟩
  have reached := leaves.reached
  rw [same, leavesToo.reached, Option.some.injEq] at reached
  exact reached.symm

/-- A journey is cut short in one way only. -/
theorem CutShort.unique (cut : s.CutShort it short) (cutToo : s.CutShort it otherShort) :
    short = otherShort := by
  cases cut with
  | first leaves made =>
    cases cutToo with
    | first leavesToo madeToo =>
      obtain ⟨rfl, rfl⟩ := leaves.unique leavesToo
      exact Option.some.inj (made.symm.trans madeToo)
    | second change missed => exact absurd missed leaves.not_misses
  | second change missed leaves made =>
    cases cutToo with
    | first leavesToo => exact absurd missed leavesToo.not_misses
    | second changeToo missedToo leavesToo madeToo =>
      cases change.symm.trans changeToo
      obtain ⟨rfl, rfl⟩ := leaves.unique leavesToo
      exact Option.some.inj (made.symm.trans madeToo)

/-- A journey that has the destination in reach only at its end stays as it is. -/
theorem cutShort_self (feasible : s.Feasible tt it)
    (reached : s.destination.access? it.lastRide.alight.station = some it.finish)
    (missed : ∀ call ∈ it.lastRide.between, s.destination.access? call.station = none)
    (before : ∀ second, it.second = some second → s.Misses it.first) : s.CutShort it it := by
  have made := feasible.made
  cases change : it.second with
  | none =>
    rw [Itinerary.lastRide_of_none change] at reached missed
    rw [change] at made
    exact .first ⟨rfl, rfl, ⟨[], (List.append_nil _).symm⟩, missed, reached⟩ made
  | some second =>
    rw [Itinerary.lastRide_of_some change] at reached missed
    rw [change] at made
    exact .second change (before second change)
      ⟨rfl, rfl, ⟨[], (List.append_nil _).symm⟩, missed, reached⟩ made

end Determined

theorem CutShort.departure (cut : s.CutShort it short) (feasible : s.Feasible tt it) :
    short.departure = it.departure := by
  have departs := feasible.departs
  cases cut with
  | first leaves made =>
    obtain ⟨departure, arrival, departsToo, -, rfl⟩ := itinerary?_eq_some made
    rw [leaves.board, departs] at departsToo
    exact (Option.some.inj departsToo).symm
  | second change missed leaves made =>
    obtain ⟨departure, arrival, departsToo, -, rfl⟩ := itinerary?_eq_some made
    rw [departs] at departsToo
    exact (Option.some.inj departsToo).symm

theorem CutShort.changes_le (cut : s.CutShort it short) : short.changes ≤ it.changes := by
  cases cut with
  | first leaves made =>
    obtain ⟨departure, arrival, -, -, rfl⟩ := itinerary?_eq_some made
    exact Nat.zero_le _
  | second change missed leaves made =>
    obtain ⟨departure, arrival, -, -, rfl⟩ := itinerary?_eq_some made
    rw [Itinerary.changes, Itinerary.changes, change]
    exact Nat.le_refl 1

/-- A journey cut short is as good as the whole one unless the walk from there takes longer than to
ride on. -/
theorem CutShort.atLeastAsGood (cut : s.CutShort it short) (feasible : s.Feasible tt it)
    (sooner : short.arrival ≤ it.arrival) : short.AtLeastAsGood it := by
  refine ⟨?_, sooner, cut.changes_le⟩
  rw [cut.departure feasible]
  exact Instant.le_refl _

/-- For every feasible journey an itinerary is kept that is as good as the journey cut short where
the destination is first in reach, and as good as the whole journey unless riding on is faster. -/
theorem exists_best_of_cutShort {file : TimetableFile}
    (loaded : (Timetable.ofFile file).value = .ok tt) (noVia : s.via = none)
    (found : s.itineraries? tt = some its) (feasible : s.Feasible tt it) :
    ∃ short, s.CutShort it short ∧ ∃ k ∈ Itinerary.best its, k.AtLeastAsGood short ∧
      (short.arrival ≤ it.arrival → k.AtLeastAsGood it) := by
  have sound := Timetable.sound_of_ofFile loaded
  obtain ⟨short, cut, inside⟩ := exists_cutShort sound found feasible
  obtain ⟨k, kept, better⟩ := Itinerary.exists_best (inside (passesVia_of_none noVia short))
  refine ⟨short, cut, k, kept, better, fun sooner => ?_⟩
  exact better.trans (cut.atLeastAsGood feasible sooner)

end Search

/-! A bus that stops a quarter of an hour on foot from where one wants to go, and two minutes later
just beside it. -/
namespace RidingOn

def file : TimetableFile :=
  Sample.file (Sample.morning 0) (Sample.morning 600)
    [Sample.station "A" 52000000, Sample.station "X" 52100000, Sample.station "Y" 52100950,
      Sample.poi "P" 52101000]
    [Sample.bus "1" [Sample.call "A" (Sample.morning 0), Sample.call "X" (Sample.morning 10),
      Sample.call "Y" (Sample.morning 12)]]

def query : TripQuery :=
  { LeapSecond.query with time := Sample.morning 0 }

theorem exists_sooner :
    ∃ (tt : Timetable) (s : Search) (its : List Itinerary) (it : Itinerary),
      (Timetable.ofFile file).value = .ok tt ∧ s.Resolved Sample.metric tt ∧ s.via = none ∧
      s.destination.accesses.length = 2 ∧ s.itineraries? tt = some its ∧ s.Feasible tt it ∧
      ∀ k ∈ Itinerary.best its, ¬ k.AtLeastAsGood it := by
  have checked : ((Timetable.ofFile file).value.toOption.any fun tt =>
      (TimetableService.searchOf ⟨tt, 6, Sample.metric⟩ query).toOption.any fun s =>
        s.via.isNone && s.destination.accesses.length == 2 && (s.itineraries? tt).any fun its =>
          (s.directs tt).any fun it =>
            (Itinerary.best its).all fun k => decide (it.arrival < k.arrival)) = true := by
    cbv
  obtain ⟨tt, loaded, checked⟩ := exists_ok_of_any checked
  obtain ⟨s, resolved, checked⟩ := exists_ok_of_any checked
  obtain ⟨checked, shown⟩ := Bool.and_eq_true_iff.mp checked
  obtain ⟨noVia, two⟩ := Bool.and_eq_true_iff.mp checked
  obtain ⟨its, found, shown⟩ := (Option.any_eq_true _ _).mp shown
  obtain ⟨it, direct, later⟩ := List.any_eq_true.mp shown
  refine ⟨tt, s, its, it, loaded, Search.resolved_of_searchOf resolved,
    Option.isNone_iff_eq_none.mp noVia, eq_of_beq two, found, Search.feasible_of_mem_directs direct,
    fun k kept better => ?_⟩
  have after := of_decide_eq_true (List.all_eq_true.mp later k kept)
  exact Instant.not_le.mpr after better.arrival

theorem exists_best_of_cutShort_ridingOn :
    ∃ (tt : Timetable) (s : Search) (its : List Itinerary) (it : Itinerary),
      (Timetable.ofFile file).value = .ok tt ∧ s.via = none ∧ s.itineraries? tt = some its ∧
      s.Feasible tt it ∧ ∃ short, s.CutShort it short ∧ ∃ k ∈ Itinerary.best its,
        k.AtLeastAsGood short ∧ (short.arrival ≤ it.arrival → k.AtLeastAsGood it) := by
  obtain ⟨tt, s, its, it, loaded, -, noVia, -, found, feasible, -⟩ := exists_sooner
  exact ⟨tt, s, its, it, loaded, noVia, found, feasible,
    Search.exists_best_of_cutShort loaded noVia found feasible⟩

/-- With two stations in reach of the destination, riding on to the second may be better than all
that is kept. -/
theorem not_every_ride_on_matched :
    ¬ ∀ (file : TimetableFile) (tt : Timetable) (metric : Metric) (s : Search)
      (its : List Itinerary) (it : Itinerary), (Timetable.ofFile file).value = .ok tt →
      s.Resolved metric tt → s.via = none → 2 ≤ s.destination.accesses.length →
      s.itineraries? tt = some its → s.Feasible tt it →
      ∃ k ∈ Itinerary.best its, k.AtLeastAsGood it := by
  intro claimed
  obtain ⟨tt, s, its, it, loaded, resolved, noVia, two, found, feasible, unmatched⟩ := exists_sooner
  obtain ⟨k, kept, better⟩ :=
    claimed file tt Sample.metric s its it loaded resolved noVia (Nat.le_of_eq two.symm) found
      feasible
  exact unmatched k kept better

end RidingOn

end JourneyPlanner

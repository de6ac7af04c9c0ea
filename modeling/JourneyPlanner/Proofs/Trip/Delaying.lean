import JourneyPlanner.Proofs.Trip.Stored
import JourneyPlanner.Trip.Repair

set_option autoImplicit false

/-!
Trips repaired by delay. Only ways of one's own are moved, only as far as they must be, and each
begins no earlier than the leg ahead of it has arrived. Outside leap seconds no other delays of such
ways make any leg earlier, so a trip that can be travelled after some delay can be travelled after
this one. Out of a leap second a way may be moved so that it ends before it did.
-/
namespace JourneyPlanner

namespace IndividualLeg

/-- The same way, begun no earlier: as it was, or moved with its duration. -/
structure DelayOf (leg later : IndividualLeg) : Prop where
  kind : later.kind = leg.kind
  departure : later.departure = leg.departure
  arrival : later.arrival = leg.arrival
  path : later.path = leg.path
  meters : later.meters = leg.meters
  notEarlier : leg.departureTime ≤ later.departureTime
  moved : later = leg ∨ leg.movedTo? later.departureTime = some later

structure OutsideLeapSeconds (leg : IndividualLeg) : Prop where
  departure : leg.departureTime.isLeap = false
  arrival : leg.arrivalTime.isLeap = false

variable {leg later moved : IndividualLeg} {start : Instant}

theorem DelayOf.refl (leg : IndividualLeg) : leg.DelayOf leg :=
  ⟨rfl, rfl, rfl, rfl, rfl, Instant.le_refl _, .inl rfl⟩

theorem movedTo?_eq_some (done : leg.movedTo? start = some moved) :
    ∃ finish, start.shift? leg.duration = some finish ∧
      moved = { leg with departureTime := start, arrivalTime := finish } := by
  obtain ⟨finish, shifted, made⟩ := Option.map_eq_some_iff.mp done
  exact ⟨finish, shifted, made.symm⟩

theorem delayOf_of_movedTo? (done : leg.movedTo? start = some moved)
    (after : leg.departureTime ≤ start) : leg.DelayOf moved := by
  obtain ⟨finish, -, rfl⟩ := movedTo?_eq_some done
  exact ⟨rfl, rfl, rfl, rfl, rfl, after, .inr done⟩

theorem duration_of_outside (outside : leg.OutsideLeapSeconds) :
    leg.duration = leg.arrivalTime.sinceEpoch - leg.departureTime.sinceEpoch :=
  Instant.spanTo_of_not_leap outside.departure outside.arrival

/-- Outside leap seconds a way delayed lasts as long as before. -/
theorem DelayOf.duration (delay : leg.DelayOf later) (outside : leg.OutsideLeapSeconds)
    (plain : later.departureTime.isLeap = false) :
    later.OutsideLeapSeconds ∧ later.duration = leg.duration := by
  rcases delay.moved with rfl | done
  · exact ⟨outside, rfl⟩
  · obtain ⟨finish, shifted, made⟩ := movedTo?_eq_some done
    have arrives : later.arrivalTime = finish := by rw [made]
    rw [← arrives] at shifted
    exact ⟨⟨plain, (Instant.plain_of_shift? plain shifted).1⟩,
      Instant.spanTo_of_plain_shift? plain shifted⟩

/-- A way that may begin later may begin at any time before that. -/
theorem DelayOf.exists_movedTo? (delay : leg.DelayOf later) (outside : leg.OutsideLeapSeconds)
    (outsideToo : later.OutsideLeapSeconds) (plain : start.isLeap = false)
    (late : leg.departureTime < start) (inTime : start ≤ later.departureTime) :
    ∃ moved, leg.movedTo? start = some moved := by
  have itself : leg.departureTime.shift? leg.duration = some leg.arrivalTime :=
    Instant.shift?_spanTo outside.departure outside.arrival
  rcases delay.moved with rfl | done
  · exact absurd inTime (Instant.not_le.mpr late)
  · obtain ⟨finish, shifted, -⟩ := movedTo?_eq_some done
    obtain ⟨earlier, reached⟩ := Instant.exists_shift?_of_between
      outside.departure outsideToo.departure plain (Instant.le_of_lt late) inTime
      (Option.ne_none_iff_exists'.mpr ⟨_, itself⟩) (Option.ne_none_iff_exists'.mpr ⟨_, shifted⟩)
    refine ⟨{ leg with departureTime := start, arrivalTime := earlier }, ?_⟩
    rw [movedTo?, reached]
    rfl

/-- Of two delays of a way the one that begins no later ends no later, and runs forward if the other
one does. -/
theorem DelayOf.arrival_le (delay : leg.DelayOf moved) (delayToo : leg.DelayOf later)
    (outside : leg.OutsideLeapSeconds) (plain : moved.departureTime.isLeap = false)
    (plainToo : later.departureTime.isLeap = false)
    (order : moved.departureTime ≤ later.departureTime) :
    moved.arrivalTime ≤ later.arrivalTime ∧
      (later.departureTime ≤ later.arrivalTime → moved.departureTime ≤ moved.arrivalTime) := by
  obtain ⟨clear, lasting⟩ := delay.duration outside plain
  obtain ⟨clearToo, lastingToo⟩ := delayToo.duration outside plainToo
  rw [duration_of_outside clear] at lasting
  rw [duration_of_outside clearToo] at lastingToo
  rw [Instant.le_iff_sinceEpoch plain plainToo] at order
  rw [Instant.le_iff_sinceEpoch clear.arrival clearToo.arrival,
    Instant.le_iff_sinceEpoch plainToo clearToo.arrival,
    Instant.le_iff_sinceEpoch plain clear.arrival]
  omega

end IndividualLeg

namespace Leg

/-- A ride stays as it is, and a way of one's own may be delayed. -/
def DelayOf : Leg → Leg → Prop
  | .ride leg, .ride later => later = leg
  | .own leg, .own later => leg.DelayOf later
  | _, _ => False

/-- A ride arrives outside leap seconds. A way of one's own departs outside them as well. -/
def OutsideLeapSeconds : Leg → Prop
  | .ride leg => (leg.arrivalTime false).isLeap = false
  | .own leg => leg.OutsideLeapSeconds

/-- Whatever is not a ride departs only when what came before it has arrived. -/
def Awaits (ready : Instant) : Leg → Prop
  | .ride _ => True
  | .own leg => ready ≤ leg.departureTime

/-- Each way of one's own departs when the leg before it, the first of them at `ready`, has
arrived. -/
def InTurnAfter (ready : Instant) : List Leg → Prop
  | [] => True
  | leg :: rest => leg.Awaits ready ∧ InTurnAfter leg.arrivalTime rest

/-- Each way of one's own but the first leg departs when the leg before it has arrived. -/
def InTurn : List Leg → Prop
  | [] => True
  | first :: rest => InTurnAfter first.arrivalTime rest

structure NoLater (sooner later : Leg) : Prop where
  departure : sooner.departureTime ≤ later.departureTime
  arrival : sooner.arrivalTime ≤ later.arrivalTime

/-- A way of one's own lasts as long as the other. -/
def LastsAs : Leg → Leg → Prop
  | .own leg, .own later => later.duration = leg.duration
  | _, _ => True

/-- No later, and travelled wherever the other leg is. -/
structure Improves (sooner later : Leg) : Prop extends NoLater sooner later where
  served : Trip.isServed later = true → Trip.isServed sooner = true
  forward : later.departureTime ≤ later.arrivalTime → sooner.departureTime ≤ sooner.arrivalTime
  /-- Who does not wait for a ride goes with it. -/
  punctual : ∀ ready, ready ≤ later.departureTime → sooner.Awaits ready →
    ready ≤ sooner.departureTime

variable {leg later moved : Leg} {legs others delayed : List Leg} {ready sooner : Instant}

theorem DelayOf.refl (leg : Leg) : leg.DelayOf leg := by
  cases leg with
  | ride leg => exact rfl
  | own leg => exact IndividualLeg.DelayOf.refl leg

theorem DelayOf.departure_le (delay : leg.DelayOf later) :
    leg.departureTime ≤ later.departureTime := by
  cases leg with
  | ride leg =>
    cases later with
    | ride later =>
      cases delay
      exact Instant.le_refl _
    | own later => exact delay.elim
  | own leg =>
    cases later with
    | ride later => exact delay.elim
    | own later => exact IndividualLeg.DelayOf.notEarlier delay

theorem Improves.refl (leg : Leg) : leg.Improves leg where
  departure := Instant.le_refl _
  arrival := Instant.le_refl _
  served := id
  forward := id
  punctual _ order _ := order

theorem Awaits.mono (awaits : leg.Awaits ready) (order : sooner ≤ ready) : leg.Awaits sooner := by
  cases leg with
  | ride leg => trivial
  | own leg => exact Instant.le_trans order awaits

section OneLeg

theorem delayedTo?_of_awaits (awaits : leg.Awaits ready) : leg.delayedTo? ready = some leg := by
  cases leg with
  | ride leg => rfl
  | own leg =>
    have early : ¬ leg.departureTime < ready := Int.not_lt.mpr awaits
    rw [delayedTo?, if_neg early]

/-- What the delay of one leg ends in. -/
theorem delayOf_of_delayedTo? (done : leg.delayedTo? ready = some moved) :
    leg.DelayOf moved ∧ moved.Awaits ready := by
  cases leg with
  | ride leg =>
    cases done
    exact ⟨rfl, trivial⟩
  | own leg =>
    rw [delayedTo?] at done
    split at done
    · rename_i late
      obtain ⟨way, shifted, rfl⟩ := Option.map_eq_some_iff.mp done
      refine ⟨IndividualLeg.delayOf_of_movedTo? shifted (Instant.le_of_lt late), ?_⟩
      obtain ⟨finish, -, rfl⟩ := IndividualLeg.movedTo?_eq_some shifted
      exact Instant.le_refl ready
    · rename_i early
      cases done
      exact ⟨IndividualLeg.DelayOf.refl leg, Int.not_lt.mp early⟩

theorem outside_of_delayedTo? (outside : leg.OutsideLeapSeconds) (plain : ready.isLeap = false)
    (done : leg.delayedTo? ready = some moved) : moved.OutsideLeapSeconds := by
  cases leg with
  | ride leg =>
    cases done
    exact outside
  | own leg =>
    rw [delayedTo?] at done
    split at done
    · rename_i late
      obtain ⟨way, shifted, rfl⟩ := Option.map_eq_some_iff.mp done
      have delay := IndividualLeg.delayOf_of_movedTo? shifted (Instant.le_of_lt late)
      obtain ⟨finish, -, rfl⟩ := IndividualLeg.movedTo?_eq_some shifted
      exact (delay.duration outside plain).1
    · cases done
      exact outside

theorem arrival_plain (outside : leg.OutsideLeapSeconds) : leg.arrivalTime.isLeap = false := by
  cases leg with
  | ride leg => exact outside
  | own leg => exact IndividualLeg.OutsideLeapSeconds.arrival outside

theorem DelayOf.improves (delay : leg.DelayOf moved) (delayToo : leg.DelayOf later)
    (outside : leg.OutsideLeapSeconds) (clear : moved.OutsideLeapSeconds)
    (clearToo : later.OutsideLeapSeconds) (order : moved.departureTime ≤ later.departureTime) :
    moved.Improves later := by
  cases leg with
  | ride leg =>
    cases moved with
    | own moved => exact delay.elim
    | ride moved =>
      cases later with
      | own later => exact delayToo.elim
      | ride later =>
        cases delay
        cases delayToo
        exact .refl _
  | own leg =>
    cases moved with
    | ride moved => exact delay.elim
    | own moved =>
      cases later with
      | ride later => exact delayToo.elim
      | own later =>
        obtain ⟨arrival, forward⟩ := IndividualLeg.DelayOf.arrival_le delay delayToo outside
          clear.departure clearToo.departure order
        exact ⟨⟨order, arrival⟩, fun _ => rfl, forward, fun ready _ awaits => awaits⟩

/-- The delay is possible where some other one is, and leads no farther. -/
theorem exists_delayedTo? (outside : leg.OutsideLeapSeconds) (plain : ready.isLeap = false)
    (clear : later.OutsideLeapSeconds) (delay : leg.DelayOf later) (awaits : later.Awaits ready) :
    ∃ moved, leg.delayedTo? ready = some moved ∧ moved.Improves later := by
  by_cases waits : leg.Awaits ready
  · refine ⟨leg, delayedTo?_of_awaits waits, ?_⟩
    exact (DelayOf.refl leg).improves delay outside outside clear delay.departure_le
  · cases leg with
    | ride leg => exact absurd trivial waits
    | own leg =>
      cases later with
      | ride later => exact delay.elim
      | own later =>
        have late : leg.departureTime < ready := Instant.not_le.mp waits
        obtain ⟨way, shifted⟩ :=
          IndividualLeg.DelayOf.exists_movedTo? delay outside clear plain late awaits
        have done : (own leg).delayedTo? ready = some (own way) := by
          rw [delayedTo?, if_pos late, shifted]
          rfl
        refine ⟨own way, done, ?_⟩
        apply (delayOf_of_delayedTo? done).1.improves delay outside
          (outside_of_delayedTo? outside plain done) clear
        obtain ⟨finish, -, rfl⟩ := IndividualLeg.movedTo?_eq_some shifted
        exact awaits

end OneLeg

/-- A leg delayed outside leap seconds ends no earlier, and a way lasts as long as before. -/
theorem DelayOf.timed (delay : leg.DelayOf later) (outside : leg.OutsideLeapSeconds)
    (clear : later.OutsideLeapSeconds) : leg.NoLater later ∧ leg.LastsAs later := by
  have improves := (DelayOf.refl leg).improves delay outside outside clear delay.departure_le
  refine ⟨improves.toNoLater, ?_⟩
  cases leg with
  | ride leg => trivial
  | own leg =>
    cases later with
    | ride later => trivial
    | own later => exact (IndividualLeg.DelayOf.duration delay outside clear.departure).2

section AllLegs

theorem timed_of_delays (delays : List.Forall₂ DelayOf legs others)
    (outside : ∀ leg ∈ legs, leg.OutsideLeapSeconds)
    (clear : ∀ leg ∈ others, leg.OutsideLeapSeconds) :
    List.Forall₂ (fun leg later => leg.NoLater later ∧ leg.LastsAs later) legs others := by
  induction delays with
  | nil => exact .nil
  | cons delay delays ih =>
    simp only [List.forall_mem_cons] at outside clear
    exact .cons (delay.timed outside.1 clear.1) (ih outside.2 clear.2)

theorem delayedFrom?_cons {rest : List Leg}
    (done : delayedFrom? ready (leg :: rest) = some delayed) :
    ∃ moved others, leg.delayedTo? ready = some moved ∧
      delayedFrom? moved.arrivalTime rest = some others ∧ delayed = moved :: others := by
  rw [delayedFrom?] at done
  obtain ⟨moved, first, done⟩ := Option.bind_eq_some_iff.mp done
  obtain ⟨others, next, done⟩ := Option.bind_eq_some_iff.mp done
  cases done
  exact ⟨moved, others, first, next, rfl⟩

theorem delayedFrom?_of_cons {rest : List Leg} (first : leg.delayedTo? ready = some moved)
    (next : delayedFrom? moved.arrivalTime rest = some others) :
    delayedFrom? ready (leg :: rest) = some (moved :: others) := by
  rw [delayedFrom?, first]
  simp only [bind, Option.bind_some, next]
  rfl

/-- Every leg is delayed at most, and in turn. -/
theorem delayOf_of_delayedFrom? (done : delayedFrom? ready legs = some delayed) :
    List.Forall₂ DelayOf legs delayed ∧ InTurnAfter ready delayed := by
  induction legs generalizing ready delayed with
  | nil =>
    cases done
    exact ⟨.nil, trivial⟩
  | cons leg rest ih =>
    obtain ⟨moved, others, first, next, rfl⟩ := delayedFrom?_cons done
    obtain ⟨delay, awaits⟩ := delayOf_of_delayedTo? first
    obtain ⟨delays, inTurn⟩ := ih next
    exact ⟨.cons delay delays, awaits, inTurn⟩

theorem delayedFrom?_of_inTurn (inTurn : InTurnAfter ready legs) :
    delayedFrom? ready legs = some legs := by
  induction legs generalizing ready with
  | nil => rfl
  | cons leg rest ih =>
    obtain ⟨awaits, onward⟩ := inTurn
    exact delayedFrom?_of_cons (delayedTo?_of_awaits awaits) (ih onward)

theorem inTurn_of_legsTravelable (travelable : Trip.legsTravelable (some ready) legs = true) :
    InTurnAfter ready legs := by
  induction legs generalizing ready with
  | nil => trivial
  | cons leg rest ih =>
    simp only [Trip.legsTravelable, Option.all_some, Bool.and_eq_true, decide_eq_true_eq]
      at travelable
    obtain ⟨⟨⟨-, inTime⟩, -⟩, onward⟩ := travelable
    refine ⟨?_, ih onward⟩
    cases leg with
    | ride leg => trivial
    | own leg => exact inTime

theorem outside_of_delayedFrom? (outside : ∀ leg ∈ legs, leg.OutsideLeapSeconds)
    (plain : ready.isLeap = false) (done : delayedFrom? ready legs = some delayed) :
    ∀ leg ∈ delayed, leg.OutsideLeapSeconds := by
  induction legs generalizing ready delayed with
  | nil =>
    cases done
    simp
  | cons leg rest ih =>
    obtain ⟨moved, others, first, next, rfl⟩ := delayedFrom?_cons done
    simp only [List.forall_mem_cons] at outside ⊢
    have clear := outside_of_delayedTo? outside.1 plain first
    exact ⟨clear, ih outside.2 (arrival_plain clear) next⟩

/-- By induction on another schedule in turn, of which every leg so far ends no earlier. -/
theorem exists_delayedFrom? (delays : List.Forall₂ DelayOf legs others)
    (outside : ∀ leg ∈ legs, leg.OutsideLeapSeconds)
    (clear : ∀ leg ∈ others, leg.OutsideLeapSeconds) (plain : sooner.isLeap = false)
    (order : sooner ≤ ready) (inTurn : InTurnAfter ready others) :
    ∃ delayed, delayedFrom? sooner legs = some delayed ∧ List.Forall₂ Improves delayed others := by
  induction delays generalizing sooner ready with
  | nil => exact ⟨[], rfl, .nil⟩
  | cons delay delays ih =>
    simp only [List.forall_mem_cons] at outside clear
    obtain ⟨awaits, onward⟩ := inTurn
    obtain ⟨moved, first, improves⟩ :=
      exists_delayedTo? outside.1 plain clear.1 delay (awaits.mono order)
    have clearToo := outside_of_delayedTo? outside.1 plain first
    obtain ⟨rest, next, better⟩ :=
      ih outside.2 clear.2 (arrival_plain clearToo) improves.arrival onward
    exact ⟨moved :: rest, delayedFrom?_of_cons first next, .cons improves better⟩

/-- What improves a schedule that can be travelled, and is in turn, can be travelled. -/
theorem legsTravelable_of_improves (improves : List.Forall₂ Improves delayed others)
    (order : sooner ≤ ready) (inTurn : InTurnAfter sooner delayed)
    (travelable : Trip.legsTravelable (some ready) others = true) :
    Trip.legsTravelable (some sooner) delayed = true := by
  induction improves generalizing sooner ready with
  | nil => rfl
  | cons better improves ih =>
    obtain ⟨awaits, onward⟩ := inTurn
    simp only [Trip.legsTravelable, Option.all_some, Bool.and_eq_true, decide_eq_true_eq]
      at travelable ⊢
    obtain ⟨⟨⟨served, inTime⟩, forward⟩, rest⟩ := travelable
    refine ⟨⟨⟨better.served served, ?_⟩, better.forward forward⟩, ih better.arrival onward rest⟩
    exact better.punctual sooner (Instant.le_trans order inTime) awaits

end AllLegs

end Leg

namespace Trip

/-- The legs of the trip with some of the ways delayed, in turn. -/
structure Schedules (t : Trip) (others : List Leg) : Prop where
  delays : List.Forall₂ Leg.DelayOf t.legs others
  inTurn : Leg.InTurn others

/-- Nothing but some ways after the first leg is delayed, and no more needs to be. -/
structure Repairs (t u : Trip) : Prop where
  id : u.id = t.id
  origin : u.origin = t.origin
  destination : u.destination = t.destination
  changes : u.changes = t.changes
  firstLeg : u.firstLeg = t.firstLeg
  schedules : t.Schedules u.legs
  again : u.repaired? = some u

/-- Of all schedules whose legs are admitted the repaired trip is the earliest. -/
structure RepairsBest (admitted : Leg → Prop) (t u : Trip) : Prop extends Repairs t u where
  notEarlier : List.Forall₂ Leg.NoLater t.legs u.legs
  lasting : List.Forall₂ Leg.LastsAs t.legs u.legs
  earliest : ∀ others, t.Schedules others → (∀ leg ∈ others, admitted leg) →
    List.Forall₂ Leg.NoLater u.legs others
  travelable : ∀ others, List.Forall₂ Leg.DelayOf t.legs others → (∀ leg ∈ others, admitted leg) →
    legsTravelable none others = true → u.isTravelable = true

def OutsideLeapSeconds (t : Trip) : Prop :=
  ∀ leg ∈ t.legs, leg.OutsideLeapSeconds

variable {t u : Trip} {others : List Leg}

theorem repaired?_eq_some (done : t.repaired? = some u) :
    ∃ first rest delayed, t.legs = first :: rest ∧
      Leg.delayedFrom? first.arrivalTime rest = some delayed ∧
      u = { t with legs := first :: delayed, nonempty := List.cons_ne_nil _ _ } := by
  unfold repaired? at done
  split at done
  · cases done
  · rename_i first rest legs
    obtain ⟨delayed, next, made⟩ := Option.map_eq_some_iff.mp done
    exact ⟨first, rest, delayed, legs, next, made.symm⟩

theorem repaired?_of_delayedFrom? {first : Leg} {rest delayed : List Leg}
    (legs : t.legs = first :: rest)
    (next : Leg.delayedFrom? first.arrivalTime rest = some delayed) :
    t.repaired? = some { t with legs := first :: delayed, nonempty := List.cons_ne_nil _ _ } := by
  obtain ⟨id, origin, destination, all, nonempty, changes⟩ := t
  cases legs
  rw [repaired?]
  simp only [next]
  rfl

theorem repaired?_of_inTurn (inTurn : Leg.InTurn t.legs) : t.repaired? = some t := by
  obtain ⟨id, origin, destination, legs, nonempty, changes⟩ := t
  cases legs with
  | nil => exact absurd rfl nonempty
  | cons first rest => exact repaired?_of_delayedFrom? rfl (Leg.delayedFrom?_of_inTurn inTurn)

theorem inTurn_of_legsTravelable (travelable : legsTravelable none others = true) :
    Leg.InTurn others := by
  cases others with
  | nil => trivial
  | cons first rest =>
    rw [legsTravelable, Bool.and_eq_true] at travelable
    exact Leg.inTurn_of_legsTravelable travelable.2

theorem repairs_of_repaired? (done : t.repaired? = some u) : t.Repairs u := by
  obtain ⟨first, rest, delayed, legs, next, rfl⟩ := repaired?_eq_some done
  obtain ⟨delays, inTurn⟩ := Leg.delayOf_of_delayedFrom? next
  have head : t.firstLeg = first := by
    simp [firstLeg, legs]
  refine ⟨rfl, rfl, rfl, rfl, head.symm, ⟨?_, inTurn⟩, repaired?_of_inTurn inTurn⟩
  rw [legs]
  exact .cons (.refl first) delays

theorem outside_of_repaired? (outside : t.OutsideLeapSeconds) (done : t.repaired? = some u) :
    u.OutsideLeapSeconds := by
  obtain ⟨first, rest, delayed, legs, next, rfl⟩ := repaired?_eq_some done
  unfold OutsideLeapSeconds at *
  rw [legs] at outside
  simp only [List.forall_mem_cons] at outside ⊢
  exact ⟨outside.1, Leg.outside_of_delayedFrom? outside.2 (Leg.arrival_plain outside.1) next⟩

/-- Where some schedule is possible the repair is, and improves on it. -/
theorem exists_repaired? (outside : t.OutsideLeapSeconds) (schedules : t.Schedules others)
    (clear : ∀ leg ∈ others, leg.OutsideLeapSeconds) :
    ∃ u, t.repaired? = some u ∧ List.Forall₂ Leg.Improves u.legs others := by
  obtain ⟨delays, inTurn⟩ := schedules
  cases legs : t.legs with
  | nil => exact absurd legs t.nonempty
  | cons first rest =>
    unfold OutsideLeapSeconds at outside
    rw [legs] at outside delays
    cases delays with
    | cons delay delays =>
      simp only [List.forall_mem_cons] at outside clear
      have better := (Leg.DelayOf.refl first).improves delay outside.1 outside.1 clear.1
        delay.departure_le
      obtain ⟨delayed, next, improves⟩ := Leg.exists_delayedFrom? delays outside.2 clear.2
        (Leg.arrival_plain outside.1) better.arrival inTurn
      exact ⟨_, repaired?_of_delayedFrom? legs next, .cons better improves⟩

theorem travelable_of_improves {delayed : List Leg}
    (improves : List.Forall₂ Leg.Improves delayed others) (inTurn : Leg.InTurn delayed)
    (travelable : legsTravelable none others = true) : legsTravelable none delayed = true := by
  cases improves with
  | nil => rfl
  | cons better improves =>
    simp only [legsTravelable, Option.all_none, Bool.and_eq_true, decide_eq_true_eq]
      at travelable ⊢
    obtain ⟨⟨⟨served, -⟩, forward⟩, rest⟩ := travelable
    refine ⟨⟨⟨better.served served, trivial⟩, better.forward forward⟩, ?_⟩
    exact Leg.legsTravelable_of_improves improves better.arrival inTurn rest

/-- Outside leap seconds the repair is the best one. -/
theorem repairsBest_of_repaired? (outside : t.OutsideLeapSeconds) (done : t.repaired? = some u) :
    t.RepairsBest Leg.OutsideLeapSeconds u := by
  have repairs := repairs_of_repaired? done
  have better : ∀ others, t.Schedules others → (∀ leg ∈ others, leg.OutsideLeapSeconds) →
      List.Forall₂ Leg.Improves u.legs others := by
    intro others schedules clear
    obtain ⟨v, doneToo, improves⟩ := exists_repaired? outside schedules clear
    rw [done] at doneToo
    cases doneToo
    exact improves
  have clear := outside_of_repaired? outside done
  have timed := Leg.timed_of_delays repairs.schedules.delays outside clear
  refine ⟨repairs, timed.imp fun _ _ => And.left, timed.imp fun _ _ => And.right, ?_, ?_⟩
  · intro others schedules clear
    exact (better others schedules clear).imp fun _ _ improves => improves.toNoLater
  · intro others delays clear travelable
    have schedules : t.Schedules others := ⟨delays, inTurn_of_legsTravelable travelable⟩
    exact travelable_of_improves (better others schedules clear) repairs.schedules.inTurn travelable

/-- A repair delays ways after the first leg in turn, and does nothing where a trip can be travelled
or was repaired. Outside leap seconds there is one wherever delays in turn stay within the calendar;
it is the earliest of them, every way lasts as long as before, and it can be travelled if any of
them can. -/
theorem repaired?_best (t : Trip) :
    (∀ u, t.repaired? = some u → t.Repairs u) ∧
      (t.isTravelable = true → t.repaired? = some t) ∧
      (t.OutsideLeapSeconds →
        ((∃ u, t.repaired? = some u) ↔
          ∃ others, t.Schedules others ∧ ∀ leg ∈ others, leg.OutsideLeapSeconds) ∧
        ∀ u, t.repaired? = some u → t.RepairsBest Leg.OutsideLeapSeconds u) := by
  refine ⟨fun u done => repairs_of_repaired? done, ?_, ?_⟩
  · intro travelable
    exact repaired?_of_inTurn (inTurn_of_legsTravelable travelable)
  · intro outside
    refine ⟨⟨?_, ?_⟩, fun u done => repairsBest_of_repaired? outside done⟩
    · rintro ⟨u, done⟩
      exact ⟨u.legs, (repairs_of_repaired? done).schedules, outside_of_repaired? outside done⟩
    · rintro ⟨others, schedules, clear⟩
      obtain ⟨u, done, -⟩ := exists_repaired? outside schedules clear
      exact ⟨u, done⟩

end Trip

/-! A ride arrives late, with two walks and another ride after it. -/
namespace LateArrival

def first : PublicLeg where
  line := .named none none none
  destination := none
  departureStop :=
    { Stop.bare Sample.origin with departure := .ofPlan (Sample.morning 0) none }
  arrivalStop :=
    { Stop.bare Sample.destination with
      arrival := { CallEvent.ofPlan (Sample.morning 20) none with
        predicted := some (Sample.morning 25) } }
  intermediateStops := []
  path := []
  message := none
  departs := rfl
  arrives := rfl
  forward := by decide

def second : PublicLeg where
  line := .named none none none
  destination := none
  departureStop :=
    { Stop.bare Sample.destination with departure := .ofPlan (Sample.morning 40) none }
  arrivalStop :=
    { Stop.bare Sample.origin with arrival := .ofPlan (Sample.morning 60) none }
  intermediateStops := []
  path := []
  message := none
  departs := rfl
  arrives := rfl
  forward := by decide

/-- A walk of so many minutes. -/
def walk (start minutes : Nat) : IndividualLeg where
  kind := .walk
  departure := Sample.destination
  departureTime := Sample.morning start
  arrival := Sample.destination
  arrivalTime := Sample.morning (start + minutes)
  path := []
  meters := 300

/-- The walks begin at these minutes. -/
def trip (start startToo : Nat) : Trip where
  id := "walks"
  origin := Sample.origin
  destination := Sample.origin
  legs := [.ride first, .own (walk start 6), .own (walk startToo 4), .ride second]
  nonempty := List.cons_ne_nil _ _
  changes := none

/-- The second walk is pushed by the first one. -/
theorem repaired?_best_lateArrival :
    (trip 20 26).OutsideLeapSeconds ∧ (trip 20 26).isTravelable = false ∧
      (trip 20 26).repaired? = some (trip 25 31) ∧
      (trip 20 26).RepairsBest Leg.OutsideLeapSeconds (trip 25 31) ∧
      (trip 25 31).isTravelable = true ∧ (trip 25 31).repaired? = some (trip 25 31) := by
  have outside : (trip 20 26).OutsideLeapSeconds := by
    intro leg mem
    simp only [trip, List.mem_cons, List.not_mem_nil, or_false] at mem
    rcases mem with rfl | rfl | rfl | rfl
    · exact rfl
    · exact ⟨rfl, rfl⟩
    · exact ⟨rfl, rfl⟩
    · exact rfl
  have done : (trip 20 26).repaired? = some (trip 25 31) := rfl
  have travelable : (trip 25 31).isTravelable = true := by decide
  obtain ⟨-, -, best⟩ := Trip.repaired?_best (trip 20 26)
  obtain ⟨-, unchanged, -⟩ := Trip.repaired?_best (trip 25 31)
  exact ⟨outside, by decide, done, (best outside).2 _ done, travelable, unchanged travelable⟩

end LateArrival

namespace LeapSecond

def newYear : Instant := Sample.wholeSecond 1483228800

/-- A ride into the new year. -/
def nightRide : PublicLeg where
  line := .named none none none
  destination := none
  departureStop :=
    { Stop.bare Sample.destination with departure := .ofPlan Sample.lastHour none }
  arrivalStop :=
    { Stop.bare Sample.origin with arrival := .ofPlan newYear none }
  intermediateStops := []
  path := []
  message := none
  departs := rfl
  arrives := rfl
  forward := by decide

def nightTrip (way : IndividualLeg) : Trip where
  id := "night"
  origin := Sample.destination
  destination := Sample.destination
  legs := [.ride nightRide, .own way]
  nonempty := List.cons_ne_nil _ _
  changes := none

/-- The walk out of the leap second begins when the ride arrives, and ends before that. -/
def pushedWalk : IndividualLeg :=
  { walk 1500 with
    departureTime := newYear
    arrivalTime := Sample.lastSecond 700 }

theorem repaired?_nightTrip : (nightTrip (walk 1500)).repaired? = some (nightTrip pushedWalk) := rfl

/-- Not every repair delays: the walk ends in the old year, as it did not before. -/
theorem not_every_repair_best :
    ¬ ∀ t u : Trip, t.repaired? = some u → t.RepairsBest (fun _ => True) u := by
  intro claimed
  have best := claimed _ _ repaired?_nightTrip
  have delayed : List.Forall₂ Leg.NoLater [.ride nightRide, .own (walk 1500)]
      [.ride nightRide, .own pushedWalk] := best.notEarlier
  obtain ⟨-, walks⟩ := List.forall₂_cons.mp delayed
  obtain ⟨noLater, -⟩ := List.forall₂_cons.mp walks
  have ends : (walk 1500).arrivalTime ≤ pushedWalk.arrivalTime := noLater.arrival
  exact absurd ends (by decide)

end LeapSecond

end JourneyPlanner

import JourneyPlanner.Proofs.Time.Order
import JourneyPlanner.Proofs.Timetable.Loaded
import JourneyPlanner.Proofs.Trip.Keys
import JourneyPlanner.Trip.Basic

set_option autoImplicit false

/-!
Which connections share an identifier. Nothing but the keys of the places, the planned times, the
products and the labels is written into it, and the times are written in whole seconds. Where the
separators can be told from the texts between them, all that was written is read back.
-/
namespace JourneyPlanner

/-- What tells the elements of two lists of one image apart tells the lists apart. -/
theorem map_eq_of_map_eq {α β γ : Type} {f : α → β} {g : α → γ} {as bs : List α}
    (tells : ∀ a ∈ as, ∀ b ∈ bs, f a = f b → g a = g b) (same : as.map f = bs.map f) :
    as.map g = bs.map g := by
  induction as generalizing bs with
  | nil => simp_all
  | cons a as ih =>
    cases bs with
    | nil => cases same
    | cons b bs =>
      obtain ⟨heads, tails⟩ := List.cons.inj same
      have here := tells a List.mem_cons_self b List.mem_cons_self heads
      have later := ih (fun x mem y memToo =>
        tells x (List.mem_cons_of_mem a mem) y (List.mem_cons_of_mem b memToo)) tails
      rw [List.map_cons, List.map_cons, here, later]

namespace RidePlan

/-- What is written of the plan tells it: its times are whole seconds, an arrival is planned only
where a departure is, and no empty text stands on the vehicle. -/
structure Exact (plan : RidePlan) : Prop where
  departure : ∀ t ∈ plan.departure, t.nanos = 0
  arrival : ∀ t ∈ plan.arrival, t.nanos = 0
  known : plan.arrival.isSome → plan.departure.isSome
  label : plan.label ≠ some ""

instance (plan : RidePlan) : Decidable plan.Exact :=
  decidable_of_iff ((∀ t ∈ plan.departure, t.nanos = 0) ∧ (∀ t ∈ plan.arrival, t.nanos = 0) ∧
      (plan.arrival.isSome → plan.departure.isSome) ∧ plan.label ≠ some "")
    ⟨fun ⟨departure, arrival, known, label⟩ => ⟨departure, arrival, known, label⟩,
      fun ⟨departure, arrival, known, label⟩ => ⟨departure, arrival, known, label⟩⟩

theorem Exact.whole {plan : RidePlan} (exact : plan.Exact) :
    ∀ t ∈ plan.times, t.nanos = 0 := by
  intro t mem
  rcases List.mem_append.mp mem with departs | arrives
  · exact exact.departure t (Option.mem_toList.mp departs)
  · exact exact.arrival t (Option.mem_toList.mp arrives)

/-- Which of two times are known is told by how many are. -/
theorem eq_of_times {departure arrival departureToo arrivalToo : Option Instant}
    (known : arrival.isSome → departure.isSome) (knownToo : arrivalToo.isSome → departureToo.isSome)
    (same : departure.toList ++ arrival.toList = departureToo.toList ++ arrivalToo.toList) :
    departure = departureToo ∧ arrival = arrivalToo := by
  cases departure <;> cases arrival <;> cases departureToo <;> cases arrivalToo <;> simp_all

theorem eq_of_label {label other : Option String} (written : label ≠ some "")
    (writtenToo : other ≠ some "") (same : label.getD "" = other.getD "") : label = other := by
  cases label <;> cases other <;> simp_all

theorem Exact.eq_of_written {plan other : RidePlan} (exact : plan.Exact) (exactToo : other.Exact)
    (same : plan.written = other.written) : plan = other := by
  have seconds : plan.times.map Instant.second = other.times.map Instant.second :=
    congrArg WrittenPlan.seconds same
  have times := map_eq_of_map_eq (g := id) (fun t mem u memToo together =>
    Instant.eq_of_second together (exact.whole t mem) (exactToo.whole u memToo)) seconds
  rw [List.map_id, List.map_id] at times
  obtain ⟨departure, arrival⟩ := eq_of_times exact.known exactToo.known times
  have product := congrArg WrittenPlan.product same
  have label := eq_of_label exact.label exactToo.label (congrArg WrittenPlan.label same)
  exact RidePlan.ext departure arrival product label

end RidePlan

namespace Leg

/-- What a leg is in a connection: the keys of its places and, of a ride, its plan. -/
@[ext]
structure Segment where
  departure : String
  arrival : String
  plan : Option RidePlan
  deriving DecidableEq

def segment (leg : Leg) : Segment where
  departure := leg.departure.key
  arrival := leg.arrival.key
  plan := leg.plan?

variable {leg other : Leg} {legs others : List Leg}

theorem outline_eq_of_segment (same : leg.segment = other.segment) :
    leg.outline = other.outline := by
  have plan : leg.plan? = other.plan? := congrArg Segment.plan same
  apply Outline.ext
  · exact congrArg Segment.departure same
  · exact congrArg Segment.arrival same
  · exact congrArg (Option.map RidePlan.written) plan

theorem key_eq_of_outline (same : leg.outline = other.outline) : leg.key = other.key := by
  apply String.toList_inj.mp
  rw [toList_key, toList_key, same]

theorem identifier_eq_of_outlines (same : legs.map outline = others.map outline) :
    identifier legs = identifier others := by
  have keys : legs.map key = others.map key :=
    map_eq_of_map_eq (fun _ _ _ _ => key_eq_of_outline) same
  rw [identifier, identifier, keys]

/-- What is written of the plan of a leg, if it has one, tells the plan. -/
def Exact (leg : Leg) : Prop :=
  ∀ plan ∈ leg.plan?, plan.Exact

theorem Exact.segment_eq (exact : leg.Exact) (exactToo : other.Exact)
    (same : leg.outline = other.outline) : leg.segment = other.segment := by
  have plans : leg.plan?.map RidePlan.written = other.plan?.map RidePlan.written :=
    congrArg Outline.plan same
  have plan : leg.plan? = other.plan? := by
    cases first : leg.plan? with
    | none =>
      rw [first] at plans
      exact (Option.map_eq_none_iff.mp plans.symm).symm
    | some plan =>
      rw [first] at plans
      obtain ⟨planToo, second, written⟩ := Option.map_eq_some_iff.mp plans.symm
      rw [second, (exact plan first).eq_of_written (exactToo planToo second) written.symm]
  apply Segment.ext
  · exact congrArg Outline.departure same
  · exact congrArg Outline.arrival same
  · exact plan

/-- The separators can be told from the texts between them: there is no bar in these, and no place
has a key that begins with the key of another and a dash. -/
structure Legible (legs : List Leg) : Prop where
  bars : ∀ leg ∈ legs, '|' ∉ leg.departure.key.toList ∧ '|' ∉ leg.arrival.key.toList
  labels : ∀ leg ∈ legs, ∀ plan ∈ leg.plan?, '|' ∉ (plan.label.getD "").toList
  departures : ∀ leg ∈ legs, ∀ other ∈ legs,
    ¬ leg.departure.key.toList ++ ['-'] <+: other.departure.key.toList
  arrivals : ∀ leg ∈ legs, ∀ other ∈ legs,
    ¬ leg.arrival.key.toList ++ ['-'] <+: other.arrival.key.toList

/-- The key of a leg is cut after the places, and what is left is the plan. -/
theorem Legible.outline_eq (legible : Legible legs) (mem : leg ∈ legs) (memToo : other ∈ legs)
    (same : leg.key = other.key) : leg.outline = other.outline := by
  apply outline_eq_of_key _ _ same
  · exact ⟨legible.departures leg mem other memToo, legible.departures other memToo leg mem⟩
  · exact ⟨legible.arrivals leg mem other memToo, legible.arrivals other memToo leg mem⟩

theorem Legible.outlines_eq (legible : Legible (legs ++ others)) (some : legs ≠ [])
    (someToo : others ≠ []) (same : identifier legs = identifier others) :
    legs.map outline = others.map outline := by
  have plain : ∀ leg ∈ legs ++ others, '|' ∉ leg.key.toList := by
    intro leg mem
    obtain ⟨departure, arrival⟩ := legible.bars leg mem
    exact bar_not_mem_key departure arrival (legible.labels leg mem)
  have keys := keys_of_identifier some someToo
    (fun leg mem => plain leg (List.mem_append_left others mem))
    (fun leg mem => plain leg (List.mem_append_right legs mem)) same
  apply map_eq_of_map_eq _ keys
  intro leg mem other memToo
  exact legible.outline_eq (List.mem_append_left others mem) (List.mem_append_right legs memToo)

end Leg

namespace Trip

variable {origin originToo destination destinationToo : Location} {legs others : List Leg}
  {changes changesToo : Option UInt32} {t u : Trip}

theorem ofLegs_eq_ok (made : ofLegs none origin destination legs changes = .ok t) :
    legs ≠ [] ∧ t.id = Leg.identifier legs := by
  unfold ofLegs at made
  split at made
  · cases made
    exact ⟨‹_›, rfl⟩
  · cases made

/-- Trips of the same segments have one identifier, whatever else differs. Where the separators can
be told from the texts, trips have one identifier just if all that is written of their legs is the
same; and just if their segments are, where what is written tells the plans. -/
theorem id_tells (made : ofLegs none origin destination legs changes = .ok t)
    (madeToo : ofLegs none originToo destinationToo others changesToo = .ok u) :
    (legs.map Leg.segment = others.map Leg.segment → t.id = u.id) ∧
      (Leg.Legible (legs ++ others) →
        (t.id = u.id ↔ legs.map Leg.outline = others.map Leg.outline) ∧
        ((∀ leg ∈ legs ++ others, leg.Exact) →
          (t.id = u.id ↔ legs.map Leg.segment = others.map Leg.segment))) := by
  obtain ⟨some, id⟩ := ofLegs_eq_ok made
  obtain ⟨someToo, idToo⟩ := ofLegs_eq_ok madeToo
  have written : legs.map Leg.segment = others.map Leg.segment →
      legs.map Leg.outline = others.map Leg.outline :=
    map_eq_of_map_eq fun _ _ _ _ => Leg.outline_eq_of_segment
  rw [id, idToo]
  constructor
  · intro same
    exact Leg.identifier_eq_of_outlines (written same)
  · intro legible
    have told : Leg.identifier legs = Leg.identifier others ↔
        legs.map Leg.outline = others.map Leg.outline :=
      ⟨legible.outlines_eq some someToo, Leg.identifier_eq_of_outlines⟩
    refine ⟨told, fun exact => told.trans ⟨?_, written⟩⟩
    apply map_eq_of_map_eq
    intro leg mem other memToo
    have first := exact leg (List.mem_append_left others mem)
    have second := exact other (List.mem_append_right legs memToo)
    exact first.segment_eq second

end Trip

/-! Rides on one line, and a walk after them. -/
namespace OneLine

def ride (departure arrival : Instant)
    (forward : plansForward (some departure) (some arrival) = true) : PublicLeg where
  line := .named none (some .bus) (some "1")
  destination := none
  departureStop := { Stop.bare Sample.origin with departure := .ofPlan departure none }
  arrivalStop := { Stop.bare Sample.destination with arrival := .ofPlan arrival none }
  intermediateStops := []
  path := []
  message := none
  departs := rfl
  arrives := rfl
  forward := forward

def walk : IndividualLeg where
  kind := .walk
  departure := Sample.destination
  departureTime := Sample.morning 90
  arrival := Sample.origin
  arrivalTime := Sample.morning 100
  path := []
  meters := 600

def early : List Leg :=
  [.ride (ride (Sample.morning 0) (Sample.morning 20) rfl), .own walk]

def late : List Leg :=
  [.ride (ride (Sample.morning 60) (Sample.morning 80) rfl), .own walk]

theorem exists_ofLegs (legs : List Leg) (some : legs ≠ []) :
    ∃ t, Trip.ofLegs none Sample.origin Sample.origin legs none = .ok t := by
  rw [Trip.ofLegs, dif_pos some]
  exact ⟨_, rfl⟩

theorem legible : Leg.Legible (early ++ late) where
  bars := by decide
  labels := by decide
  departures := by decide
  arrivals := by decide

theorem id_tells_hours :
    ∃ t u : Trip, Trip.ofLegs none Sample.origin Sample.origin early none = .ok t ∧
      Trip.ofLegs none Sample.origin Sample.origin late none = .ok u ∧
      Leg.Legible (early ++ late) ∧ (∀ leg ∈ early ++ late, leg.Exact) ∧ t.id ≠ u.id := by
  obtain ⟨t, made⟩ := exists_ofLegs early (List.cons_ne_nil _ _)
  obtain ⟨u, madeToo⟩ := exists_ofLegs late (List.cons_ne_nil _ _)
  have exact : ∀ leg ∈ early ++ late, leg.Exact := by
    unfold Leg.Exact
    decide
  have other : early.map Leg.segment ≠ late.map Leg.segment := by decide
  have told := ((Trip.id_tells made madeToo).2 legible).2 exact
  exact ⟨t, u, made, madeToo, legible, exact, fun same => other (told.mp same)⟩

/-- A ride within the last second of the hour, three tenths of a second long. -/
def quick (millis : Nat)
    (forward : plansForward (some (Sample.lastSecond millis))
      (some (Sample.lastSecond (millis + 300))) = true) : List Leg :=
  [.ride (ride (Sample.lastSecond millis) (Sample.lastSecond (millis + 300)) forward)]

/-- Within a second rides at other times have the same identifier. -/
theorem not_every_id_tells :
    ¬ ∀ (origin destination : Location) (legs others : List Leg) (t u : Trip),
      Trip.ofLegs none origin destination legs none = .ok t →
      Trip.ofLegs none origin destination others none = .ok u →
      t.id = u.id → legs.map Leg.segment = others.map Leg.segment := by
  intro claimed
  obtain ⟨t, made⟩ := exists_ofLegs (quick 200 rfl) (List.cons_ne_nil _ _)
  obtain ⟨u, madeToo⟩ := exists_ofLegs (quick 500 rfl) (List.cons_ne_nil _ _)
  have outlines : (quick 200 rfl).map Leg.outline = (quick 500 rfl).map Leg.outline := by decide
  have same : t.id = u.id := by
    rw [(Trip.ofLegs_eq_ok made).2, (Trip.ofLegs_eq_ok madeToo).2]
    exact Leg.identifier_eq_of_outlines outlines
  have other : (quick 200 rfl).map Leg.segment ≠ (quick 500 rfl).map Leg.segment := by decide
  exact other (claimed _ _ _ _ t u made madeToo same)

end OneLine

end JourneyPlanner

import Mathlib.Order.Bounds.Basic
import JourneyPlanner.Proofs.Time.Order
import JourneyPlanner.Proofs.Timetable.Loaded
import JourneyPlanner.Trip.Basic

set_option autoImplicit false

/-!
The extent of a trip in time. It begins with the first of all departures, planned or predicted, and
ends with the last of all arrivals. What is timed in between lies within it just if no such time
precedes all departures or follows all arrivals; where a delay is known on one side only, one may.
-/
namespace JourneyPlanner

section Picking

variable {α β : Type} {precedes : α → α → Prop} {pick : α → α → α} {a b : α} {elements : List α}

/-- Of two elements the operation takes one that precedes both. -/
structure Picks (precedes : α → α → Prop) (pick : α → α → α) : Prop where
  refl : ∀ a, precedes a a
  trans : ∀ a b c, precedes a b → precedes b c → precedes a c
  either : ∀ a b, pick a b = a ∨ pick a b = b
  left : ∀ a b, precedes (pick a b) a
  right : ∀ a b, precedes (pick a b) b

/-- One of the elements, and it precedes all of them. -/
def Leads (precedes : α → α → Prop) (elements : List α) (a : α) : Prop :=
  a ∈ elements ∧ ∀ b ∈ elements, precedes a b

/-- What is taken of all elements, if there is one. -/
def picked? (pick : α → α → α) : List α → Option α
  | [] => none
  | a :: rest => some (rest.foldl pick a)

/-- By induction on the rest, with what was taken so far general. -/
theorem Picks.foldl (picks : Picks precedes pick) (a : α) (rest : List α) :
    Leads precedes (a :: rest) (rest.foldl pick a) := by
  induction rest generalizing a with
  | nil =>
    refine ⟨List.mem_singleton_self a, ?_⟩
    intro b mem
    rw [List.mem_singleton.mp mem]
    exact picks.refl a
  | cons b rest ih =>
    obtain ⟨mem, leads⟩ := ih (pick a b)
    have here := leads (pick a b) List.mem_cons_self
    rw [List.foldl_cons]
    constructor
    · rcases List.mem_cons.mp mem with taken | later
      · rw [taken]
        rcases picks.either a b with left | right
        · simp [left]
        · simp [right]
      · exact List.mem_cons_of_mem a (List.mem_cons_of_mem b later)
    · intro c inside
      simp only [List.mem_cons] at inside
      rcases inside with rfl | rfl | later
      · exact picks.trans _ _ _ here (picks.left c b)
      · exact picks.trans _ _ _ here (picks.right a c)
      · exact leads c (List.mem_cons_of_mem _ later)

theorem Picks.exists_picked (picks : Picks precedes pick) (nonempty : elements ≠ []) :
    ∃ a, picked? pick elements = some a ∧ Leads precedes elements a := by
  cases elements with
  | nil => exact absurd rfl nonempty
  | cons a rest => exact ⟨_, rfl, picks.foldl a rest⟩

/-- What precedes the first elements of all parts precedes all elements. -/
theorem Leads.flatMap {parts : List β} {first : β → α} {all : β → List α}
    (picks : Picks precedes pick) (each : ∀ part ∈ parts, Leads precedes (all part) (first part))
    (leads : Leads precedes (parts.map first) a) : Leads precedes (parts.flatMap all) a := by
  obtain ⟨mem, before⟩ := leads
  constructor
  · obtain ⟨part, inside, rfl⟩ := List.mem_map.mp mem
    exact List.mem_flatMap.mpr ⟨part, inside, (each part inside).1⟩
  · intro b memToo
    obtain ⟨part, inside, within⟩ := List.mem_flatMap.mp memToo
    have ahead := before (first part) (List.mem_map_of_mem inside)
    exact picks.trans _ _ _ ahead ((each part inside).2 b within)

/-- To go through the elements beginning with one of them changes nothing. -/
theorem Leads.of_repeated (leads : Leads precedes (b :: elements) a) (mem : b ∈ elements) :
    Leads precedes elements a := by
  obtain ⟨inside, before⟩ := leads
  refine ⟨?_, fun c memToo => before c (List.mem_cons_of_mem b memToo)⟩
  rcases List.mem_cons.mp inside with rfl | later
  · exact mem
  · exact later

/-- An element precedes others just if, for each of them, one of those that it leads does. -/
theorem Leads.precedes_iff (picks : Picks precedes pick) (leads : Leads precedes elements a) :
    precedes a b ↔ ∃ c ∈ elements, precedes c b := by
  constructor
  · intro before
    exact ⟨a, leads.1, before⟩
  · rintro ⟨c, mem, before⟩
    exact picks.trans _ _ _ (leads.2 c mem) before

end Picking

namespace Instant

theorem picks_earlier : Picks (fun s t : Instant => s ≤ t) earlier where
  refl := le_refl
  trans _ _ _ := le_trans
  either s t := by
    unfold earlier
    split <;> simp
  left s t := by
    unfold earlier
    split
    · exact le_of_lt ‹_›
    · exact le_refl s
  right s t := by
    unfold earlier
    split
    · exact le_refl t
    · exact Int.not_lt.mp ‹_›

theorem picks_later : Picks (fun s t : Instant => t ≤ s) later where
  refl := le_refl
  trans _ _ _ first second := le_trans second first
  either s t := by
    unfold later
    split <;> simp
  left s t := by
    unfold later
    split
    · exact le_of_lt ‹_›
    · exact le_refl s
  right s t := by
    unfold later
    split
    · exact le_refl t
    · exact Int.not_lt.mp ‹_›

end Instant

namespace CallEvent

/-- The times that are known of an event. -/
def times (e : CallEvent) : List Instant :=
  e.planned.toList ++ e.predicted.toList

theorem earliest_eq (e : CallEvent) : e.earliest = picked? Instant.earlier e.times := by
  unfold earliest times
  cases e.planned <;> cases e.predicted <;> rfl

theorem latest_eq (e : CallEvent) : e.latest = picked? Instant.later e.times := by
  unfold latest times
  cases e.planned <;> cases e.predicted <;> rfl

theorem times_ne_nil {e : CallEvent} (known : (e.time false).isSome) : e.times ≠ [] := by
  unfold time at known
  unfold times
  intro none
  simp only [List.append_eq_nil_iff, Option.toList_eq_nil_iff] at none
  simp [none] at known

end CallEvent

namespace Leg

/-- When the leg departs, as planned and as predicted. -/
def departures : Leg → List Instant
  | .ride leg => leg.departureStop.departure.times
  | .own leg => [leg.departureTime]

/-- When the leg arrives, as planned and as predicted. -/
def arrivals : Leg → List Instant
  | .ride leg => leg.arrivalStop.arrival.times
  | .own leg => [leg.arrivalTime]

/-- When the vehicle calls at the stops in between. -/
def calls : Leg → List Instant
  | .ride leg =>
      leg.intermediateStops.flatMap fun stop => stop.arrival.times ++ stop.departure.times
  | .own _ => []

/-- All times of a leg. -/
def times (leg : Leg) : List Instant :=
  leg.departures ++ leg.calls ++ leg.arrivals

theorem minTime_leads (leg : Leg) : Leads (· ≤ ·) leg.departures leg.minTime := by
  cases leg with
  | own leg => exact Instant.picks_earlier.foldl leg.departureTime []
  | ride leg =>
    obtain ⟨first, found, leads⟩ :=
      Instant.picks_earlier.exists_picked (CallEvent.times_ne_nil leg.departs)
    rw [← CallEvent.earliest_eq] at found
    rw [minTime, Stop.minTime, found]
    exact leads

theorem maxTime_leads (leg : Leg) : Leads (fun s t => t ≤ s) leg.arrivals leg.maxTime := by
  cases leg with
  | own leg => exact Instant.picks_later.foldl leg.arrivalTime []
  | ride leg =>
    obtain ⟨last, found, leads⟩ :=
      Instant.picks_later.exists_picked (CallEvent.times_ne_nil leg.arrives)
    rw [← CallEvent.latest_eq] at found
    rw [maxTime, Stop.maxTime, found]
    exact leads

end Leg

namespace Trip

def departures (t : Trip) : List Instant :=
  t.legs.flatMap Leg.departures

def arrivals (t : Trip) : List Instant :=
  t.legs.flatMap Leg.arrivals

/-- All times that occur on a trip. -/
def times (t : Trip) : List Instant :=
  t.legs.flatMap Leg.times

theorem departures_subset (t : Trip) : t.departures ⊆ t.times := by
  intro time mem
  obtain ⟨leg, inside, here⟩ := List.mem_flatMap.mp mem
  refine List.mem_flatMap.mpr ⟨leg, inside, ?_⟩
  simp [Leg.times, here]

theorem arrivals_subset (t : Trip) : t.arrivals ⊆ t.times := by
  intro time mem
  obtain ⟨leg, inside, here⟩ := List.mem_flatMap.mp mem
  refine List.mem_flatMap.mpr ⟨leg, inside, ?_⟩
  simp [Leg.times, here]

theorem minTime_leads (t : Trip) : Leads (· ≤ ·) t.departures t.minTime := by
  have first : t.firstLeg.minTime ∈ t.legs.map Leg.minTime := by
    apply List.mem_map_of_mem
    exact List.head_mem t.nonempty
  have taken := (Instant.picks_earlier.foldl t.firstLeg.minTime _).of_repeated first
  exact taken.flatMap Instant.picks_earlier fun leg _ => leg.minTime_leads

theorem maxTime_leads (t : Trip) : Leads (fun s t => t ≤ s) t.arrivals t.maxTime := by
  have first : t.firstLeg.maxTime ∈ t.legs.map Leg.maxTime := by
    apply List.mem_map_of_mem
    exact List.head_mem t.nonempty
  have taken := (Instant.picks_later.foldl t.firstLeg.maxTime _).of_repeated first
  exact taken.flatMap Instant.picks_later fun leg _ => leg.maxTime_leads

/-- A trip begins with its first departure and ends with its last arrival, planned or predicted.
Both are times of the trip. All its times lie between them just if none precedes all departures and
none follows all arrivals. -/
theorem extent_told (t : Trip) :
    IsLeast {time | time ∈ t.departures} t.minTime ∧
      IsGreatest {time | time ∈ t.arrivals} t.maxTime ∧
      t.minTime ∈ t.times ∧ t.maxTime ∈ t.times ∧
      ((∀ time ∈ t.times, t.minTime ≤ time) ↔
        ∀ time ∈ t.times, ∃ departure ∈ t.departures, departure ≤ time) ∧
      ((∀ time ∈ t.times, time ≤ t.maxTime) ↔
        ∀ time ∈ t.times, ∃ arrival ∈ t.arrivals, time ≤ arrival) := by
  have first := t.minTime_leads
  have last := t.maxTime_leads
  refine ⟨⟨first.1, fun time => first.2 time⟩, ⟨last.1, fun time => last.2 time⟩,
    t.departures_subset first.1, t.arrivals_subset last.1, ?_, ?_⟩
  · apply forall₂_congr
    intro time _
    exact first.precedes_iff Instant.picks_earlier
  · apply forall₂_congr
    intro time _
    exact last.precedes_iff Instant.picks_later

end Trip

/-! A ride that is late where it begins, with no word yet about where it ends. -/
namespace LateDeparture

def ride : PublicLeg where
  line := .named none none none
  destination := none
  departureStop :=
    { Stop.bare Sample.origin with
      departure := { CallEvent.ofPlan (Sample.morning 0) none with
        predicted := some (Sample.morning 30) } }
  arrivalStop :=
    { Stop.bare Sample.destination with arrival := .ofPlan (Sample.morning 20) none }
  intermediateStops := []
  path := []
  message := none
  departs := rfl
  arrives := rfl
  forward := by decide

def trip : Trip where
  id := "late"
  origin := Sample.origin
  destination := Sample.destination
  legs := [.ride ride]
  nonempty := List.cons_ne_nil _ _
  changes := none

/-- The trip is said to be over before it departs. -/
theorem not_every_time_within :
    ¬ ∀ t : Trip, ∀ time ∈ t.times, t.minTime ≤ time ∧ time ≤ t.maxTime := by
  intro claimed
  have departs : Sample.morning 30 ∈ trip.times := by decide
  have ended : ¬ Sample.morning 30 ≤ trip.maxTime := by decide
  exact ended (claimed trip _ departs).2

end LateDeparture

end JourneyPlanner

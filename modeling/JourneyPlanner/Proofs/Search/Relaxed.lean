import Mathlib
import JourneyPlanner.Proofs.Search.Dominance
import JourneyPlanner.Proofs.Search.Feasible
import JourneyPlanner.Proofs.Time.Shifting
import JourneyPlanner.Proofs.Timetable.Extended

set_option autoImplicit false

/-!
Asking for less never makes the answer worse. What a search explores has a counterpart where more
services may be used, walks are faster, changes take less time or services were added: it begins no
earlier and ends no later. So all that was kept is matched by what is kept then.
-/
namespace JourneyPlanner

section Related

variable {α β γ δ : Type} {related : α → β → Prop} {elements : List α} {others : List β}

theorem takeWhile_forall₂ {p : α → Bool} {q : β → Bool}
    (same : ∀ a b, related a b → p a = q b) (matched : List.Forall₂ related elements others) :
    List.Forall₂ related (elements.takeWhile p) (others.takeWhile q) := by
  induction matched with
  | nil => exact List.Forall₂.nil
  | @cons a b rest following here _ ih =>
    rw [List.takeWhile_cons, List.takeWhile_cons, same a b here]
    split
    · exact List.Forall₂.cons here ih
    · exact List.Forall₂.nil

theorem findSome?_rel {makes : γ → δ → Prop} {f : α → Option γ} {g : β → Option δ}
    (same : ∀ a b, related a b → Option.Rel makes (f a) (g b))
    (matched : List.Forall₂ related elements others) :
    Option.Rel makes (elements.findSome? f) (others.findSome? g) := by
  induction matched with
  | nil => exact Option.Rel.none
  | @cons a b rest following here _ ih =>
    have first := same a b here
    rw [List.findSome?_cons, List.findSome?_cons]
    generalize f a = found at first
    generalize g b = foundToo at first
    cases first with
    | some made => exact Option.Rel.some made
    | none => exact ih

end Related

/-- The station, and how far away it is. -/
def Access.reach (a : Access) : Nat × UInt32 :=
  (a.station.number, a.meters)

/-- What a search looks at in an endpoint. -/
def Endpoint.reaches (e : Endpoint) : List (Nat × UInt32) :=
  e.accesses.map Access.reach

/-- A search that asks for no more than another one, over a timetable that offers no less: between
the same places every service that might be used may be used still, whoever walks is no slower, a
change takes no longer, and no service is missing. -/
@[mk_iff]
structure Search.RelaxedTo (s : Search) (tt : Timetable) (easier : Search) (larger : Timetable) :
    Prop where
  origin : easier.origin.reaches = s.origin.reaches
  via : easier.via.map Endpoint.reaches = s.via.map Endpoint.reaches
  destination : easier.destination.reaches = s.destination.reaches
  usable : ∀ service ∈ tt.services, s.usable service = true → easier.usable service = true
  pace : s.walkSpeed.metersPerMinute ≤ easier.walkSpeed.metersPerMinute
  minChange : larger.minChange ≤ tt.minChange
  services : larger.Extends tt

instance (s : Search) (tt : Timetable) (easier : Search) (larger : Timetable) :
    Decidable (s.RelaxedTo tt easier larger) :=
  decidable_of_iff _ (Search.relaxedTo_iff s tt easier larger).symm

namespace Endpoint

variable {e f : Endpoint} {p q : Place}

theorem map_reach_access? (e : Endpoint) (p : Place) :
    (e.access? p).map Access.reach =
      (e.reaches.filter fun reach => decide (reach.1 = p.number)).getLast? := by
  rw [access?, reaches, List.filter_map, List.getLast?_map]
  rfl

/-- The same stations are in reach, and over the same metres. -/
theorem access?_congr (same : f.reaches = e.reaches) (station : q.number = p.number) :
    (f.access? q).map Access.reach = (e.access? p).map Access.reach := by
  rw [map_reach_access?, map_reach_access?, same, station]

end Endpoint

namespace Search.RelaxedTo

variable {s easier : Search} {tt larger : Timetable} {place : Nat → Nat} {b c : Boarding}
  {r t : Ride}

theorem usable_of_course (relaxed : s.RelaxedTo tt easier larger) {service other : Service}
    (scheduled : service ∈ tt.services) (same : other.course = service.course)
    (usable : s.usable service = true) : easier.usable other = true := by
  have allowed := relaxed.usable service scheduled usable
  have product : other.line.product = service.line.product := congrArg Course.product same
  have bikes : other.bikesAllowed = service.bikesAllowed := congrArg Course.bikesAllowed same
  have steps : other.wheelchairAccessible = service.wheelchairAccessible :=
    congrArg Course.wheelchairAccessible same
  rw [Search.usable] at allowed ⊢
  rwa [product, bikes, steps]

theorem exists_start (relaxed : s.RelaxedTo tt easier larger) {start : Access}
    (begun : start ∈ s.origin.accesses) :
    ∃ a ∈ easier.origin.accesses, a.reach = start.reach := by
  have mem : start.reach ∈ easier.origin.reaches := by
    rw [relaxed.origin]
    exact List.mem_map_of_mem begun
  exact List.mem_map.mp mem

theorem access?_of_matches (relaxed : s.RelaxedTo tt easier larger) (matched : r.Matches place t) :
    (easier.destination.access? t.alight.station).map Access.reach =
      (s.destination.access? r.alight.station).map Access.reach :=
  Endpoint.access?_congr relaxed.destination (congrArg Stopping.station matched.alight).symm

/-- Where the search leaves a service it would do so too where less is asked for. -/
theorem exists_directRide? (relaxed : s.RelaxedTo tt easier larger) (matched : b.Matches place c)
    {next : Ride × Access} (rode : s.directRide? b = some next) :
    ∃ other, easier.directRide? c = some other ∧ next.1.Matches place other.1 ∧
      other.2.reach = next.2.reach := by
  have related : Option.Rel (fun next other : Ride × Access =>
      next.1.Matches place other.1 ∧ other.2.reach = next.2.reach)
        (s.directRide? b) (easier.directRide? c) := by
    refine findSome?_rel (fun r t same => ?_) matched.rides
    have access := relaxed.access?_of_matches same
    cases found : s.destination.access? r.alight.station with
    | none =>
      rw [found, Option.map_none, Option.map_eq_none_iff] at access
      rw [access]
      exact Option.Rel.none
    | some a =>
      rw [found, Option.map_some] at access
      obtain ⟨other, foundToo, reach⟩ := Option.map_eq_some_iff.mp access
      rw [foundToo]
      exact Option.Rel.some ⟨same, reach⟩
  rw [rode] at related
  cases rodeToo : easier.directRide? c with
  | none =>
    rw [rodeToo] at related
    cases related
  | some other =>
    rw [rodeToo] at related
    cases related with
    | some same => exact ⟨other, rfl, same⟩

theorem exists_rideBefore (relaxed : s.RelaxedTo tt easier larger) (matched : b.Matches place c)
    (rode : r ∈ s.ridesBefore b) : ∃ t ∈ easier.ridesBefore c, r.Matches place t := by
  refine exists_of_forall₂ (takeWhile_forall₂ (fun r t same => ?_) matched.rides) rode
  have access := congrArg Option.isNone (relaxed.access?_of_matches same)
  rw [Option.isNone_map, Option.isNone_map] at access
  exact access.symm

/-- Who changes after a ride that matches is ready no later. -/
theorem ready_le (relaxed : s.RelaxedTo tt easier larger) (matched : r.Matches place t)
    {ready sooner : Instant} (arrived : r.alight.arrival.shift? tt.minChange = some ready)
    (arrivedToo : t.alight.arrival.shift? larger.minChange = some sooner) : sooner ≤ ready := by
  have arrival : r.alight.arrival = t.alight.arrival := congrArg Stopping.arrival matched.alight
  rw [← arrival] at arrivedToo
  exact Instant.shift?_le_shift? arrivedToo arrived relaxed.minChange

theorem exists_connection (relaxed : s.RelaxedTo tt easier larger)
    (embedded : larger.Embeds tt place) (sound : tt.Sound) (soundToo : larger.Sound)
    (matched : r.Matches place t) {ready sooner : Instant} (order : sooner ≤ ready)
    (connected : b ∈ s.connections tt r ready) :
    ∃ c ∈ easier.connections larger t sooner, b.Matches place c := by
  obtain ⟨boarded, conditions⟩ := List.mem_filter.mp connected
  simp only [Bool.and_eq_true, decide_eq_true_eq] at conditions
  obtain ⟨⟨other, inTime⟩, usable⟩ := conditions
  obtain ⟨c, boardedToo, same⟩ := embedded.exists_boarding sound.services_numbered
    soundToo.services_numbered boarded (congrArg Stopping.station matched.alight).symm
  refine ⟨c, List.mem_filter.mpr ⟨boardedToo, ?_⟩, same⟩
  have scheduled := (Timetable.mem_boardingsAt.mp boarded).1
  have otherToo : c.service.number ≠ t.service.number := by
    rw [same.number, matched.number]
    exact embedded.injective.ne other
  have departs : b.call.departure = c.call.departure := congrArg Stopping.departure same.call
  rw [relaxed.usable_of_course scheduled same.course usable, decide_eq_true otherToo, ← departs,
    decide_eq_true (Instant.le_trans order inTime)]
  rfl

/-- What passes the place on the way does so on the same rides where less is asked for. -/
theorem passesVia_of_matches (relaxed : s.RelaxedTo tt easier larger) {it f : Itinerary}
    (matched : List.Forall₂ (Ride.Matches place) it.rides f.rides)
    (passes : s.passesVia it = true) : easier.passesVia f = true := by
  have same := relaxed.via
  rw [Search.passesVia] at passes ⊢
  cases through : s.via with
  | none =>
    rw [through, Option.map_none, Option.map_eq_none_iff] at same
    rw [same]
  | some via =>
    rw [through, Option.map_some] at same
    obtain ⟨other, throughToo, reaches⟩ := Option.map_eq_some_iff.mp same
    rw [through] at passes
    rw [throughToo]
    have stations : (other.accesses.map (·.station)).map Place.number =
        (via.accesses.map (·.station)).map Place.number := by
      have numbers := congrArg (List.map Prod.fst) reaches
      rw [Endpoint.reaches, Endpoint.reaches, List.map_map, List.map_map] at numbers
      rw [List.map_map, List.map_map]
      exact numbers
    obtain ⟨ride, rode, passing⟩ := List.any_eq_true.mp passes
    obtain ⟨t, rodeToo, alike⟩ := exists_of_forall₂ matched rode
    exact List.any_eq_true.mpr ⟨t, rodeToo, (alike.passes stations).trans passing⟩

/-- On the same rides, who walks no slower leaves no earlier and is there no later. -/
theorem atLeastAsGood (relaxed : s.RelaxedTo tt easier larger) {start finish a d : Access}
    {first firstToo : Ride} {second secondToo : Option Ride} {it f : Itinerary}
    (made : s.itinerary? start first second finish = some it)
    (madeToo : easier.itinerary? a firstToo secondToo d = some f)
    (reach : a.reach = start.reach) (reachToo : d.reach = finish.reach)
    (board : first.Matches place firstToo)
    (alight : (second.getD first).Matches place (secondToo.getD firstToo))
    (changes : secondToo.toList.length = second.toList.length) : f.AtLeastAsGood it := by
  obtain ⟨departure, arrival, departs, arrives, rfl⟩ := Search.itinerary?_eq_some made
  obtain ⟨departureToo, arrivalToo, departsToo, arrivesToo, rfl⟩ :=
    Search.itinerary?_eq_some madeToo
  have meters : a.meters = start.meters := congrArg Prod.snd reach
  have metersToo : d.meters = finish.meters := congrArg Prod.snd reachToo
  have departing : first.board.departure = firstToo.board.departure :=
    congrArg Stopping.departure board.board
  have arriving : (second.getD first).alight.arrival = (secondToo.getD firstToo).alight.arrival :=
    congrArg Stopping.arrival alight.alight
  rw [← departing, meters] at departsToo
  rw [← arriving, metersToo] at arrivesToo
  have walk : easier.walkSpeed.walkTime start.meters ≤ s.walkSpeed.walkTime start.meters :=
    WalkSpeed.walkTime_le relaxed.pace UInt32.le_rfl
  exact ⟨Instant.shift?_le_shift? departs departsToo (Int.neg_le_neg walk),
    Instant.shift?_le_shift? arrivesToo arrives (WalkSpeed.walkTime_le relaxed.pace UInt32.le_rfl),
    Nat.le_of_eq changes⟩

/-- Whatever was explored has a counterpart that is at least as good. -/
theorem exists_counterpart (relaxed : s.RelaxedTo tt easier larger) (sound : tt.Sound)
    (soundToo : larger.Sound) {its : List Itinerary} (found : easier.itineraries? larger = some its)
    {it : Itinerary} (explored : s.Explored tt it) (passes : s.passesVia it = true) :
    ∃ f ∈ its, f.AtLeastAsGood it := by
  obtain ⟨place, embedded⟩ := relaxed.services.exists_embeds
  have boarding {b : Boarding} {start a : Access} (boarded : b ∈ tt.boardingsAt start.station)
      (usable : s.usable b.service = true) (reach : a.reach = start.reach) :
      ∃ c ∈ larger.boardingsAt a.station, b.Matches place c ∧ easier.usable c.service = true := by
    obtain ⟨c, boardedToo, same⟩ := embedded.exists_boarding sound.services_numbered
      soundToo.services_numbered boarded (congrArg Prod.fst reach)
    exact ⟨c, boardedToo, same,
      relaxed.usable_of_course (Timetable.mem_boardingsAt.mp boarded).1 same.course usable⟩
  cases explored with
  | direct begun boarded usable rode made =>
    obtain ⟨a, begunToo, reach⟩ := relaxed.exists_start begun
    obtain ⟨c, boardedToo, same, usableToo⟩ := boarding boarded usable reach
    obtain ⟨next, rodeToo, ride, reachToo⟩ := relaxed.exists_directRide? same rode
    obtain ⟨f, madeToo, inside⟩ :=
      Search.exists_direct found begunToo boardedToo usableToo rodeToo
    obtain ⟨_, _, -, -, rfl⟩ := Search.itinerary?_eq_some made
    obtain ⟨_, _, -, -, rfl⟩ := Search.itinerary?_eq_some madeToo
    have rides := List.Forall₂.cons ride List.Forall₂.nil
    exact ⟨_, inside (relaxed.passesVia_of_matches rides passes),
      relaxed.atLeastAsGood made madeToo reach reachToo ride ride rfl⟩
  | changing begun boarded usable rode arrived connected rodeOn made =>
    obtain ⟨a, begunToo, reach⟩ := relaxed.exists_start begun
    obtain ⟨c, boardedToo, same, usableToo⟩ := boarding boarded usable reach
    obtain ⟨ride, rodeToo, first⟩ := relaxed.exists_rideBefore same rode
    obtain ⟨part, changed, -⟩ :=
      Search.exists_changing? found begunToo boardedToo usableToo rodeToo
    obtain ⟨sooner, arrivedToo, -⟩ := Search.changing?_eq_some changed
    obtain ⟨onward, connectedToo, sameToo⟩ := relaxed.exists_connection embedded sound soundToo
      first (relaxed.ready_le first arrived arrivedToo) connected
    obtain ⟨next, rodeOnToo, second, reachToo⟩ := relaxed.exists_directRide? sameToo rodeOn
    obtain ⟨f, madeToo, inside⟩ := Search.exists_changing found begunToo boardedToo usableToo
      rodeToo arrivedToo connectedToo rodeOnToo
    obtain ⟨_, _, -, -, rfl⟩ := Search.itinerary?_eq_some made
    obtain ⟨_, _, -, -, rfl⟩ := Search.itinerary?_eq_some madeToo
    have rides := List.Forall₂.cons first (List.Forall₂.cons second List.Forall₂.nil)
    exact ⟨_, inside (relaxed.passesVia_of_matches rides passes),
      relaxed.atLeastAsGood made madeToo reach reachToo first second rfl⟩

end Search.RelaxedTo

namespace Itinerary

/-- Asking for less, or over a timetable that offers more, never makes the answer worse: each
itinerary that was kept is matched by one kept then that departs no earlier, arrives no later and
changes no more often. -/
theorem best_of_relaxed {file fileToo : TimetableFile} {tt larger : Timetable} {s easier : Search}
    {its others : List Itinerary} (loaded : (Timetable.ofFile file).value = .ok tt)
    (loadedToo : (Timetable.ofFile fileToo).value = .ok larger)
    (relaxed : s.RelaxedTo tt easier larger) (found : s.itineraries? tt = some its)
    (foundToo : easier.itineraries? larger = some others) :
    ∀ it ∈ best its, ∃ k ∈ best others, k.AtLeastAsGood it := by
  intro it kept
  obtain ⟨explored, passes⟩ := Search.explored_of_mem found (mem_of_mem_best kept)
  obtain ⟨f, mem, better⟩ := relaxed.exists_counterpart (Timetable.sound_of_ofFile loaded)
    (Timetable.sound_of_ofFile loadedToo) foundToo explored passes
  obtain ⟨k, keptToo, best⟩ := exists_best mem
  exact ⟨k, keptToo, best.trans better⟩

end Itinerary

/-! A traveller who leaves the bicycle at home and walks fast, over a network in which changes take
less time and a bus was added. -/
namespace Unburdened

def network (minChangeMinutes : Int64) (services : List ServiceRecord) : TimetableFile :=
  { Sample.file (Sample.morning 0) (Sample.morning 600)
      [Sample.station "A" 52000000, Sample.station "B" 52100000, Sample.station "D" 52200000]
      services with minChangeMinutes }

def bicycleBuses : List ServiceRecord :=
  [{ Sample.bus "1" [Sample.call "A" (Sample.morning 0), Sample.call "B" (Sample.morning 20)] with
      bikesAllowed := true },
    { Sample.bus "2" [Sample.call "B" (Sample.morning 30), Sample.call "D" (Sample.morning 60)] with
      bikesAllowed := true }]

def added : ServiceRecord :=
  Sample.bus "0" [Sample.call "A" (Sample.morning 5), Sample.call "D" (Sample.morning 40)]

/-- To a place that is a walk away from the last station. -/
def search (preferences : Preferences) (origin station : Place) : Search where
  origin := { location := origin.location, accesses := [.walking origin 300] }
  via := none
  destination := { location := station.location, accesses := [.walking station 500] }
  preferences := preferences

def cycling : Preferences :=
  { Preferences.none with walkSpeed := some .slow, flags := .ofList [.bike] }

def running : Preferences :=
  { Preferences.none with walkSpeed := some .fast }

theorem best_of_relaxed_unburdened :
    ∃ (tt larger : Timetable) (s easier : Search) (its others : List Itinerary),
      (Timetable.ofFile (network 5 bicycleBuses)).value = .ok tt ∧
      (Timetable.ofFile (network 2 (added :: bicycleBuses))).value = .ok larger ∧
      s.RelaxedTo tt easier larger ∧ s.itineraries? tt = some its ∧
      easier.itineraries? larger = some others ∧ (Itinerary.best its).length = 1 ∧
      ∀ it ∈ Itinerary.best its, ∃ k ∈ Itinerary.best others, k.AtLeastAsGood it := by
  have checked : ((Timetable.ofFile (network 5 bicycleBuses)).value.toOption.any fun tt =>
      (Timetable.ofFile (network 2 (added :: bicycleBuses))).value.toOption.any fun larger =>
        tt.places.any fun p => tt.places.any fun q =>
          larger.places.any fun p' => larger.places.any fun q' =>
            ((search cycling p q).itineraries? tt).any fun its =>
              ((search running p' q').itineraries? larger).any fun others =>
                decide ((search cycling p q).RelaxedTo tt (search running p' q') larger) &&
                  decide ((Itinerary.best its).length = 1)) = true := by
    cbv
  obtain ⟨tt, loaded, checked⟩ := exists_ok_of_any checked
  obtain ⟨larger, loadedToo, checked⟩ := exists_ok_of_any checked
  obtain ⟨p, -, checked⟩ := List.any_eq_true.mp checked
  obtain ⟨q, -, checked⟩ := List.any_eq_true.mp checked
  obtain ⟨p', -, checked⟩ := List.any_eq_true.mp checked
  obtain ⟨q', -, checked⟩ := List.any_eq_true.mp checked
  obtain ⟨its, found, checked⟩ := (Option.any_eq_true _ _).mp checked
  obtain ⟨others, foundToo, checked⟩ := (Option.any_eq_true _ _).mp checked
  obtain ⟨related, one⟩ := Bool.and_eq_true_iff.mp checked
  have relaxed := of_decide_eq_true related
  exact ⟨tt, larger, _, _, its, others, loaded, loadedToo, relaxed, found, foundToo,
    of_decide_eq_true one, Itinerary.best_of_relaxed loaded loadedToo relaxed found foundToo⟩

end Unburdened

end JourneyPlanner

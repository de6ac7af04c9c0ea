import JourneyPlanner.Json.Record
import JourneyPlanner.Location.Identity
import JourneyPlanner.Time.Text

set_option autoImplicit false

/-! What is asked for in a search for trips: the places, the time, and preferences. -/
namespace JourneyPlanner

inductive Goal where
  | leastDuration
  | leastChanges
  | leastWalking
  deriving DecidableEq, Repr

instance : Listed Goal where
  all := [.leastDuration, .leastChanges, .leastWalking]
  complete := by intro a; cases a <;> decide
  distinct := by decide

instance : Worded Goal where
  word
    | .leastDuration => "LEAST_DURATION"
    | .leastChanges => "LEAST_CHANGES"
    | .leastWalking => "LEAST_WALKING"

inductive WalkSpeed where
  | slow
  | normal
  | fast
  deriving DecidableEq, Repr, Inhabited

instance : Listed WalkSpeed where
  all := [.slow, .normal, .fast]
  complete := by intro a; cases a <;> decide
  distinct := by decide

instance : Worded WalkSpeed where
  word
    | .slow => "SLOW"
    | .normal => "NORMAL"
    | .fast => "FAST"

namespace WalkSpeed

def metersPerMinute : WalkSpeed → Nat
  | .slow => 60
  | .normal => 80
  | .fast => 100

/-- Minutes to walk so far; a begun minute counts whole. -/
def minutes (speed : WalkSpeed) (meters : UInt32) : Nat :=
  (meters.toNat + speed.metersPerMinute - 1) / speed.metersPerMinute

/-- Nanoseconds to walk so far. -/
def walkTime (speed : WalkSpeed) (meters : UInt32) : Int :=
  speed.minutes meters * Time.nanosPerMinute

/-- Walks take whole seconds. -/
theorem walkTime_eq (speed : WalkSpeed) (meters : UInt32) :
    speed.walkTime meters = 1000000000 * ((60 * speed.minutes meters : Nat) : Int) := by
  unfold walkTime Time.nanosPerMinute Time.nanosPerSecond
  omega

theorem walkTime_nonneg (speed : WalkSpeed) (meters : UInt32) : 0 ≤ speed.walkTime meters := by
  rw [walkTime_eq]
  omega

/-- Who is faster and walks no farther takes no longer, though begun minutes count whole. -/
theorem walkTime_le {slower faster : WalkSpeed} {meters farther : UInt32}
    (pace : slower.metersPerMinute ≤ faster.metersPerMinute) (near : meters ≤ farther) :
    faster.walkTime meters ≤ slower.walkTime farther := by
  rw [UInt32.le_iff_toNat_le] at near
  have minutes : faster.minutes meters ≤ slower.minutes farther := by
    unfold minutes
    cases slower <;> cases faster <;> simp only [metersPerMinute] at pace ⊢ <;> omega
  rw [walkTime_eq, walkTime_eq]
  omega

@[simp] theorem walkTime_zero (speed : WalkSpeed) : speed.walkTime 0 = 0 := by
  cases speed <;> rfl

end WalkSpeed

inductive Accessibility where
  | neutral
  | limited
  | barrierFree
  deriving DecidableEq, Repr

instance : Listed Accessibility where
  all := [.neutral, .limited, .barrierFree]
  complete := by intro a; cases a <;> decide
  distinct := by decide

instance : Worded Accessibility where
  word
    | .neutral => "NEUTRAL"
    | .limited => "LIMITED"
    | .barrierFree => "BARRIER_FREE"

/-- What the traveller takes along. -/
inductive TripFlag where
  | bike
  deriving DecidableEq, Repr

instance : Listed TripFlag where
  all := [.bike]
  complete := by intro a; cases a; decide
  distinct := by decide

instance : Worded TripFlag where
  word
    | .bike => "BIKE"

/-- What is not set is left to the network. -/
structure Preferences where
  /-- The products that may be used. -/
  products : Option (Selection Product)
  goal : Option Goal
  walkSpeed : Option WalkSpeed
  accessibility : Option Accessibility
  flags : Selection TripFlag
  deriving DecidableEq

namespace Preferences

def none : Preferences where
  products := .none
  goal := .none
  walkSpeed := .none
  accessibility := .none
  flags := .empty

/-- Where products are chosen, a line of unknown product is not among them. -/
def allows (p : Preferences) (product : Option Product) : Bool :=
  match p.products, product with
  | .none, _ => true
  | some allowed, some product => allowed.contains product
  | some _, .none => false

instance : Codec Preferences where
  encode p := .object [("products", encode p.products), ("optimize", encode p.goal),
    ("walk_speed", encode p.walkSpeed), ("accessibility", encode p.accessibility),
    ("flags", encode p.flags)]
  decode := Record.decode <|
    mk <$> .optional "products" <*> .optional "optimize" <*> .optional "walk_speed"
      <*> .optional "accessibility" <*> .defaulted "flags" .empty

end Preferences

/-- The time is one of departure or of arrival. -/
structure TripQuery where
  origin : Location
  via : Option Location
  destination : Location
  time : Instant
  departing : Bool
  preferences : Preferences

namespace TripQuery

def departingAt (origin destination : Location) (time : Instant) : TripQuery :=
  { origin, via := none, destination, time, departing := true, preferences := .none }

def arrivingBy (origin destination : Location) (time : Instant) : TripQuery :=
  { departingAt origin destination time with departing := false }

instance : BEq TripQuery := ⟨fun a b =>
  a.origin == b.origin && a.via == b.via && a.destination == b.destination && a.time == b.time &&
    a.departing == b.departing && a.preferences = b.preferences⟩

instance : Codec TripQuery where
  encode q := .object [("from", encode q.origin), ("via", encode q.via),
    ("to", encode q.destination), ("time", encode q.time), ("dep", encode q.departing),
    ("options", encode q.preferences)]
  decode := Record.decode <|
    mk <$> .required "from" <*> .optional "via" <*> .required "to" <*> .required "time"
      <*> .required "dep" <*> .defaulted "options" .none

end TripQuery

end JourneyPlanner

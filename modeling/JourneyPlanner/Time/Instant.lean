import JourneyPlanner.Time.Calendar

set_option autoImplicit false

/-!
Points in time with a resolution of a nanosecond, within the years that the calendar represents.
Moving an instant beyond them has no result. A leap second prolongs the last second of a minute:
it is not counted among the seconds, and its instants lie between those of two successive ones.
-/
namespace JourneyPlanner

namespace Time

def nanosPerSecond : Int := 1000000000

def nanosPerMinute : Int := 60 * nanosPerSecond

def secondsPerDay : Int := 86400

def leastYear : Int := -262143

def greatestYear : Int := 262142

/-- The first second of the first year. -/
def leastSecond : Int := -8334601228800

/-- The last second of the last year. -/
def greatestSecond : Int := 8210266876799

/-- The longest span of time, in milliseconds. -/
def greatestMillis : Int := 9223372036854775807

end Time

/-- A second, counted from the first of January 1970, and the nanoseconds since it began. From the
thousand millionth nanosecond on they belong to a leap second. -/
structure Instant where
  second : Int
  nanos : Nat
  inRange : Time.leastSecond ≤ second ∧ second ≤ Time.greatestSecond
  bounded : nanos < 2000000000
  leap : 1000000000 ≤ nanos → second % 60 = 59

namespace Instant

/-- The place among all instants: two thousand million of them begin in every second. -/
def rank (t : Instant) : Int :=
  2000000000 * t.second + t.nanos

theorem ext_rank {s t : Instant} (same : s.rank = t.rank) : s = t := by
  have bounded := s.bounded
  have otherBounded := t.bounded
  unfold rank at same
  have second : s.second = t.second := by omega
  have nanos : s.nanos = t.nanos := by omega
  cases s
  cases t
  cases second
  cases nanos
  rfl

instance : DecidableEq Instant := fun s t =>
  if same : s.rank = t.rank then isTrue (ext_rank same)
  else isFalse fun equal => same (by rw [equal])

instance : LE Instant := ⟨fun s t => s.rank ≤ t.rank⟩

instance : LT Instant := ⟨fun s t => s.rank < t.rank⟩

instance (s t : Instant) : Decidable (s ≤ t) := inferInstanceAs (Decidable (s.rank ≤ t.rank))

instance (s t : Instant) : Decidable (s < t) := inferInstanceAs (Decidable (s.rank < t.rank))

instance : Ord Instant := ⟨fun s t => compare s.rank t.rank⟩

/-- The first of January 1970. -/
def epoch : Instant := ⟨0, 0, by decide, by decide, by decide⟩

instance : Inhabited Instant := ⟨epoch⟩

def ofParts? (second : Int) (nanos : Nat) : Option Instant :=
  if inRange : Time.leastSecond ≤ second ∧ second ≤ Time.greatestSecond then
    if bounded : nanos < 2000000000 then
      if leap : 1000000000 ≤ nanos → second % 60 = 59 then
        some ⟨second, nanos, inRange, bounded, leap⟩
      else none
    else none
  else none

/-- The instant so many nanoseconds after the first of January 1970, leap seconds not counted. -/
def ofNanos? (nanos : Int) : Option Instant :=
  ofParts? (nanos / Time.nanosPerSecond) (nanos % Time.nanosPerSecond).toNat

/-- Nanoseconds since the first of January 1970. Earlier leap seconds are not counted, but the part
of the one in which the instant lies is. -/
def sinceEpoch (t : Instant) : Int :=
  t.second * Time.nanosPerSecond + t.nanos

def isLeap (t : Instant) : Bool :=
  1000000000 ≤ t.nanos

/-- The instant a span of nanoseconds later, or earlier if the span is negative. Of leap seconds
only the one in which the move begins is counted, and such a move ends in it if the span is
short. -/
def shift? (t : Instant) (span : Int) : Option Instant :=
  if t.isLeap then
    if span.natAbs < 1000000000 ∧ t.nanos + span < 2000000000 then
      ofParts? t.second (t.nanos + span).toNat
    else if 0 < span then ofNanos? (t.sinceEpoch - Time.nanosPerSecond + span)
    else ofNanos? (t.sinceEpoch + span)
  else ofNanos? (t.sinceEpoch + span)

/-- The second of the day in universal time. -/
def secondOfDay (t : Instant) : Int :=
  t.second % Time.secondsPerDay

/-- Nanoseconds from one instant to another. The leap second in which one of them lies is counted if
it comes earlier in its day than the other instant does in its own. -/
def spanTo (s t : Instant) : Int :=
  let counted :=
    if s.isLeap ∧ s.secondOfDay < t.secondOfDay then Time.nanosPerSecond
    else if t.isLeap ∧ t.secondOfDay < s.secondOfDay then -Time.nanosPerSecond
    else 0
  t.sinceEpoch - s.sinceEpoch + counted

def earlier (s t : Instant) : Instant :=
  if t < s then t else s

def later (s t : Instant) : Instant :=
  if s < t then t else s

theorem ofParts?_second_nanos (t : Instant) : ofParts? t.second t.nanos = some t := by
  unfold ofParts?
  rw [dif_pos t.inRange, dif_pos t.bounded, dif_pos t.leap]

end Instant

namespace Time

/-- A span of whole minutes, if it is not too long. -/
def minutes? (n : Int) : Option Int :=
  if n * 60 * 1000 ≤ greatestMillis ∧ -greatestMillis ≤ n * 60 * 1000 then some (n * nanosPerMinute)
  else none

/-- Whole milliseconds of a span, rounded toward zero. -/
def millis (span : Int) : Int :=
  span.tdiv 1000000

end Time

end JourneyPlanner

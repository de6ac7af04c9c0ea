import JourneyPlanner.Time.Instant
import JourneyPlanner.Text.Blank
import JourneyPlanner.Text.Digits
import JourneyPlanner.Json.Codec

set_option autoImplicit false

/-! Instants written and read as date, time of day and offset from universal time. -/
namespace JourneyPlanner

namespace Time

/-- Four digits; a year outside these has a sign. -/
def yearText (year : Int) : List Char :=
  if 0 ≤ year ∧ year ≤ 9999 then Text.paddedDigits 4 year.toNat
  else (if year < 0 then '-' else '+') :: Text.paddedDigits 4 year.natAbs

def dateText (date : Date) : List Char :=
  yearText date.year ++ '-' :: Text.paddedDigits 2 date.month ++ '-' ::
    Text.paddedDigits 2 date.day

/-- The fewest digits of three, six and nine that are exact, and none for a whole second. -/
def fractionText (nanos : Nat) : List Char :=
  if nanos = 0 then []
  else if nanos % 1000000 = 0 then '.' :: Text.paddedDigits 3 (nanos / 1000000)
  else if nanos % 1000 = 0 then '.' :: Text.paddedDigits 6 (nanos / 1000)
  else '.' :: Text.paddedDigits 9 nanos

/-- The time of day so many nanoseconds after a second of the day began. A leap second is the one
after the fifty-ninth. -/
def clockText (second nanos : Nat) : List Char :=
  Text.paddedDigits 2 (second / 3600) ++ ':' :: Text.paddedDigits 2 (second / 60 % 60) ++ ':' ::
    Text.paddedDigits 2 (second % 60 + nanos / 1000000000) ++ fractionText (nanos % 1000000000)

def skipBlank (cs : List Char) : List Char :=
  cs.dropWhile Text.isBlank

/-- A number of at least one digit and at most so many. -/
def readDigits (width : Nat) (cs : List Char) : Option (Nat × List Char) :=
  let run := (cs.take width).takeWhile Text.isDigit
  if run.isEmpty then none else some (Text.digitsValue run, cs.drop run.length)

/-- A number of one digit or two after white space. -/
def readPart (cs : List Char) : Option (Nat × List Char) :=
  readDigits 2 (skipBlank cs)

def expect? (c : Char) : List Char → Option (List Char)
  | d :: rest => if d = c then some rest else none
  | [] => none

/-- A mark after white space. -/
def readMark (c : Char) (cs : List Char) : Option (List Char) :=
  expect? c (skipBlank cs)

/-- A signed number of any length, or one of at most four digits. -/
def readYear (cs : List Char) : Option (Int × List Char) :=
  match skipBlank cs with
  | '+' :: rest => (readDigits rest.length rest).map fun read => ((read.1 : Int), read.2)
  | '-' :: rest => (readDigits rest.length rest).map fun read => (-(read.1 : Int), read.2)
  | rest => (readDigits 4 rest).map fun read => ((read.1 : Int), read.2)

/-- A date that exists, in a year that is represented. -/
def readDate (cs : List Char) : Option (Date × List Char) := do
  let (year, rest) ← readYear cs
  let rest ← readMark '-' rest
  let (month, rest) ← readPart rest
  let rest ← readMark '-' rest
  let (day, rest) ← readPart rest
  let date : Date := { year, month, day }
  if date.isValid && leastYear ≤ year && year ≤ greatestYear then return (date, rest) else none

/-- Digits after the ninth are dropped. -/
def readFraction : List Char → Option (Nat × List Char)
  | '.' :: rest =>
      let run := rest.takeWhile Text.isDigit
      if run.isEmpty then none
      else
        let nine := (run ++ List.replicate 9 '0').take 9
        some (Text.digitsValue nine, rest.dropWhile Text.isDigit)
  | cs => some (0, cs)

/-- The second of the day and the nanoseconds since it began. Every minute may have a sixtieth
second, a leap second. -/
def readClock (cs : List Char) : Option ((Nat × Nat) × List Char) := do
  let (hour, rest) ← readPart cs
  let rest ← readMark ':' rest
  let (minute, rest) ← readPart rest
  let rest ← readMark ':' rest
  let (second, rest) ← readPart rest
  let (fraction, rest) ← readFraction rest
  if hour < 24 && minute < 60 then
    if second < 60 then return (((hour * 60 + minute) * 60 + second, fraction), rest)
    else if second = 60 then
      return (((hour * 60 + minute) * 60 + 59, 1000000000 + fraction), rest)
    else none
  else none

def twoDigits? : List Char → Option (Nat × List Char)
  | a :: b :: rest => do
      let a ← Text.digitValue? a
      let b ← Text.digitValue? b
      return (10 * a + b, rest)
  | _ => none

/-- Minutes after a sign, less than a day. Colons and white space may part them from the hours. -/
def readOffset (cs : List Char) : Option (Int × List Char) := do
  let (hour, rest) ← twoDigits? cs
  let (minute, rest) ← twoDigits? (rest.dropWhile fun c => c = ':' || Text.isBlank c)
  if hour < 24 && minute < 60 then return (((hour * 60 + minute : Nat) : Int), rest) else none

/-- Minutes east of universal time. -/
def readZone : List Char → Option (Int × List Char)
  | c :: rest =>
      if c = 'Z' || c = 'z' then some (0, rest)
      else if c = '+' then readOffset rest
      else if c = '-' || c = '−' then (readOffset rest).map fun read => (-read.1, read.2)
      else if (c :: rest.take 2).map Char.toUpper = ['U', 'T', 'C'] then some (0, rest.drop 2)
      else none
  | [] => none

end Time

namespace Instant

def dayNumber (t : Instant) : Int :=
  t.second / Time.secondsPerDay

/-- The time of day in universal time. -/
def clock (t : Instant) : List Char :=
  Time.clockText t.secondOfDay.toNat t.nanos

def date (t : Instant) : Time.Date :=
  Time.Date.ofDays t.dayNumber

/-- Date and time in universal time, for exchange. -/
def text (t : Instant) : String :=
  String.ofList (Time.dateText t.date ++ 'T' :: t.clock ++ ['Z'])

/-- Date and time in universal time, for messages. -/
def display (t : Instant) : String :=
  String.ofList (Time.dateText t.date ++ ' ' :: t.clock) ++ " UTC"

/-- The whole text must be a date, a time of day and an offset. White space may stand around their
parts, though not directly behind the date. -/
def ofText? (text : String) : Option Instant := do
  let (date, rest) ← Time.readDate text.toList
  let rest ← match rest with
    | c :: rest => if c = 'T' || c = 't' || c = ' ' then some rest else none
    | [] => none
  let ((second, nanos), rest) ← Time.readClock rest
  let (offset, rest) ← Time.readZone (Time.skipBlank rest)
  if (Time.skipBlank rest).isEmpty then
    ofParts? (date.toDays * Time.secondsPerDay + second - offset * 60) nanos
  else none

instance : Codec Instant where
  encode t := .string t.text
  decode
    | .string text =>
        match ofText? text with
        | some t => .ok t
        | none => .error .malformed
    | _ => .error .malformed

end Instant

end JourneyPlanner

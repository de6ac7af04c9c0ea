import JourneyPlanner.Json.Basic
import JourneyPlanner.Number.Double

set_option autoImplicit false

/-!
JSON texts read as values, as far as they can be read. Nothing but white space may follow the
value. What is well formed and yet names no value is illegible: it is for those who look at it to
refuse it.
-/
namespace JourneyPlanner.Json

def isSpace (c : Char) : Bool :=
  c = ' ' || c = '\n' || c = '\t' || c = '\r'

def skipSpace (cs : List Char) : List Char :=
  cs.dropWhile isSpace

/-- The value of four hexadecimal digits. -/
def hexUnit? (a b c d : Char) : Option Nat := do
  let a ← Text.hexValue? a
  let b ← Text.hexValue? b
  let c ← Text.hexValue? c
  let d ← Text.hexValue? d
  return ((a * 16 + b) * 16 + c) * 16 + d

/-- The character that a letter after a backslash stands for. -/
def unescape? (c : Char) : Option Char :=
  if c = '"' || c = '\\' || c = '/' then some c
  else if c = 'b' then some '\x08'
  else if c = 'f' then some '\x0c'
  else if c = 'n' then some '\n'
  else if c = 'r' then some '\r'
  else if c = 't' then some '\t'
  else none

def isHighHalf (unit : Nat) : Bool :=
  0xD800 ≤ unit && unit < 0xDC00

def isLowHalf (unit : Nat) : Bool :=
  0xDC00 ≤ unit && unit < 0xE000

def joinHalves (high low : Nat) : Char :=
  Char.ofNat (0x10000 + (high - 0xD800) * 0x400 + (low - 0xDC00))

/-- Characters read, unless they are illegible, and the text after them. -/
abbrev Passage := Option (List Char) × List Char

def Passage.after (c : Char) (p : Passage) : Passage :=
  (p.1.map (c :: ·), p.2)

def Passage.spoilt (p : Passage) : Passage :=
  (none, p.2)

/-- The rest of a string after its opening quote, and what follows the closing one. Control
characters must be escaped. Halves of a character beyond the first plane are legible in pairs. -/
def readEscaped : List Char → Option Passage
  | [] => none
  | '"' :: rest => some (some [], rest)
  | '\\' :: 'u' :: a :: b :: c :: d :: rest =>
      match hexUnit? a b c d with
      | none => none
      | some unit =>
        if isHighHalf unit then
          match rest with
          | '\\' :: 'u' :: e :: f :: g :: h :: tail =>
            match (hexUnit? e f g h).filter isLowHalf with
            | some low => (readEscaped tail).map (Passage.after (joinHalves unit low))
            | none =>
              (readEscaped ('\\' :: 'u' :: e :: f :: g :: h :: tail)).map Passage.spoilt
          | other => (readEscaped other).map Passage.spoilt
        else if isLowHalf unit then (readEscaped rest).map Passage.spoilt
        else (readEscaped rest).map (Passage.after (Char.ofNat unit))
  | '\\' :: c :: rest =>
      match unescape? c with
      | none => none
      | some plain => (readEscaped rest).map (Passage.after plain)
  | c :: rest =>
      if c.toNat < 0x20 || c = '\\' then none
      else (readEscaped rest).map (Passage.after c)

/-- A string from its opening quote on, unless it is illegible, and what follows it. -/
def readString : List Char → Option (Option String × List Char)
  | '"' :: rest => (readEscaped rest).map fun read => (read.1.map String.ofList, read.2)
  | _ => none

/-- A run of at least one digit, and what follows it. -/
def readDigits (cs : List Char) : Option (List Char × List Char) :=
  let run := cs.takeWhile Text.isDigit
  if run.isEmpty then none else some (run, cs.dropWhile Text.isDigit)

/-- The whole part of a number has no leading zero. -/
def readWhole (cs : List Char) : Option (List Char × List Char) :=
  match readDigits cs with
  | some ('0' :: _ :: _, _) => none
  | read => read

def readFraction : List Char → Option (List Char × List Char)
  | '.' :: rest => (readDigits rest).map fun read => ('.' :: read.1, read.2)
  | cs => some ([], cs)

def readPower : List Char → Option (List Char × List Char)
  | c :: rest =>
      if c = 'e' || c = 'E' then
        match rest with
        | '+' :: tail => (readDigits tail).map fun read => (c :: '+' :: read.1, read.2)
        | '-' :: tail => (readDigits tail).map fun read => (c :: '-' :: read.1, read.2)
        | tail => (readDigits tail).map fun read => (c :: read.1, read.2)
      else some ([], c :: rest)
  | [] => some ([], [])

/-- The exponent after its letter, with an optional sign. -/
def powerValue : List Char → Int
  | _ :: '-' :: digits => -(Text.digitsValue digits : Int)
  | _ :: '+' :: digits => Text.digitsValue digits
  | _ :: digits => Text.digitsValue digits
  | [] => 0

/-- A whole number of 64 bits without a sign, or with one. Zero with a minus sign is none, since a
whole number has one text. -/
def wholeValue? (negative : Bool) (n : Nat) : Option Int :=
  if negative then if 0 < n ∧ n ≤ 9223372036854775808 then some (-n) else none
  else if n < 18446744073709551616 then some n else none

def numberOf (negative : Bool) (whole fraction power : List Char) : Json :=
  let exact :=
    if fraction.isEmpty && power.isEmpty then wholeValue? negative (Text.digitsValue whole)
    else none
  match exact with
  | some n => .int n
  | none =>
    match (Number.ofDigits? negative whole (fraction.drop 1) (powerValue power)).bind
        Number.shortest? with
    | some literal => .real literal
    | none => .illegible

def readNumber (cs : List Char) : Option (Json × List Char) := do
  let (negative, body) := match cs with
    | '-' :: rest => (true, rest)
    | _ => (false, cs)
  let (whole, afterWhole) ← readWhole body
  let (fraction, afterFraction) ← readFraction afterWhole
  let (power, rest) ← readPower afterFraction
  return (numberOf negative whole fraction power, rest)

/-- The fields of an object as far as they can be read, and whether these are all. -/
abbrev Fields := List (String × Json) × Bool

/-- The fields after a first one. If its name is illegible, nothing is read from there on. -/
def Fields.after (name : Option String) (value : Json) (later : Fields) : Fields :=
  match name with
  | some name => ((name, value) :: later.1, later.2)
  | none => ([], false)

def ofFields (fields : Fields) : Json :=
  if fields.2 then .object fields.1 else .fragment fields.1

mutual
/-- A value at the start of the text as far as it can be read, and the text after it unless the text
breaks off before. `fuel` bounds the steps. -/
def readValue : Nat → List Char → Json × Option (List Char)
  | 0, _ => (.illegible, none)
  | fuel + 1, cs =>
      match cs with
      | 'n' :: 'u' :: 'l' :: 'l' :: rest => (.null, some rest)
      | 't' :: 'r' :: 'u' :: 'e' :: rest => (.bool true, some rest)
      | 'f' :: 'a' :: 'l' :: 's' :: 'e' :: rest => (.bool false, some rest)
      | '"' :: rest =>
          match readString ('"' :: rest) with
          | some (text, tail) => (text.elim .illegible .string, some tail)
          | none => (.illegible, none)
      | '[' :: rest =>
          match skipSpace rest with
          | ']' :: tail => (.array [], some tail)
          | tail =>
            let (items, after) := readItems fuel tail
            (.array items, after)
      | '\x7b' :: rest =>
          match skipSpace rest with
          | '\x7d' :: tail => (.object [], some tail)
          | tail =>
            let (fields, after) := readFields fuel tail
            (ofFields fields, after)
      | _ =>
          match readNumber cs with
          | some (number, rest) => (number, some rest)
          | none => (.illegible, none)

/-- Items up to the closing bracket, at least one. If the text breaks off, the last is illegible. -/
def readItems : Nat → List Char → List Json × Option (List Char)
  | 0, _ => ([.illegible], none)
  | fuel + 1, cs =>
      match readValue fuel (skipSpace cs) with
      | (item, none) => ([item, .illegible], none)
      | (item, some afterItem) =>
        match skipSpace afterItem with
        | ']' :: rest => ([item], some rest)
        | ',' :: rest =>
          let (items, after) := readItems fuel rest
          (item :: items, after)
        | _ => ([item, .illegible], none)

/-- Fields up to the closing brace, at least one. -/
def readFields : Nat → List Char → Fields × Option (List Char)
  | 0, _ => (([], false), none)
  | fuel + 1, cs =>
      match readString (skipSpace cs) with
      | none => (([], false), none)
      | some (name, afterName) =>
        match skipSpace afterName with
        | ':' :: afterColon =>
          match readValue fuel (skipSpace afterColon) with
          | (value, none) => (Fields.after name value ([], false), none)
          | (value, some afterValue) =>
            match skipSpace afterValue with
            | '\x7d' :: rest => (Fields.after name value ([], true), some rest)
            | ',' :: rest =>
              let (later, after) := readFields fuel rest
              (Fields.after name value later, after)
            | _ => (Fields.after name value ([], false), none)
        | _ => (([], false), none)
end

/-- The value of a text as far as it can be read, and whether the text holds nothing else. Every
step of reading takes at least one character of every two it is allowed. -/
def parse (text : String) : Json × Bool :=
  let cs := text.toList
  match readValue (2 * cs.length + 1) (skipSpace cs) with
  | (value, some rest) => (value, (skipSpace rest).isEmpty)
  | (value, none) => (value, false)

end JourneyPlanner.Json

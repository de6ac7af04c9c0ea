import JourneyPlanner.Number.Binary
import JourneyPlanner.Number.Fixed
import JourneyPlanner.Text.Digits

set_option autoImplicit false

/-!
Floating-point numbers read from the digits of a number text, by way of a whole number of 64 bits,
and written with the fewest digits that stand for them.
-/
namespace JourneyPlanner.Number

/-- Digits are taken as long as the number fits into 64 bits. The number, and the digits left. -/
def takeDigits : Nat → List Char → Nat × List Char
  | n, [] => (n, [])
  | n, c :: cs =>
      let next := 10 * n + (Text.digitValue? c).getD 0
      if next < 18446744073709551616 then takeDigits next cs else (n, c :: cs)

/-- The number times ten to the power `exponent`, unless that is out of range. -/
def timesPowerOfTen (x : Float) (exponent : Int) : Option Float :=
  if -308 ≤ exponent ∧ exponent ≤ 308 then
    let power := Float.ofScientific 1 false exponent.natAbs
    let scaled := if 0 ≤ exponent then x * power else x / power
    if scaled.isInf then none else some scaled
  else if x == 0.0 then some x
  else if 0 < exponent then none
  else timesPowerOfTen (x / 1e308) (exponent + 308)
termination_by exponent.natAbs
decreasing_by omega

/-- The number of a whole part, a part after the point and a power of ten. Digits that find no room
count by their place alone, and after the point not at all. -/
def ofDigits? (negative : Bool) (whole part : List Char) (power : Int) : Option Float :=
  let (head, dropped) := takeDigits 0 whole
  let (taken, unread) := takeDigits head part
  let places : Int := dropped.length - (part.length - unread.length : Nat)
  (timesPowerOfTen (Float.ofNat taken) (places + power)).map fun size =>
    if negative then -size else size

def timesTens (value : Rat) (exponent : Int) : Rat :=
  let power : Nat := Nat.pow 10 exponent.natAbs
  if exponent < 0 then value / power else value * power

/-- The greatest power of ten that is not above a positive number. -/
def magnitude (value : Rat) : Int :=
  let estimate : Int :=
    ((Text.digits value.num.natAbs).length : Int) - (Text.digits value.den).length
  if timesTens value (-estimate) < 1 then estimate - 1 else estimate

/-- Where the numbers end that are nearer to a positive number, whose bits are given too, than to
the floating-point numbers before and after it. -/
def halfway (bits : Nat) (value : Rat) : Rat × Rat :=
  let before := (rational? (Float.ofBits (bits - 1).toUInt64)).getD 0
  let after := (rational? (Float.ofBits (bits + 1).toUInt64)).getD (2 * value - before)
  ((before + value) / 2, (value + after) / 2)

/-- Whether a number is read as the one with these bits. A tie goes to the even bits. -/
def readsAs (bits : Nat) (value candidate : Rat) : Bool :=
  let (low, high) := halfway bits value
  if bits % 2 = 0 then low ≤ candidate && candidate ≤ high
  else low < candidate && candidate < high

/-- The two numbers of so many digits around a positive number, the nearer one first, each as a
whole number and the power of ten to take it times. -/
def neighbours (value : Rat) (count : Nat) : List (Nat × Int) :=
  let exponent := magnitude value + 1 - count
  let scaled := timesTens value (-exponent)
  let below := scaled.num.natAbs / scaled.den
  let nearest := roundHalfEven scaled.num.natAbs scaled.den
  [nearest, 2 * below + 1 - nearest].map fun digits =>
    if digits % 10 = 0 then (digits / 10, exponent + 1) else (digits, exponent)

/-- The fewest digits that are read as a positive number; seventeen are always enough. -/
def fewestDigits (bits : Nat) (value : Rat) : Nat × Int :=
  let candidates := (List.range 17).flatMap fun count => neighbours value (count + 1)
  (candidates.find? fun c => readsAs bits value (timesTens c.1 c.2)).getD (0, 0)

/-- Digits with a point before or among or behind them, or a power of ten if the point is far. -/
def pointed (digits : List Char) (exponent : Int) : List Char :=
  let point : Int := digits.length + exponent
  if 0 ≤ exponent ∧ point ≤ 16 then digits ++ List.replicate exponent.natAbs '0' ++ ['.', '0']
  else if 0 < point ∧ point ≤ 16 then
    digits.take point.natAbs ++ '.' :: digits.drop point.natAbs
  else if -5 < point ∧ point ≤ 0 then
    '0' :: '.' :: List.replicate point.natAbs '0' ++ digits
  else
    let fraction := if digits.length ≤ 1 then [] else '.' :: digits.drop 1
    let sign := if point < 1 then '-' else '+'
    digits.take 1 ++ fraction ++ 'e' :: sign :: Text.digits (point - 1).natAbs

/-- The shortest text of a number, with a point or a power of ten. Only a finite number has one. -/
def shortest? (x : Float) : Option String :=
  (rational? x).map fun value =>
    let sign := if x.toBits.toNat / signBit == 1 then ['-'] else []
    let size := if value < 0 then -value else value
    if size = 0 then String.ofList (sign ++ ['0', '.', '0'])
    else
      let (digits, exponent) := fewestDigits x.abs.toBits.toNat size
      String.ofList (sign ++ pointed (Text.digits digits) exponent)

end JourneyPlanner.Number

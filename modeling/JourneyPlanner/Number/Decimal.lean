import JourneyPlanner.Text.Digits

set_option autoImplicit false

/-! Decimal texts read as floating-point numbers. -/
namespace JourneyPlanner.Number

/-- A sign in front, and the rest. -/
def splitSign : List Char → Bool × List Char
  | '-' :: rest => (true, rest)
  | '+' :: rest => (false, rest)
  | whole => (false, whole)

def readExponent? : List Char → Option Int
  | [] => some 0
  | mark :: rest =>
      if mark = 'e' || mark = 'E' then
        let (negative, body) := splitSign rest
        if body.isEmpty || !body.all Text.isDigit then none
        else some (if negative then -(Text.digitsValue body : Int) else Text.digitsValue body)
      else none

/-- A number this far below one rounds to zero, this far above one to infinity. -/
def exponentBound : Int := 400

/-- `mantissa` times ten to the power `exponent`, rounded to the nearest floating-point number. -/
def decimalFloat (mantissa : Nat) (exponent : Int) : Float :=
  let size : Int := (Text.digits mantissa).length
  if mantissa = 0 || exponent + size < -exponentBound then 0.0
  else if exponentBound < exponent + size then 1.0 / 0.0
  else Float.ofScientific mantissa (exponent < 0) exponent.natAbs

def readMagnitude? (body : List Char) : Option Float :=
  let whole := body.takeWhile Text.isDigit
  let afterWhole := body.dropWhile Text.isDigit
  let (part, tail) := match afterWhole with
    | '.' :: rest => (rest.takeWhile Text.isDigit, rest.dropWhile Text.isDigit)
    | _ => ([], afterWhole)
  if whole.isEmpty && part.isEmpty then none
  else (readExponent? tail).map fun exponent =>
    decimalFloat (Text.digitsValue (whole ++ part)) (exponent - part.length)

/-- A decimal number with optional sign, fraction and exponent, or a word for an infinity or for
the undefined number in letters of either case. -/
def readFloat? (text : String) : Option Float :=
  let (negative, body) := splitSign text.toList
  let word := String.ofList (body.map Char.toLower)
  let size :=
    if word = "inf" || word = "infinity" then some (1.0 / 0.0)
    else if word = "nan" then some (0.0 / 0.0)
    else readMagnitude? body
  size.map fun x => if negative then -x else x

end JourneyPlanner.Number

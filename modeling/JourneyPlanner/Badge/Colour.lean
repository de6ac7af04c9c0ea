import JourneyPlanner.Json.Codec
import JourneyPlanner.Number.Binary
import JourneyPlanner.Text.Digits
import JourneyPlanner.Text.Quoted

set_option autoImplicit false

/-! Colours with transparency, and their text: a hash sign and two hexadecimal digits a channel. -/
namespace JourneyPlanner

structure Colour where
  alpha : UInt8
  red : UInt8
  green : UInt8
  blue : UInt8
  deriving DecidableEq, Repr

inductive ColourError where
  | invalid (text : String)
  deriving DecidableEq, Repr

def ColourError.message : ColourError → String
  | .invalid text => "invalid colour: " ++ Text.quoted text

namespace Colour

def solid (red green blue : UInt8) : Colour :=
  ⟨0xFF, red, green, blue⟩

def black : Colour := solid 0 0 0
def darkGray : Colour := solid 0x44 0x44 0x44
def gray : Colour := solid 0x88 0x88 0x88
def white : Colour := solid 0xFF 0xFF 0xFF
def pureRed : Colour := solid 0xFF 0 0
def pureBlue : Colour := solid 0 0 0xFF

/-- The four channels as one number. -/
def argb (c : Colour) : UInt32 :=
  c.alpha.toUInt32 <<< 24 ||| c.red.toUInt32 <<< 16 ||| c.green.toUInt32 <<< 8 ||| c.blue.toUInt32

def channelText (channel : UInt8) : List Char :=
  [Text.hexDigit (channel.toNat / 16), Text.hexDigit (channel.toNat % 16)]

/-- The channel that two hexadecimal digits write. -/
def channel? (high low : Char) : Option UInt8 := do
  let high ← Text.hexValue? high
  let low ← Text.hexValue? low
  return UInt8.ofNat (high * 16 + low)

/-- A colour that is not transparent at all leaves out its alpha. -/
def chars (c : Colour) : List Char :=
  let rgb := channelText c.red ++ channelText c.green ++ channelText c.blue
  '#' :: if c.alpha = 0xFF then rgb else channelText c.alpha ++ rgb

def text (c : Colour) : String :=
  String.ofList c.chars

/-- The text marked as that of a colour. -/
def description (c : Colour) : String :=
  "Color(" ++ c.text ++ ")"

def ofChars? : List Char → Option Colour
  | ['#', a, b, c, d, e, f] => do
      return solid (← channel? a b) (← channel? c d) (← channel? e f)
  | ['#', a, b, c, d, e, f, g, h] => do
      return ⟨← channel? a b, ← channel? c d, ← channel? e f, ← channel? g h⟩
  | _ => none

/-- Six digits write an opaque colour, eight begin with its alpha. -/
def ofText (text : String) : Except ColourError Colour :=
  match ofChars? text.toList with
  | some c => .ok c
  | none => .error (.invalid text)

/-- Channels weighted as the eye does, from zero up to one. -/
def brightness (c : Colour) : Float32 :=
  (0.299 * c.red.toFloat32 + 0.587 * c.green.toFloat32 + 0.114 * c.blue.toFloat32) / 256.0

/-- White on dark colours, black on light ones. -/
def contrasting (c : Colour) : Colour :=
  if c.brightness < 0.5 then white else black

instance : Codec Colour where
  encode c := .string c.text
  decode
    | .string text => Json.checked ColourError.message (ofText text)
    | _ => .error .malformed

end Colour

end JourneyPlanner

import JourneyPlanner.Badge.Colour
import JourneyPlanner.Json.Record
import JourneyPlanner.Product

set_option autoImplicit false

/-! How the badge of a line is drawn: its outline and colours. -/
namespace JourneyPlanner

inductive Shape where
  | rect
  | rounded
  | circle
  deriving DecidableEq, Repr

instance : Listed Shape where
  all := [.rect, .rounded, .circle]
  complete := by intro a; cases a <;> decide
  distinct := by decide

instance : Worded Shape where
  word
    | .rect => "RECT"
    | .rounded => "ROUNDED"
    | .circle => "CIRCLE"

structure Badge where
  shape : Shape
  background : Colour
  /-- The other half of a split badge. -/
  background2 : Option Colour
  foreground : Colour
  border : Option Colour
  deriving DecidableEq, Repr

namespace Badge

/-- A rounded badge of one colour. -/
def plain (background foreground : Colour) : Badge where
  shape := .rounded
  background := background
  background2 := none
  foreground := foreground
  border := none

/-- A rounded badge whose text stands out from its background. -/
def ofBackground (background : Colour) : Badge :=
  plain background background.contrasting

def withShape (b : Badge) (shape : Shape) : Badge :=
  { b with shape := shape }

def withBorder (b : Badge) (border : Colour) : Badge :=
  { b with border := some border }

def withBackground2 (b : Badge) (background2 : Colour) : Badge :=
  { b with background2 := some background2 }

def hasBorder (b : Badge) : Bool :=
  b.border.isSome

/-- The badge of a product where the network has none of its own. -/
def standard : Option Product → Badge
  | some .highSpeedTrain =>
      ((plain .white .pureRed).withShape .rect).withBorder .pureRed
  | some .regionalTrain => (plain .gray .white).withShape .rect
  | some .suburbanTrain => (plain (.solid 0x00 0x6E 0x34) .white).withShape .circle
  | some .subway => (plain (.solid 0x00 0x30 0x90) .white).withShape .rect
  | some .tram => (plain (.solid 0xCC 0x00 0x00) .white).withShape .rect
  | some .bus => plain (.solid 0x99 0x33 0x99) .white
  | some .onDemand => plain (.solid 0x00 0x69 0x5C) .white
  | some .ferry => (plain .pureBlue .white).withShape .circle
  | some .cablecar | none => plain .darkGray .white

instance : Codec Badge where
  encode b := .object (
    ("shape", encode b.shape) :: ("background", encode b.background) ::
      Json.present "background2" b.background2 ++ ("foreground", encode b.foreground) ::
      Json.present "border" b.border)
  decode := Record.decode <|
    mk <$> .defaulted "shape" .rounded <*> .required "background"
      <*> .defaulted "background2" none <*> .required "foreground" <*> .defaulted "border" none

end Badge

end JourneyPlanner

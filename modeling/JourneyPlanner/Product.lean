import JourneyPlanner.Json.Codec
import JourneyPlanner.Text.Quoted

set_option autoImplicit false

/-! Kinds of public transport, each with a one-letter code. -/
namespace JourneyPlanner

inductive Product where
  | highSpeedTrain
  | regionalTrain
  | suburbanTrain
  | subway
  | tram
  | bus
  | ferry
  | cablecar
  | onDemand
  deriving DecidableEq, Repr

/-- No product has this code. -/
structure UnknownCode where
  code : Char
  deriving DecidableEq, Repr

def UnknownCode.message (e : UnknownCode) : String :=
  "unknown product code: " ++ Text.quotedChar e.code

namespace Product

instance : Listed Product where
  all := [.highSpeedTrain, .regionalTrain, .suburbanTrain, .subway, .tram, .bus, .ferry, .cablecar,
    .onDemand]
  complete := by intro a; cases a <;> decide
  distinct := by decide

instance : Worded Product where
  word
    | .highSpeedTrain => "HIGH_SPEED_TRAIN"
    | .regionalTrain => "REGIONAL_TRAIN"
    | .suburbanTrain => "SUBURBAN_TRAIN"
    | .subway => "SUBWAY"
    | .tram => "TRAM"
    | .bus => "BUS"
    | .ferry => "FERRY"
    | .cablecar => "CABLECAR"
    | .onDemand => "ON_DEMAND"

/-- Products in the order in which they are listed. -/
def rank : Product → Nat
  | .highSpeedTrain => 0
  | .regionalTrain => 1
  | .suburbanTrain => 2
  | .subway => 3
  | .tram => 4
  | .bus => 5
  | .ferry => 6
  | .cablecar => 7
  | .onDemand => 8

instance : Ord Product := ⟨fun a b => compare a.rank b.rank⟩

def code : Product → Char
  | .highSpeedTrain => 'I'
  | .regionalTrain => 'R'
  | .suburbanTrain => 'S'
  | .subway => 'U'
  | .tram => 'T'
  | .bus => 'B'
  | .ferry => 'F'
  | .cablecar => 'C'
  | .onDemand => 'P'

def ofCode (c : Char) : Except UnknownCode Product :=
  match (Listed.all : List Product).find? (fun p => p.code = c) with
  | some p => .ok p
  | none => .error ⟨c⟩

theorem ofCode_code (p : Product) : ofCode p.code = .ok p := by
  cases p <;> rfl

/-- The first unknown code is reported. -/
def ofCodes (text : String) : Except UnknownCode (Selection Product) :=
  (text.toList.mapM ofCode).map Selection.ofList

/-- The codes of the products, in the order given. -/
def codes (products : List Product) : String :=
  String.ofList (products.map code)

/-- What a network runs unless it says otherwise. -/
def allButHighSpeed : Selection Product :=
  Selection.ofList ((Listed.all : List Product).filter (· ≠ .highSpeedTrain))

end Product

end JourneyPlanner

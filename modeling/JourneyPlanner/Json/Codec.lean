import JourneyPlanner.Json.Basic
import JourneyPlanner.Selection

set_option autoImplicit false

/-!
JSON forms of values. Decoding fails when the JSON has another shape than the form asks for, or
when the value would break a rule of its type; then the rule's own message is kept.
-/
namespace JourneyPlanner

inductive DecodeError where
  /-- The JSON is not of the shape asked for. -/
  | malformed
  /-- The value breaks a rule of its type. -/
  | invalid (rule : String)
  deriving DecidableEq, Repr

/-- A broken rule is named; a wrong shape is not described further. -/
def DecodeError.reason : DecodeError → String
  | .malformed => "..."
  | .invalid rule => rule

abbrev Decoded (α : Type) := Except DecodeError α

/-- The JSON form of a type: how its values are written and read. -/
class Codec (α : Type) where
  encode : α → Json
  decode : Json → Decoded α

export Codec (encode decode)

namespace Json

/-- A value that a rule refuses is an invalid one, under the rule's message. -/
def checked {ε α : Type} (message : ε → String) : Except ε α → Decoded α
  | .ok a => .ok a
  | .error e => .error (.invalid (message e))

def asInt (least most : Int) : Json → Decoded Int
  | .int n => if least ≤ n ∧ n ≤ most then .ok n else .error .malformed
  | _ => .error .malformed

def decodeItems {α : Type} [Codec α] : List Json → Decoded (List α)
  | [] => .ok []
  | item :: items => do
      let a ← decode item
      let rest ← decodeItems items
      return a :: rest

/-- A field that is written only when it holds something. -/
def present {α : Type} [Codec α] (name : String) : Option α → List (String × Json)
  | some a => [(name, encode a)]
  | none => []

end Json

instance : Codec Bool where
  encode := .bool
  decode
    | .bool value => .ok value
    | _ => .error .malformed

instance : Codec String where
  encode := .string
  decode
    | .string text => .ok text
    | _ => .error .malformed

/-- A value that is wanted whole nests at most this deep. -/
def Json.depthLimit : Nat := 127

instance : Codec Json where
  encode := id
  decode json :=
    if json.isLegible && json.depth ≤ Json.depthLimit then .ok json else .error .malformed

instance : Codec Int32 where
  encode n := .int n.toInt
  decode json := (json.asInt (-2147483648) 2147483647).map Int32.ofInt

instance : Codec Int64 where
  encode n := .int n.toInt
  decode json := (json.asInt (-9223372036854775808) 9223372036854775807).map Int64.ofInt

instance : Codec UInt32 where
  encode n := .int n.toNat
  decode json := (json.asInt 0 4294967295).map fun n => UInt32.ofNat n.toNat

instance : Codec UInt64 where
  encode n := .int n.toNat
  decode json := (json.asInt 0 18446744073709551615).map fun n => UInt64.ofNat n.toNat

/-- An absent value is written as null. -/
instance {α : Type} [Codec α] : Codec (Option α) where
  encode
    | some a => encode a
    | none => .null
  decode
    | .null => .ok none
    | json => (decode json).map some

instance {α : Type} [Codec α] : Codec (List α) where
  encode as := .array (as.map encode)
  decode
    | .array items => Json.decodeItems items
    | _ => .error .malformed

/-- A kind each of whose values has a word of its own. -/
class Worded (α : Type) where
  word : α → String

export Worded (word)

/-- A word is written as a text, or as an object whose only field has that name and is null. -/
def Json.word? : Json → Option String
  | .string text => some text
  | .object [(name, .null)] => some name
  | _ => none

instance {α : Type} [Listed α] [Worded α] : Codec α where
  encode a := .string (word a)
  decode json :=
    match json.word?.bind fun text => (Listed.all : List α).find? fun a => word a = text with
    | some a => .ok a
    | none => .error .malformed

/-- A selection is written as the list of its members; in reading, order and repetition are free. -/
instance {α : Type} [DecidableEq α] [Listed α] [Codec α] : Codec (Selection α) where
  encode s := encode s.members
  decode json := (decode json : Decoded (List α)).map Selection.ofList

end JourneyPlanner

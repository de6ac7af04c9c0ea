import JourneyPlanner.Json.Codec
import JourneyPlanner.Json.Parser
import JourneyPlanner.Json.Printer

set_option autoImplicit false

/-!
Values written as the text of a JSON document, and documents read as values. Only what the value
needs of a document has to be legible.
-/
namespace JourneyPlanner

def encodeText {α : Type} [Codec α] (a : α) : String :=
  (encode a).render

/-- A text that is no JSON is malformed, unless a rule is broken before the text breaks off. -/
def decodeText (α : Type) [Codec α] (text : String) : Decoded α :=
  let (json, whole) := Json.parse text
  match decode json with
  | .error e => .error e
  | .ok a => if whole then .ok a else .error .malformed

namespace Json

/-- What stands for a byte of no character: illegible in a string, and malformed anywhere else. The
letter in front keeps it apart from a backslash and from the other half of a character. -/
def strayByte : List Char :=
  ['x', '\\', 'u', 'd', 'c', '0', '0']

/-- The characters from a position on, in at most so many steps. -/
def charsFrom (bytes : ByteArray) : Nat → Nat → List Char
  | 0, _ => []
  | steps + 1, position =>
      if position < bytes.size then
        match bytes.utf8DecodeChar? position with
        | some c => c :: charsFrom bytes steps (position + c.utf8Size)
        | none => strayByte ++ charsFrom bytes steps (position + 1)
      else []

def textOfBytes (bytes : ByteArray) : String :=
  match String.fromUTF8? bytes with
  | some text => text
  | none => String.ofList (charsFrom bytes bytes.size 0)

end Json

def decodeBytes (α : Type) [Codec α] (bytes : ByteArray) : Decoded α :=
  decodeText α (Json.textOfBytes bytes)

end JourneyPlanner

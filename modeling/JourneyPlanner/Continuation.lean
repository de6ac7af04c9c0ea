import JourneyPlanner.Base64Url
import JourneyPlanner.Json.Document
import JourneyPlanner.Json.Record
import JourneyPlanner.Network
import JourneyPlanner.Text.Blank

set_option autoImplicit false

/-!
What a page of trips carries so that the pages before and after it can be asked for. The payload
belongs to the provider that made the page; to all others it is a text.
-/
namespace JourneyPlanner

inductive ContinuationError where
  /-- The payload is not what the provider put there. -/
  | payload (error : DecodeError)
  | missingPayload
  /-- The token has characters or bits that no token has. -/
  | token
  /-- The token is not that of a continuation. -/
  | tokenContent (error : DecodeError)
  deriving DecidableEq, Repr

namespace ContinuationError

def message : ContinuationError → String
  | .payload error => "corrupted context payload: " ++ error.reason
  | .missingPayload => "context has no payload"
  | .token => "malformed context token: ..."
  | .tokenContent error => "malformed context token: " ++ error.reason

end ContinuationError

structure Continuation where
  network : NetworkId
  earlier : Bool
  later : Bool
  payload : Option String
  deriving DecidableEq, Repr

namespace Continuation

/-- No page before and none after. -/
def terminal (network : NetworkId) : Continuation where
  network := network
  earlier := false
  later := false
  payload := none

/-- Where neither direction is allowed the payload is dropped. -/
def ofPayload (network : NetworkId) (earlier later : Bool) (payload : Json) : Continuation :=
  if !earlier && !later then terminal network
  else { network, earlier, later, payload := some payload.render }

def allows (c : Continuation) (later : Bool) : Bool :=
  if later then c.later else c.earlier

def isTerminal (c : Continuation) : Bool :=
  !c.earlier && !c.later

/-- The directions allowed, in one word. -/
def state (c : Continuation) : String :=
  match c.earlier, c.later with
  | true, true => "CanEarlierAndLater"
  | true, false => "EarlierOnly"
  | false, true => "LaterOnly"
  | false, false => "Terminal"

/-- The continuation without its payload. -/
def description (c : Continuation) : String :=
  "TripsContext \x7b network: " ++ c.network.description ++ ", state: " ++ c.state ++ ", .. \x7d"

def payloadAs (α : Type) [Codec α] (c : Continuation) : Except ContinuationError α :=
  match c.payload with
  | none => .error .missingPayload
  | some text => (decodeText α text).mapError .payload

instance : Codec Continuation where
  encode c := .object (
    [("network", encode c.network), ("earlier", encode c.earlier), ("later", encode c.later)] ++
      Json.present "payload" c.payload)
  decode := Record.decode <|
    mk <$> .required "network" <*> .required "earlier" <*> .required "later"
      <*> .defaulted "payload" none

def tokenChars (c : Continuation) : List Char :=
  Base64Url.write (encodeText c).toUTF8.toList

/-- The continuation in characters that may stand in an address. -/
def token (c : Continuation) : String :=
  String.ofList c.tokenChars

/-- White space around a token does not matter. -/
def ofToken (token : String) : Except ContinuationError Continuation :=
  match Base64Url.read? (Text.trimChars token.toList) with
  | none => .error .token
  | some bytes =>
      (decodeBytes Continuation (ByteArray.mk bytes.toArray)).mapError .tokenContent

end Continuation

end JourneyPlanner

import JourneyPlanner.Json.Document
import JourneyPlanner.Log
import JourneyPlanner.Settings

set_option autoImplicit false

/-!
Requests to the address of a network. How a request is carried is left to whoever asks; here are
the address, the credential's form, and what becomes of an answer.
-/
namespace JourneyPlanner

inductive TransportError where
  | http (detail : String)
  | json (message : String) (body : Option String)
  | api (status : UInt16) (message : String)
  | unauthorized
  | rateLimited
  | config (message : String)
  deriving DecidableEq, Repr

namespace TransportError

/-- The body of the answer, if it is known. -/
def bodyText : Option String → String
  | some body => " (body: " ++ body ++ ")"
  | none => ""

def message : TransportError → String
  | .http detail => "HTTP error: " ++ detail
  | .json message body => "JSON parse error: " ++ message ++ bodyText body
  | .api status message => "API error " ++ toString status.toNat ++ ": " ++ message
  | .unauthorized => "unauthorized (invalid API credential)"
  | .rateLimited => "rate limited by backend"
  | .config message => "invalid configuration: " ++ message

/-- What is told along with a response that could not be had. -/
def diagnostic (e : TransportError) : String :=
  e.message

end TransportError

/-- Carries a request to an address and brings back the text of the answer, or why there is none. -/
abbrev Carrier := String → Except String String

structure Transport where
  baseUrl : String
  authorization : Option String
  deriving DecidableEq, Repr

namespace Transport

/-- A credential has no control characters but the tab. -/
def isCredential (text : String) : Bool :=
  text.toList.all fun c => (0x20 ≤ c.toNat && c.toNat ≠ 0x7F) || c = '\t'

def withoutLeadingSlashes (text : String) : String :=
  String.ofList (text.toList.dropWhile (· = '/'))

def withoutTrailingSlashes (text : String) : String :=
  String.ofList (text.toList.reverse.dropWhile (· = '/')).reverse

/-- `own` is the address unless the settings give another. -/
def ofSettings (settings : Settings) (own : String) : Except TransportError Transport :=
  if settings.authorization.all isCredential then
    .ok { baseUrl := withoutTrailingSlashes (settings.endpointOr own),
          authorization := settings.authorization }
  else .error (.config "invalid API credential format")

def url (t : Transport) (path : String) : String :=
  t.baseUrl ++ "/" ++ withoutLeadingSlashes path

/-- So much of an unreadable answer is kept. -/
def excerptLength : Nat := 500

/-- What lies under a path, as a value. -/
def get (α : Type) [Codec α] (carrier : Carrier) (t : Transport) (path : String) :
    Logged (Except TransportError α) := do
  let url := t.url path
  Logged.report .trace "GET" [("url", url)]
  match carrier url with
  | .error detail => do
      Logged.report .warn "request failed" [("url", url), ("error", detail)]
      return .error (.http detail)
  | .ok body =>
      match decodeText α body with
      | .ok a => return .ok a
      | .error e =>
          let excerpt := String.ofList (body.toList.take excerptLength)
          return .error (.json e.reason (some excerpt))

end Transport

end JourneyPlanner

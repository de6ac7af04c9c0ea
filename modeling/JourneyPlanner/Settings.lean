import JourneyPlanner.Json.Record
import JourneyPlanner.Text.Blank
import JourneyPlanner.Text.Quoted

set_option autoImplicit false

/-! Settings of a provider, given as values or read from named variables. -/
namespace JourneyPlanner

/-- A variable whose value is no number of the size it should have. -/
structure SettingsError where
  variableName : String
  value : String
  deriving DecidableEq, Repr

def SettingsError.message (e : SettingsError) : String :=
  "invalid value for " ++ e.variableName ++ ": " ++ Text.quoted e.value

structure Settings where
  /-- An address in place of the provider's own. -/
  endpoint : Option String
  /-- A secret, which is neither written nor described. -/
  authorization : Option String
  /-- Seconds to wait for an answer; zero stands for the usual. -/
  timeout : UInt64
  tripsPerPage : UInt32
  deriving DecidableEq

namespace Settings

def usualTimeout : UInt64 := 30

def usual : Settings where
  endpoint := none
  authorization := none
  timeout := usualTimeout
  tripsPerPage := 6

/-- Never zero. -/
def timeoutMillis (s : Settings) : Nat :=
  1000 * (if s.timeout = 0 then usualTimeout.toNat else s.timeout.toNat)

def endpointOr (s : Settings) (own : String) : String :=
  s.endpoint.getD own

/-- A variable that is set to something other than white space. -/
def setting? (lookup : String → Option String) (name : String) : Option String :=
  (lookup name).filter fun value => !Text.isBlankText value

/-- A number below `bound`; white space around it does not matter. -/
def readNumber (name value : String) (bound : Nat) : Except SettingsError Nat :=
  match Text.readNat? (Text.trim value) with
  | some n => if n < bound then .ok n else .error ⟨name, value⟩
  | none => .error ⟨name, value⟩

def numberOr (lookup : String → Option String) (name : String) (bound usually : Nat) :
    Except SettingsError Nat :=
  match setting? lookup name with
  | some value => readNumber name value bound
  | none => .ok usually

/-- Settings from the variables whose names begin with `stem`. -/
def ofVariables (stem : String) (lookup : String → Option String) :
    Except SettingsError Settings := do
  let timeout ← numberOr lookup (stem ++ "_TIMEOUT_SECS") UInt64.size usual.timeout.toNat
  let trips ← numberOr lookup (stem ++ "_NUM_TRIPS") UInt32.size usual.tripsPerPage.toNat
  return {
    endpoint := setting? lookup (stem ++ "_ENDPOINT")
    authorization := setting? lookup (stem ++ "_API_AUTHORIZATION")
    timeout := UInt64.ofNat timeout
    tripsPerPage := UInt32.ofNat trips }

/-- The settings in words, the secret left out. -/
def description (s : Settings) : String :=
  let endpoint := match s.endpoint with
    | some address => "Some(" ++ Text.quoted address ++ ")"
    | none => "None"
  let authorization := match s.authorization with
    | some _ => "Some(SecretBox<str>([REDACTED]))"
    | none => "None"
  "ProviderConfig \x7b endpoint_override: " ++ endpoint ++ ", api_authorization: " ++
    authorization ++ ", timeout_secs: " ++ toString s.timeout.toNat ++ ", num_trips: " ++
    toString s.tripsPerPage.toNat ++ " \x7d"

instance : Codec Settings where
  encode s := .object [("endpoint_override", encode s.endpoint), ("timeout_secs", encode s.timeout),
    ("num_trips", encode s.tripsPerPage)]
  decode := Record.decode <|
    mk <$> .defaulted "endpoint_override" none <*> .defaulted "api_authorization" none
      <*> .defaulted "timeout_secs" usual.timeout <*> .defaulted "num_trips" usual.tripsPerPage

end Settings

end JourneyPlanner

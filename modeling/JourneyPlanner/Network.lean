import JourneyPlanner.Json.Codec

set_option autoImplicit false

/-! Names of the networks that providers answer for. -/
namespace JourneyPlanner

structure NetworkId where
  name : String
  deriving DecidableEq, Repr

namespace NetworkId

/-- The name marked as that of a network. -/
def description (id : NetworkId) : String :=
  "NetworkId(" ++ id.name ++ ")"

instance : Codec NetworkId where
  encode id := .string id.name
  decode json := (decode json).map NetworkId.mk

end NetworkId

end JourneyPlanner

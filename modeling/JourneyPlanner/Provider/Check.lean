import JourneyPlanner.Provider.Basic

set_option autoImplicit false

/-! Checks of what is asked, before anything is looked up. -/
namespace JourneyPlanner.Check

def capability (capabilities : Capabilities) (c : Capability) : Except QueryError Unit :=
  if capabilities.supports c then .ok () else .error (.unsupported c)

def nearbyLocation (l : Location) : Except QueryError Unit :=
  if l.hasId || l.hasPoint then .ok () else .error (.invalidArgument .location)

def stationId (id : String) : Except QueryError Unit :=
  if Text.isBlankText id then .error (.invalidArgument .stationId) else .ok ()

/-- A place must be identified, or at least named. -/
def endpoint (argument : Argument) (l : Location) : Except QueryError Unit :=
  if l.isIdentified || l.hasName then .ok () else .error (.invalidArgument argument)

def tripQuery (q : TripQuery) (capabilities : Capabilities) : Except QueryError Unit := do
  endpoint .origin q.origin
  endpoint .destination q.destination
  match q.via with
  | some via => do
      capability capabilities .tripsVia
      endpoint .via via
  | none => .ok ()

/-- The continuation must be the network's own and lead in the direction asked for. -/
def paging (network : NetworkId) (c : Continuation) (later : Bool) : Except QueryError Unit :=
  if c.network ≠ network then .error (.foreignContinuation network c.network)
  else if c.allows later then .ok ()
  else .error (.pagingNotAllowed later)

end JourneyPlanner.Check

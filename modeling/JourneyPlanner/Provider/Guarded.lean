import JourneyPlanner.Provider.Check

set_option autoImplicit false

/-!
A provider with the rules that all providers share put around it: what is asked is checked first,
and what was found is filtered, ranked and cut. Responses without a result pass as they are.
-/
namespace JourneyPlanner.Provider

/-- A response that has no result is reported. -/
def reportFailure {σ α : Type} [Reason σ] (message : String) (r : Response σ α) : Enquiry Unit :=
  match r.outcome with
  | .ok _ => pure ()
  | .error reason => Enquiry.report .debug message [("status", Reason.label reason)]

def guardNearby (metric : Metric) (p : Provider) (q : NearbyQuery) : Enquiry NearbyResponse := do
  Enquiry.require "rejected nearby query" (do
    Check.capability p.capabilities .nearbyLocations
    Check.nearbyLocation q.location)
  let response ← p.nearby q
  reportFailure "nearby query failed" response
  return response.map fun locations =>
    limited q.maxCount ((dedupLocations metric locations).filter (kindAllowed q.kinds))

def guardSuggest (metric : Metric) (p : Provider) (q : SuggestQuery) :
    Enquiry SuggestResponse := do
  Enquiry.require "rejected suggest query" (Check.capability p.capabilities .suggestLocations)
  let response ← p.suggest q
  reportFailure "suggest query failed" response
  return response.map fun suggestions =>
    limited q.maxCount ((Suggestion.ranked metric p.capabilities.kindOrder suggestions).filter
      fun s => kindAllowed q.kinds s.location)

/-- The boards with their departures cut to a count; zero is no limit. -/
def cutBoards (count : UInt32) (boards : List Board) : List Board :=
  if count = 0 then boards else boards.map (·.truncated count.toNat)

def guardDepartures (p : Provider) (q : DeparturesQuery) : Enquiry DeparturesResponse := do
  Enquiry.require "rejected departures query" (do
    Check.capability p.capabilities .departures
    Check.stationId q.station)
  let response ← p.departures q
  reportFailure "departures query failed" response
  return response.map (cutBoards q.maxCount)

/-- Places too close to each other are not searched between. -/
def guardTrips (metric : Metric) (p : Provider) (q : TripQuery) : Enquiry TripsResponse := do
  Enquiry.require "rejected trip query" (do
    Check.capability p.capabilities .trips
    Check.tripQuery q p.capabilities)
  if q.origin.isSamePlace metric q.destination then
    Enquiry.report .debug "origin and destination are the same place" []
    return TripsResponse.failed p.network .tooClose
  else
    let response ← p.trips q
    reportFailure "trip query failed" response.toResponse
    return response

def guardMoreTrips (p : Provider) (c : Continuation) (later : Bool) : Enquiry TripsResponse := do
  Enquiry.require "rejected paging request" (do
    Check.capability p.capabilities .trips
    Check.paging p.network c later)
  let response ← p.moreTrips c later
  reportFailure "paging failed" response.toResponse
  return response

def guarded (metric : Metric) (p : Provider) : Provider :=
  { p with
    nearby := guardNearby metric p
    suggest := guardSuggest metric p
    departures := guardDepartures p
    trips := guardTrips metric p
    moreTrips := guardMoreTrips p }

end JourneyPlanner.Provider

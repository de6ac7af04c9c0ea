import JourneyPlanner.Json.Strings
import JourneyPlanner.Number.Decimal
import JourneyPlanner.Proofs.Paging.Coverage
import JourneyPlanner.Proofs.Paging.Returning
import JourneyPlanner.Proofs.Search.Passing
import JourneyPlanner.Provider.Guarded
import JourneyPlanner.Provider.Registry
import JourneyPlanner.Time.Reading
import JourneyPlanner.Timetable.Provider
import JourneyPlanner.Trip.Repair
import JourneyPlanner.Proofs.Paging.Constraint
import JourneyPlanner.Proofs.Paging.Continuing
import JourneyPlanner.Proofs.Timetable.Consistent
import JourneyPlanner.Proofs.Timetable.Skipping
import JourneyPlanner.Proofs.Provider.Rules
import JourneyPlanner.Proofs.Provider.Transparent
import JourneyPlanner.Proofs.Paging.Token
import JourneyPlanner.Proofs.Trip.Stored
import JourneyPlanner.Proofs.Paging.Answered
import JourneyPlanner.Proofs.Paging.WellFormed
import JourneyPlanner.Proofs.Search.Relaxed
import JourneyPlanner.Proofs.Search.Restricted
import JourneyPlanner.Proofs.Timetable.Ending
import JourneyPlanner.Proofs.Timetable.Offered
import JourneyPlanner.Proofs.Provider.Routing
import JourneyPlanner.Proofs.Search.Front
import JourneyPlanner.Proofs.Trip.Delaying
import JourneyPlanner.Proofs.Trip.Extent
import JourneyPlanner.Proofs.Trip.Identified
import JourneyPlanner.Proofs.Search.Listed
import JourneyPlanner.Proofs.Timetable.Departures
import JourneyPlanner.Proofs.Timetable.Found
import JourneyPlanner.Proofs.Timetable.Suggested
import JourneyPlanner.Proofs.Timetable.Nearby
import JourneyPlanner.Proofs.Timetable.Parts
import JourneyPlanner.Proofs.Provider.Endpoints
import JourneyPlanner.Proofs.Location.Doubles
import JourneyPlanner.Proofs.Geo.Tens

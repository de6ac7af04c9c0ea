import JourneyPlanner.Geo.Point
import JourneyPlanner.Number.Binary

set_option autoImplicit false

/-!
Distances in metres. Whatever compares points takes a metric, and the distance on the reference
ellipsoid is one of them; the floating-point result counts with its exact value, so that distances
are totally ordered.
-/
namespace JourneyPlanner

/-- How far apart two points are, in metres. -/
abbrev Metric := GeoPoint → GeoPoint → Rat

namespace Geodesic

/-- The semi-axes of the ellipsoid, in metres. -/
def majorAxis : Float := 6378137.0

def minorAxis : Float := 6356752.3142

def flattening : Float := (majorAxis - minorAxis) / majorAxis

/-- The square of the second eccentricity. -/
def eccentricity : Float :=
  (majorAxis * majorAxis - minorAxis * minorAxis) / (minorAxis * minorAxis)

def radiansPerDegree : Float := 3.14159265358979323846 / 180.0

def radians (microdegrees : Int) : Float :=
  Float.ofInt microdegrees / 1e6 * radiansPerDegree

/-- A latitude on the auxiliary sphere. -/
def reducedLatitude (microdegrees : Int) : Float :=
  ((1.0 - flattening) * (radians microdegrees).tan).atan

/-- Sine and cosine of the reduced latitudes, and the difference of the longitudes. -/
structure Problem where
  sinFrom : Float
  cosFrom : Float
  sinTo : Float
  cosTo : Float
  difference : Float

def Problem.between (p q : GeoPoint) : Problem :=
  let start := reducedLatitude p.latitude
  let finish := reducedLatitude q.latitude
  let east := Float.ofInt q.longitude / 1e6 - Float.ofInt p.longitude / 1e6
  { sinFrom := start.sin, cosFrom := start.cos, sinTo := finish.sin, cosTo := finish.cos,
    difference := east * radiansPerDegree }

/-- One approximation: the longitude on the sphere that it leads to, and the length of the arc. -/
structure Approximation where
  longitude : Float
  length : Float

/-- The approximation that follows from a longitude on the auxiliary sphere. -/
def Problem.refine (problem : Problem) (longitude : Float) : Approximation :=
  let f := flattening
  let sinLon := longitude.sin
  let cosLon := longitude.cos
  let across := problem.cosTo * sinLon
  let along := problem.cosFrom * problem.sinTo - problem.sinFrom * problem.cosTo * cosLon
  let sinArc := (across * across + along * along).sqrt
  let cosArc := problem.sinFrom * problem.sinTo + problem.cosFrom * problem.cosTo * cosLon
  let arc := Float.atan2 sinArc cosArc
  let sinAzimuth :=
    if sinArc == 0.0 then 0.0 else problem.cosFrom * problem.cosTo * sinLon / sinArc
  let cosSqAzimuth := 1.0 - sinAzimuth * sinAzimuth
  let cosMiddle :=
    if cosSqAzimuth == 0.0 then 0.0
    else cosArc - 2.0 * problem.sinFrom * problem.sinTo / cosSqAzimuth
  let u := cosSqAzimuth * eccentricity
  let a := 1.0 + (u / 16384.0) * (4096.0 + u * (-768.0 + u * (320.0 - 175.0 * u)))
  let b := (u / 1024.0) * (256.0 + u * (-128.0 + u * (74.0 - 47.0 * u)))
  let c := (f / 16.0) * cosSqAzimuth * (4.0 + f * (4.0 - 3.0 * cosSqAzimuth))
  let cosSqMiddle := cosMiddle * cosMiddle
  let correction :=
    b * sinArc * (cosMiddle + (b / 4.0) * (cosArc * (-1.0 + 2.0 * cosSqMiddle) -
      (b / 6.0) * cosMiddle * (-3.0 + 4.0 * sinArc * sinArc) * (-3.0 + 4.0 * cosSqMiddle)))
  { longitude := problem.difference + (1.0 - c) * f * sinAzimuth *
      (arc + c * sinArc * (cosMiddle + c * cosArc * (-1.0 + 2.0 * cosSqMiddle)))
    length := minorAxis * a * (arc - correction) }

/-- Two successive longitudes this close, relative to the later, end the approximation. -/
def tolerance : Float := 1.0e-12

/-- The length after at most `rounds + 1` approximations. Between points nearly opposite on the
globe they need not settle, and the last one counts. -/
def Problem.solve (problem : Problem) : Nat → Float → Float
  | 0, longitude => (problem.refine longitude).length
  | rounds + 1, longitude =>
      let next := problem.refine longitude
      if next.longitude == 0.0 ||
          ((next.longitude - longitude) / next.longitude).abs < tolerance then next.length
      else problem.solve rounds next.longitude

def meters (p q : GeoPoint) : Float :=
  if p = q then 0.0
  else
    let problem := Problem.between p q
    problem.solve 19 problem.difference

end Geodesic

/-- The length of the shortest line between two points on the ellipsoid. -/
def geodesic : Metric := fun p q =>
  (Number.rational? (Geodesic.meters p q)).getD 0

theorem geodesic_self (p : GeoPoint) : geodesic p p = 0 := by
  have bits : (0.0 : Float).toBits = 0 := by decide
  have value : Number.rational? 0.0 = some (Number.scaled false 0 (-1074)) := by
    rw [Number.rational?, bits]
    rfl
  rw [geodesic, Geodesic.meters, if_pos rfl, value, Option.getD_some, Number.scaled_zero]

end JourneyPlanner

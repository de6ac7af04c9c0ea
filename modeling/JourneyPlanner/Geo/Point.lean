import JourneyPlanner.Json.Record
import JourneyPlanner.Number.Fixed

set_option autoImplicit false

/-!
Points on the globe in whole microdegrees, so that equal coordinates make equal points however they
were passed on. Latitude and longitude stay within their ranges.
-/
namespace JourneyPlanner

inductive PointError where
  | latitude (microdegrees : Int)
  | longitude (microdegrees : Int)
  | notFinite
  deriving DecidableEq, Repr

def PointError.message : PointError → String
  | .latitude n => "latitude out of range: " ++ toString n ++ " microdegrees"
  | .longitude n => "longitude out of range: " ++ toString n ++ " microdegrees"
  | .notFinite => "coordinate is not a finite number"

def greatestLatitude : Int := 90000000

def greatestLongitude : Int := 180000000

structure GeoPoint where
  latitude : Int
  longitude : Int
  latitude_inRange : -greatestLatitude ≤ latitude ∧ latitude ≤ greatestLatitude
  longitude_inRange : -greatestLongitude ≤ longitude ∧ longitude ≤ greatestLongitude
  deriving DecidableEq

namespace GeoPoint

theorem ext_coordinates {p q : GeoPoint} (latitudes : p.latitude = q.latitude)
    (longitudes : p.longitude = q.longitude) : p = q := by
  cases p
  cases q
  cases latitudes
  cases longitudes
  rfl

/-- The latitude is checked first. -/
def ofMicrodegrees (latitude longitude : Int) : Except PointError GeoPoint :=
  if north : -greatestLatitude ≤ latitude ∧ latitude ≤ greatestLatitude then
    if east : -greatestLongitude ≤ longitude ∧ longitude ≤ greatestLongitude then
      .ok ⟨latitude, longitude, north, east⟩
    else .error (.longitude longitude)
  else .error (.latitude latitude)

/-- Coordinates give a point where they lie in their ranges. -/
theorem ofMicrodegrees_cases (latitude longitude : Int) :
    (∃ point, ofMicrodegrees latitude longitude = .ok point ∧ point.latitude = latitude ∧
        point.longitude = longitude) ∨
      ∃ e, ofMicrodegrees latitude longitude = .error e ∧
        ¬ ((-greatestLatitude ≤ latitude ∧ latitude ≤ greatestLatitude) ∧
          -greatestLongitude ≤ longitude ∧ longitude ≤ greatestLongitude) := by
  unfold ofMicrodegrees
  split
  · split
    · exact .inl ⟨_, rfl, rfl, rfl⟩
    · rename_i outside
      exact .inr ⟨_, rfl, fun inside => outside inside.2⟩
  · rename_i outside
    exact .inr ⟨_, rfl, fun inside => outside inside.1⟩

theorem ofMicrodegrees_self (p : GeoPoint) : ofMicrodegrees p.latitude p.longitude = .ok p := by
  simp [ofMicrodegrees, p.latitude_inRange, p.longitude_inRange]

def fitsWord (n : Int) : Bool :=
  -2147483648 ≤ n && n < 2147483648

/-- The value that stands for one too large for thirty-two bits. -/
def greatestWord : Int := 2147483647

/-- A point in units of a hundred-thousandth of a degree. Values whose tenfold does not fit
thirty-two bits are refused before the ranges are looked at. -/
def ofTens (latitude longitude : Int) : Except PointError GeoPoint :=
  if !fitsWord (latitude * 10) then .error (.latitude greatestWord)
  else if !fitsWord (longitude * 10) then .error (.longitude greatestWord)
  else ofMicrodegrees (latitude * 10) (longitude * 10)

/-- The coordinates in units of a hundred-thousandth of a degree. -/
def latitudeTens (p : GeoPoint) : Int :=
  Number.tenthRounded p.latitude

def longitudeTens (p : GeoPoint) : Int :=
  Number.tenthRounded p.longitude

/-- Degrees as microdegrees, to the nearest; beyond thirty-two bits the nearest that fits. -/
def microdegrees (degrees : Float) : Int :=
  (degrees * 1e6).round.toInt32.toInt

/-- A point in degrees. -/
def ofDegrees (latitude longitude : Float) : Except PointError GeoPoint :=
  if !latitude.isFinite || !longitude.isFinite then .error .notFinite
  else ofMicrodegrees (microdegrees latitude) (microdegrees longitude)

/-- Microdegrees as degrees with six places. -/
def degreesText (microdegrees : Int) : String :=
  Number.placed 6 (microdegrees < 0) microdegrees.natAbs

/-- Latitude and longitude in degrees. -/
def text (p : GeoPoint) : String :=
  degreesText p.latitude ++ "/" ++ degreesText p.longitude

/-- The text of a point is of digits, points, dashes and a slash. -/
theorem not_mem_text (p : GeoPoint) {c : Char} (digit : Text.isDigit c = false)
    (mark : c ∉ ['-', '.', '/']) : c ∉ p.text.toList := by
  simp only [List.mem_cons, List.not_mem_nil, or_false, not_or] at mark
  obtain ⟨dash, point, slash⟩ := mark
  have degrees : ∀ microdegrees : Int, c ∉ (degreesText microdegrees).toList := by
    intro microdegrees mem
    rw [degreesText, Number.placed, String.toList_ofList] at mem
    rcases List.mem_append.mp mem with front | part
    · rcases List.mem_append.mp front with sign | whole
      · split at sign
        · exact dash (List.mem_singleton.mp sign)
        · cases sign
      · exact Text.not_mem_digits digit _ whole
    · rcases List.mem_cons.mp part with here | part
      · exact point here
      · rw [Text.isDigit_of_mem_paddedDigits part] at digit
        cases digit
  rw [text, String.toList_append, String.toList_append]
  intro mem
  rcases List.mem_append.mp mem with front | longitude
  · rcases List.mem_append.mp front with latitude | here
    · exact degrees _ latitude
    · exact slash (List.mem_singleton.mp here)
  · exact degrees _ longitude

/-- The text marked as that of a point. -/
def description (p : GeoPoint) : String :=
  "Point(" ++ p.text ++ ")"

def ofCoordinates (latitude longitude : Int32) : Decoded GeoPoint :=
  Json.checked PointError.message (ofMicrodegrees latitude.toInt longitude.toInt)

instance : Codec GeoPoint where
  encode p := .object [("lat", .int p.latitude), ("lon", .int p.longitude)]
  decode := Record.decodeChecked <| ofCoordinates <$> .required "lat" <*> .required "lon"

end GeoPoint

end JourneyPlanner

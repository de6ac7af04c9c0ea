import JourneyPlanner.Geo.Point

set_option autoImplicit false

/-!
Points in units of a hundred-thousandth of a degree. What is given in these units is read back from
the point unchanged. What is read from a point makes one that is at most half a unit away, since the
ranges end at whole units and so no coordinate is rounded out of its range. Thirty-two bits are
enough: a tenfold that does not fit them is out of range.
-/
namespace JourneyPlanner

namespace Number

variable {n t : Int}

/-- No other whole number is nearer to the tenth, and none as near is further from zero. -/
structure IsNearestTenth (n t : Int) : Prop where
  nearest : ∀ u : Int, (10 * t - n).natAbs ≤ (10 * u - n).natAbs
  away : ∀ u : Int, (10 * u - n).natAbs = (10 * t - n).natAbs → u.natAbs ≤ t.natAbs

theorem tenthRounded_near (n : Int) : (10 * tenthRounded n - n).natAbs ≤ 5 := by
  unfold tenthRounded
  split <;> omega

theorem natAbs_tenthRounded (n : Int) : (tenthRounded n).natAbs = (n.natAbs + 5) / 10 := by
  unfold tenthRounded
  split <;> omega

theorem tenthRounded_tens (n : Int) : tenthRounded (n * 10) = n := by
  unfold tenthRounded
  split <;> omega

/-- What is between two whole tens is not rounded beyond them. -/
theorem tenthRounded_between (limit : Int) (lower : -(limit * 10) ≤ n) (upper : n ≤ limit * 10) :
    -(limit * 10) ≤ tenthRounded n * 10 ∧ tenthRounded n * 10 ≤ limit * 10 := by
  have near := tenthRounded_near n
  omega

theorem isNearestTenth_iff : IsNearestTenth n t ↔ t = tenthRounded n := by
  have near := tenthRounded_near n
  have size := natAbs_tenthRounded n
  constructor
  · rintro ⟨nearest, away⟩
    -- The two are as near as one another, so that neither is further from zero.
    have close := nearest (tenthRounded n)
    have large := away (tenthRounded n)
    omega
  · rintro rfl
    exact ⟨fun u => by omega, fun u same => by omega⟩

end Number

namespace GeoPoint

variable {latitude longitude : Int} {p : GeoPoint} {e : PointError}

def IsLatitude (n : Int) : Prop :=
  -greatestLatitude ≤ n ∧ n ≤ greatestLatitude

def IsLongitude (n : Int) : Prop :=
  -greatestLongitude ≤ n ∧ n ≤ greatestLongitude

/-! Thirty-two bits -/

theorem fitsWord_iff {n : Int} : fitsWord n = true ↔ -2147483648 ≤ n ∧ n < 2147483648 := by
  rw [fitsWord, Bool.and_eq_true, decide_eq_true_iff, decide_eq_true_iff]

theorem fitsWord_of_isLatitude {n : Int} (inside : IsLatitude n) : fitsWord n = true := by
  rw [fitsWord_iff]
  unfold IsLatitude greatestLatitude at inside
  omega

theorem fitsWord_of_isLongitude {n : Int} (inside : IsLongitude n) : fitsWord n = true := by
  rw [fitsWord_iff]
  unfold IsLongitude greatestLongitude at inside
  omega

/-- A product of words is that of the numbers they stand for just where that one fits. -/
theorem fitsWord_tenfold_iff (n : Int32) :
    fitsWord (n.toInt * 10) = true ↔ (n * 10).toInt = n.toInt * 10 := by
  constructor
  · intro fits
    obtain ⟨lower, upper⟩ := fitsWord_iff.mp fits
    rw [Int32.toInt_mul]
    exact Int.bmod_eq_of_le lower upper
  · intro same
    rw [← same, fitsWord_iff]
    exact ⟨(n * 10).le_toInt, (n * 10).toInt_lt⟩

/-! What is accepted -/

theorem ofMicrodegrees_eq_ok_iff :
    ofMicrodegrees latitude longitude = .ok p ↔
      p.latitude = latitude ∧ p.longitude = longitude := by
  constructor
  · intro made
    unfold ofMicrodegrees at made
    split at made
    · split at made
      · cases made
        exact ⟨rfl, rfl⟩
      · cases made
    · cases made
  · rintro ⟨rfl, rfl⟩
    exact ofMicrodegrees_self p

theorem ofTens_eq_ok_iff : ofTens latitude longitude = .ok p ↔
    p.latitude = latitude * 10 ∧ p.longitude = longitude * 10 := by
  rw [← ofMicrodegrees_eq_ok_iff]
  constructor
  · intro made
    unfold ofTens at made
    split at made
    · cases made
    · split at made
      · cases made
      · exact made
  · intro made
    obtain ⟨north, east⟩ := ofMicrodegrees_eq_ok_iff.mp made
    have fits : fitsWord (latitude * 10) = true :=
      fitsWord_of_isLatitude (north ▸ p.latitude_inRange)
    have fitsToo : fitsWord (longitude * 10) = true :=
      fitsWord_of_isLongitude (east ▸ p.longitude_inRange)
    rw [ofTens, fits, fitsToo]
    exact made

theorem exists_ofTens_iff : (∃ p, ofTens latitude longitude = .ok p) ↔
    IsLatitude (latitude * 10) ∧ IsLongitude (longitude * 10) := by
  constructor
  · rintro ⟨p, made⟩
    obtain ⟨north, east⟩ := ofTens_eq_ok_iff.mp made
    rw [← north, ← east]
    exact ⟨p.latitude_inRange, p.longitude_inRange⟩
  · rintro ⟨north, east⟩
    exact ⟨⟨latitude * 10, longitude * 10, north, east⟩, ofTens_eq_ok_iff.mpr ⟨rfl, rfl⟩⟩

/-! What is refused -/

/-- How a number of microdegrees that is out of range is reported. -/
def reported (n : Int) : Int :=
  if fitsWord n then n else greatestWord

/-- A coordinate is named that is out of range. -/
def Blames (latitude longitude : Int) : PointError → Prop
  | .latitude n => ¬ IsLatitude latitude ∧ n = reported latitude
  | .longitude n => ¬ IsLongitude longitude ∧ n = reported longitude
  | .notFinite => False

theorem blames_of_ofMicrodegrees (north : fitsWord latitude = true)
    (east : fitsWord longitude = true) (refused : ofMicrodegrees latitude longitude = .error e) :
    Blames latitude longitude e := by
  unfold ofMicrodegrees at refused
  split at refused
  · split at refused
    · cases refused
    · rename_i outside
      cases refused
      exact ⟨outside, (if_pos east).symm⟩
  · rename_i outside
    cases refused
    exact ⟨outside, (if_pos north).symm⟩

/-- What does not fit is reported as the greatest word, before any range is looked at. -/
theorem blames_of_ofTens (refused : ofTens latitude longitude = .error e) :
    Blames (latitude * 10) (longitude * 10) e := by
  unfold ofTens at refused
  by_cases north : fitsWord (latitude * 10) = true
  · by_cases east : fitsWord (longitude * 10) = true
    · rw [north, east] at refused
      exact blames_of_ofMicrodegrees north east refused
    · rw [north, Bool.eq_false_iff.mpr east] at refused
      cases refused
      exact ⟨mt fitsWord_of_isLongitude east, (if_neg east).symm⟩
  · rw [Bool.eq_false_iff.mpr north] at refused
    cases refused
    exact ⟨mt fitsWord_of_isLatitude north, (if_neg north).symm⟩

theorem exists_error_iff : (∃ e, ofTens latitude longitude = .error e) ↔
    ¬ (IsLatitude (latitude * 10) ∧ IsLongitude (longitude * 10)) := by
  rw [← exists_ofTens_iff]
  cases ofTens latitude longitude <;> simp

/-! Reading the units -/

theorem fitsWord_tens (p : GeoPoint) :
    fitsWord p.latitudeTens = true ∧ fitsWord p.longitudeTens = true := by
  have north := p.latitude_inRange
  have east := p.longitude_inRange
  have near := Number.tenthRounded_near p.latitude
  have nearToo := Number.tenthRounded_near p.longitude
  simp only [fitsWord_iff, latitudeTens, longitudeTens]
  unfold greatestLatitude at north
  unfold greatestLongitude at east
  omega

theorem tens_of_ofTens (made : ofTens latitude longitude = .ok p) :
    p.latitudeTens = latitude ∧ p.longitudeTens = longitude := by
  obtain ⟨north, east⟩ := ofTens_eq_ok_iff.mp made
  rw [latitudeTens, longitudeTens, north, east]
  exact ⟨Number.tenthRounded_tens latitude, Number.tenthRounded_tens longitude⟩

theorem exists_ofTens_tens (p : GeoPoint) :
    ∃ q, ofTens p.latitudeTens p.longitudeTens = .ok q ∧
      (q.latitude - p.latitude).natAbs ≤ 5 ∧ (q.longitude - p.longitude).natAbs ≤ 5 := by
  obtain ⟨south, north⟩ := p.latitude_inRange
  obtain ⟨west, east⟩ := p.longitude_inRange
  -- The ranges end at whole units.
  have latitudes : IsLatitude (p.latitudeTens * 10) :=
    Number.tenthRounded_between 9000000 south north
  have longitudes : IsLongitude (p.longitudeTens * 10) :=
    Number.tenthRounded_between 18000000 west east
  obtain ⟨q, made⟩ := exists_ofTens_iff.mpr ⟨latitudes, longitudes⟩
  obtain ⟨latitude, longitude⟩ := ofTens_eq_ok_iff.mp made
  refine ⟨q, made, ?_, ?_⟩
  · rw [latitude, Int.mul_comm]
    exact Number.tenthRounded_near p.latitude
  · rw [longitude, Int.mul_comm]
    exact Number.tenthRounded_near p.longitude

theorem tenfold_of_ofTens {latitude longitude : Int32}
    (made : ofTens latitude.toInt longitude.toInt = .ok p) :
    p.latitude = (latitude * 10).toInt ∧ p.longitude = (longitude * 10).toInt := by
  obtain ⟨north, east⟩ := ofTens_eq_ok_iff.mp made
  have fits := fitsWord_of_isLatitude p.latitude_inRange
  have fitsToo := fitsWord_of_isLongitude p.longitude_inRange
  rw [north] at fits ⊢
  rw [east] at fitsToo ⊢
  exact ⟨((fitsWord_tenfold_iff latitude).mp fits).symm,
    ((fitsWord_tenfold_iff longitude).mp fitsToo).symm⟩

/-- Units that are accepted are read back, and those of a point are accepted and make one at most
half a unit away. Refused is what is out of range in microdegrees and nothing else, with the name of
a coordinate that is. A tenfold of words is used only where it fits into a word itself, and the
units of a point do. They are the nearest ones, and of two as near those further from zero. -/
theorem tens_exact :
    (∀ latitude longitude p, ofTens latitude longitude = .ok p →
      p.latitudeTens = latitude ∧ p.longitudeTens = longitude) ∧
      (∀ p : GeoPoint, ∃ q, ofTens p.latitudeTens p.longitudeTens = .ok q ∧
        (q.latitude - p.latitude).natAbs ≤ 5 ∧ (q.longitude - p.longitude).natAbs ≤ 5) ∧
      (∀ latitude longitude, (∃ e, ofTens latitude longitude = .error e) ↔
        ¬ (IsLatitude (latitude * 10) ∧ IsLongitude (longitude * 10))) ∧
      (∀ latitude longitude e, ofTens latitude longitude = .error e →
        Blames (latitude * 10) (longitude * 10) e) ∧
      (∀ n : Int32, fitsWord (n.toInt * 10) = true ↔ (n * 10).toInt = n.toInt * 10) ∧
      (∀ (latitude longitude : Int32) p, ofTens latitude.toInt longitude.toInt = .ok p →
        p.latitude = (latitude * 10).toInt ∧ p.longitude = (longitude * 10).toInt) ∧
      (∀ p : GeoPoint, fitsWord p.latitudeTens = true ∧ fitsWord p.longitudeTens = true) ∧
      ∀ (p : GeoPoint) t, (Number.IsNearestTenth p.latitude t ↔ t = p.latitudeTens) ∧
        (Number.IsNearestTenth p.longitude t ↔ t = p.longitudeTens) :=
  ⟨fun _ _ _ => tens_of_ofTens, exists_ofTens_tens, fun _ _ => exists_error_iff,
    fun _ _ _ => blames_of_ofTens, fitsWord_tenfold_iff, fun _ _ _ => tenfold_of_ofTens,
    fitsWord_tens, fun _ _ => ⟨Number.isNearestTenth_iff, Number.isNearestTenth_iff⟩⟩

end GeoPoint

/-! A point half a unit from two others in either coordinate, near the end of the longitudes. -/
namespace HalfWay

def point : GeoPoint := ⟨-52377545, 179999995, by decide, by decide⟩

def rounded : GeoPoint := ⟨-52377550, 180000000, by decide, by decide⟩

open GeoPoint in
/-- A longitude that does not fit is named before a latitude that fits and is out of range. -/
theorem tens_exact_halfWay :
    point.latitudeTens = -5237755 ∧ point.longitudeTens = 18000000 ∧
      ofTens (-5237755) 18000000 = .ok rounded ∧
      rounded.latitudeTens = -5237755 ∧ rounded.longitudeTens = 18000000 ∧
      rounded.latitude = ((-5237755 : Int32) * 10).toInt ∧
      rounded.longitude = ((18000000 : Int32) * 10).toInt ∧
      ofTens 9000001 18000001 = .error (.latitude 90000010) ∧
      Blames (9000001 * 10) (18000001 * 10) (.latitude 90000010) ∧
      ofTens 9000001 214748365 = .error (.longitude greatestWord) ∧
      Blames (9000001 * 10) (214748365 * 10) (.longitude greatestWord) := by
  obtain ⟨back, -, -, blamed, -, tenfold, -, -⟩ := tens_exact
  have made : ofTens (-5237755) 18000000 = .ok rounded := rfl
  have beyond : ofTens 9000001 18000001 = .error (.latitude 90000010) := rfl
  have unfit : ofTens 9000001 214748365 = .error (.longitude greatestWord) := rfl
  obtain ⟨latitude, longitude⟩ := back _ _ _ made
  obtain ⟨north, east⟩ := tenfold (-5237755) 18000000 rounded made
  exact ⟨by decide, by decide, made, latitude, longitude, north, east, beyond,
    blamed _ _ _ beyond, unfit, blamed _ _ _ unfit⟩

end HalfWay

end JourneyPlanner

import JourneyPlanner.Proofs.Json.Codecs
import JourneyPlanner.Query

set_option autoImplicit false

/-! The forms of locations, preferences and searches for trips lose nothing. -/
namespace JourneyPlanner

open Record (required_reads defaulted_reads optional_reads optional_present)

theorem LocationKind.word_injective (a b : LocationKind) (same : word a = word b) : a = b := by
  cases a <;> cases b <;> first | rfl | exact absurd same (by decide)

theorem Product.word_injective (a b : Product) (same : word a = word b) : a = b := by
  cases a <;> cases b <;> first | rfl | exact absurd same (by decide)

theorem Goal.word_injective (a b : Goal) (same : word a = word b) : a = b := by
  cases a <;> cases b <;> first | rfl | exact absurd same (by decide)

theorem WalkSpeed.word_injective (a b : WalkSpeed) (same : word a = word b) : a = b := by
  cases a <;> cases b <;> first | rfl | exact absurd same (by decide)

theorem Accessibility.word_injective (a b : Accessibility) (same : word a = word b) :
    a = b := by
  cases a <;> cases b <;> first | rfl | exact absurd same (by decide)

instance : Faithful LocationKind := .ofWords LocationKind.word_injective

instance : Faithful Product := .ofWords Product.word_injective

instance : Faithful Goal := .ofWords Goal.word_injective

instance : Faithful WalkSpeed := .ofWords WalkSpeed.word_injective

instance : Faithful Accessibility := .ofWords Accessibility.word_injective

instance : Faithful TripFlag := .ofWords fun a b _ => by cases a; cases b; rfl

namespace GeoPoint

/-- A coordinate within its range is a whole number of thirty-two bits. -/
theorem decode_coordinate {n : Int} (least : -greatestLongitude ≤ n)
    (most : n ≤ greatestLongitude) :
    (decode (Json.int n) : Decoded Int32) = .ok (Int32.ofInt n) := by
  have low : -2147483648 ≤ n := by simp only [greatestLongitude] at least; omega
  have high : n ≤ 2147483647 := by simp only [greatestLongitude] at most; omega
  simp only [decode, Json.asInt, low, high, and_self, if_true]
  rfl

theorem toInt_coordinate {n : Int} (least : -greatestLongitude ≤ n)
    (most : n ≤ greatestLongitude) : (Int32.ofInt n).toInt = n := by
  simp only [greatestLongitude] at least most
  exact Int32.toInt_ofInt_of_le (by omega) (by omega)

/-- The fields of a point as they are written. -/
def formFields (p : GeoPoint) : List (String × Json) :=
  [("lat", .int p.latitude), ("lon", .int p.longitude)]

instance : Faithful GeoPoint where
  exact p := by
    have north := p.latitude_inRange
    have east := p.longitude_inRange
    simp only [greatestLatitude, greatestLongitude] at north east
    simp only [encode, Json.isExact, Json.fieldsExact, Bool.and_true, Bool.and_eq_true,
      decide_eq_true_eq]
    omega
  decode_encode p := by
    have east := p.longitude_inRange
    have north : -greatestLongitude ≤ p.latitude ∧ p.latitude ≤ greatestLongitude := by
      have range := p.latitude_inRange
      simp only [greatestLatitude, greatestLongitude] at range ⊢
      omega
    have latitude := decode_coordinate north.1 north.2
    have longitude := decode_coordinate east.1 east.2
    refine Record.Reads.decodeChecked ?_
    have first : (Record.required "lat").Reads p.formFields (Int32.ofInt p.latitude) :=
      Record.field_reads rfl latitude
    have second : (Record.required "lon").Reads p.formFields (Int32.ofInt p.longitude) :=
      Record.field_reads rfl longitude
    have both := (first.map ofCoordinates).seq second
    simp only [ofCoordinates, toInt_coordinate north.1 north.2, toInt_coordinate east.1 east.2,
      ofMicrodegrees_self] at both
    exact both

instance : Visible GeoPoint := ⟨fun _ => Json.noConfusion⟩

end GeoPoint

namespace Location

theorem ofDetails_self (l : Location) :
    ofDetails l.toLocationDetails =
      .ok { toLocationDetails := l.toLocationDetails, sound := l.sound, products := none } := by
  unfold ofDetails
  split
  · rfl
  · rename_i found
    rw [l.sound] at found
    cases found

theorem check_self (l : Location) : check l.toLocationDetails l.products = .ok l := by
  simp only [check, ofDetails_self, Json.checked]
  rfl

/-- The fields of a location as they are written. -/
def formFields (l : Location) : List (String × Json) :=
  ("type", encode l.kind) :: Json.present "id" l.id ++ Json.present "point" l.point ++
    Json.present "place" l.place ++ Json.present "name" l.name ++
      Json.present "products" l.products

theorem detailsRecord_reads (l : Location) :
    detailsRecord.Reads l.formFields l.toLocationDetails := by
  have kind : (Record.required "type").Reads l.formFields l.kind :=
    required_reads (by simp [formFields, List.filter_append, Json.filter_present])
  have id : (Record.optional "id").Reads l.formFields l.id :=
    optional_present (by simp [formFields, List.filter_append, Json.filter_present])
  have point : (Record.optional "point").Reads l.formFields l.point :=
    optional_present (by simp [formFields, List.filter_append, Json.filter_present])
  have place : (Record.optional "place").Reads l.formFields l.place :=
    optional_present (by simp [formFields, List.filter_append, Json.filter_present])
  have name : (Record.optional "name").Reads l.formFields l.name :=
    optional_present (by simp [formFields, List.filter_append, Json.filter_present])
  exact ((((kind.map LocationDetails.mk).seq id).seq point).seq place).seq name

instance : Faithful Location where
  exact l := by
    change Json.fieldsExact l.formFields = true
    simp only [formFields, Json.fieldsExact_append, List.cons_append, Json.fieldsExact,
      Json.fieldsExact_present, Faithful.exact, Bool.and_self]
  decode_encode l := by
    have products : (Record.optional "products").Reads l.formFields l.products :=
      optional_present (by simp [formFields, List.filter_append, Json.filter_present])
    have whole := ((detailsRecord_reads l).map check).seq products
    rw [check_self] at whole
    exact whole.decodeChecked

instance : Visible Location := ⟨fun _ => Json.noConfusion⟩

end Location

instance : Faithful Preferences where
  exact p := by
    change Json.fieldsExact [("products", encode p.products), ("optimize", encode p.goal),
      ("walk_speed", encode p.walkSpeed), ("accessibility", encode p.accessibility),
      ("flags", encode p.flags)] = true
    simp only [Json.fieldsExact, Faithful.exact, Bool.and_self]
  decode_encode p := by
    refine Record.Reads.decode ?_
    exact (((((optional_reads rfl).map Preferences.mk).seq (optional_reads rfl)).seq
      (optional_reads rfl)).seq (optional_reads rfl)).seq (defaulted_reads rfl)

instance : Faithful TripQuery where
  exact q := by
    change Json.fieldsExact [("from", encode q.origin), ("via", encode q.via),
      ("to", encode q.destination), ("time", encode q.time), ("dep", encode q.departing),
      ("options", encode q.preferences)] = true
    simp only [Json.fieldsExact, Faithful.exact, Bool.and_self]
  decode_encode q := by
    refine Record.Reads.decode ?_
    exact ((((((required_reads rfl).map TripQuery.mk).seq (optional_reads rfl)).seq
      (required_reads rfl)).seq (required_reads rfl)).seq (required_reads rfl)).seq
        (defaulted_reads rfl)

end JourneyPlanner

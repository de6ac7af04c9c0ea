import JourneyPlanner.Geo.Point
import JourneyPlanner.Json.Record
import JourneyPlanner.Product
import JourneyPlanner.Text.Blank

set_option autoImplicit false

/-!
Places usable in an enquiry: stations, points of interest, addresses, bare coordinates, and free
text that is still to be resolved.
-/
namespace JourneyPlanner

inductive LocationKind where
  | any
  | station
  | poi
  | address
  | coord
  deriving DecidableEq, Repr

namespace LocationKind

instance : Listed LocationKind where
  all := [.any, .station, .poi, .address, .coord]
  complete := by intro a; cases a <;> decide
  distinct := by decide

instance : Worded LocationKind where
  word
    | .any => "ANY"
    | .station => "STATION"
    | .poi => "POI"
    | .address => "ADDRESS"
    | .coord => "COORD"

/-- The name of a kind in messages. -/
def label : LocationKind → String
  | .any => "Any"
  | .station => "Station"
  | .poi => "Poi"
  | .address => "Address"
  | .coord => "Coord"

end LocationKind

inductive LocationError where
  | anyWithId
  | blankId
  | placeWithoutName
  | missingPoint
  | coordWithId
  | coordWithName
  | point (error : PointError)
  deriving DecidableEq, Repr

def LocationError.message : LocationError → String
  | .anyWithId => "location of type ANY cannot have an id"
  | .blankId => "location id cannot be blank"
  | .placeWithoutName => "location place cannot be set without a name"
  | .missingPoint => "coordinate location is missing its point"
  | .coordWithId => "coordinate location cannot have an id"
  | .coordWithName => "coordinate location cannot have a name"
  | .point error => error.message

/-- The details of a place before they are checked against each other. -/
structure LocationDetails where
  kind : LocationKind
  id : Option String
  point : Option GeoPoint
  place : Option String
  name : Option String
  deriving DecidableEq

/-- The first rule that the details break. -/
def LocationDetails.violation (d : LocationDetails) : Option LocationError :=
  if d.id.any Text.isBlankText then some .blankId
  else if d.kind = .any ∧ d.id.isSome then some .anyWithId
  else if d.place.isSome ∧ d.name.isNone then some .placeWithoutName
  else if d.kind = .coord ∧ d.point.isNone then some .missingPoint
  else if d.kind = .coord ∧ d.id.isSome then some .coordWithId
  else if d.kind = .coord ∧ d.name.isSome then some .coordWithName
  else none

theorem ite_some_eq_none_iff {α : Type} {p : Prop} [Decidable p] {a : α} {rest : Option α} :
    (if p then some a else rest) = none ↔ ¬ p ∧ rest = none := by
  by_cases holds : p <;> simp [holds]

/-- Details that break no rule, rule by rule. -/
theorem LocationDetails.rules_of_sound {d : LocationDetails} (sound : d.violation = none) :
    (∀ id, d.id = some id → Text.isBlankText id = false) ∧ (d.kind = .any → d.id = none) ∧
      (d.place ≠ none → d.name ≠ none) ∧
        (d.kind = .coord → d.point ≠ none ∧ d.id = none ∧ d.name = none) := by
  simp only [violation, ite_some_eq_none_iff, and_true] at sound
  obtain ⟨shown, unknown, placed, located, unidentified, unnamed⟩ := sound
  simp only [Bool.not_eq_true, Option.any_eq_false, not_and, Option.isSome_iff_ne_none,
    Option.isNone_iff_eq_none, Classical.not_not]
    at shown unknown placed located unidentified unnamed
  exact ⟨shown, unknown, placed, fun coord => ⟨located coord, unidentified coord, unnamed coord⟩⟩

/-- A place whose details fit together. -/
structure Location extends LocationDetails where
  sound : toLocationDetails.violation = none
  /-- What serves the place, if that is known. -/
  products : Option (Selection Product)

namespace Location

def ofDetails (details : LocationDetails) : Except LocationError Location :=
  match found : details.violation with
  | none => .ok { toLocationDetails := details, sound := found, products := none }
  | some error => .error error

theorem ofDetails_cases (details : LocationDetails) :
    (∃ l, ofDetails details = .ok l ∧ l.toLocationDetails = details ∧ l.products = none ∧
        details.violation = none) ∨
      ∃ e, ofDetails details = .error e ∧ details.violation = some e := by
  unfold ofDetails
  split
  · rename_i none
    exact .inl ⟨_, rfl, rfl, rfl, none⟩
  · rename_i e broken
    exact .inr ⟨e, rfl, broken⟩

/-- A coordinate and nothing else. -/
def ofPoint (point : GeoPoint) : Location where
  kind := .coord
  id := none
  point := some point
  place := none
  name := none
  sound := by simp [LocationDetails.violation]
  products := none

def coord (latitude longitude : Int) : Except LocationError Location :=
  match GeoPoint.ofMicrodegrees latitude longitude with
  | .ok point => .ok (ofPoint point)
  | .error error => .error (.point error)

/-- A station of which only the id is known. -/
def station (id : String) : Except LocationError Location :=
  ofDetails { kind := .station, id := some id, point := none, place := none, name := none }

/-- Free text. -/
def freeText (name : String) : Except LocationError Location :=
  ofDetails { kind := .any, id := none, point := none, place := none, name := some name }

theorem exists_freeText (text : String) :
    ∃ l, freeText text = .ok l ∧ l.toLocationDetails = ⟨.any, none, none, none, some text⟩ := by
  rcases ofDetails_cases ⟨.any, none, none, none, some text⟩ with
    ⟨l, made, details, -⟩ | ⟨e, -, violated⟩
  · exact ⟨l, made, details⟩
  · simp [LocationDetails.violation] at violated

def withProducts (l : Location) (products : Selection Product) : Location :=
  { l with products := some products }

def hasId (l : Location) : Bool :=
  l.id.isSome

def hasPoint (l : Location) : Bool :=
  l.point.isSome

def hasName (l : Location) : Bool :=
  l.name.any fun name => !Text.isBlankText name

/-- What is usable as it stands, without resolving its name. -/
def isIdentified (l : Location) : Bool :=
  match l.kind with
  | .station => l.hasId
  | .poi => true
  | .address | .coord => l.hasPoint
  | .any => false

/-- Names that say little without the place they are in. -/
def commonNames : List String :=
  ["Bahnhof", "Bf", "Busbahnhof", "Dorf", "Hauptbahnhof", "Hbf", "Kirche", "Markt", "Nord", "Ost",
    "Schiffst.", "Schiffstation", "Süd", "West", "ZOB", "Zentrum"]

/-- The name, after its place if the name alone is common; the id if there is no name. -/
def shortName (l : Location) : Option String :=
  match l.place, l.name with
  | some place, some name =>
      if name ∈ commonNames then some (place ++ ", " ++ name) else some name
  | none, some name => some name
  | _, none => l.id

def detailsRecord : Record LocationDetails :=
  LocationDetails.mk <$> .required "type" <*> .optional "id" <*> .optional "point"
    <*> .optional "place" <*> .optional "name"

def check (details : LocationDetails) (products : Option (Selection Product)) :
    Decoded Location := do
  let location ← Json.checked LocationError.message (ofDetails details)
  return { location with products := products }

instance : Codec Location where
  encode l := .object (
    ("type", encode l.kind) :: Json.present "id" l.id ++ Json.present "point" l.point ++
      Json.present "place" l.place ++ Json.present "name" l.name ++
      Json.present "products" l.products)
  decode := Record.decodeChecked <|
    check <$> detailsRecord <*> .optional "products"

end Location

end JourneyPlanner

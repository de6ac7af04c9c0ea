import JourneyPlanner.Location.Identity
import JourneyPlanner.Proofs.Hashing
import JourneyPlanner.Proofs.Timetable.Loaded

set_option autoImplicit false

/-!
Equality of locations is that of their kinds and of what identifies them, so it is an equivalence,
and a hash function is fed the same values by equal locations and by no others. Equal locations are
the same place if there is no distance between a point and itself.
-/
namespace JourneyPlanner

namespace Location

variable {metric : Metric} {a b c : Location}

/-- The ids count, without them the points, and without those the names. -/
theorem identity_eq_iff : a.identity = b.identity ↔
    a.id = b.id ∧ (a.id = none → a.point = b.point ∧
      (a.point = none → a.place = b.place ∧ a.name = b.name)) := by
  unfold identity
  cases a.id <;> cases b.id <;> cases a.point <;> cases b.point <;> simp

theorem beq_iff : (a == b) = true ↔ a.kind = b.kind ∧ a.identity = b.identity := by
  change a.isSame b = true ↔ _
  unfold isSame identity
  by_cases kinds : a.kind = b.kind
  · rw [if_neg (not_not_intro kinds), and_iff_right kinds]
    cases a.id <;> cases b.id <;> cases a.point <;> cases b.point <;> simp
  · simp [kinds]

instance : EquivBEq Location where
  rfl := beq_iff.mpr ⟨rfl, rfl⟩
  symm same := by
    obtain ⟨kinds, identities⟩ := beq_iff.mp same
    exact beq_iff.mpr ⟨kinds.symm, identities.symm⟩
  trans first second := by
    obtain ⟨kinds, identities⟩ := beq_iff.mp first
    obtain ⟨kindsToo, identitiesToo⟩ := beq_iff.mp second
    exact beq_iff.mpr ⟨kinds.trans kindsToo, identities.trans identitiesToo⟩

/-! Hashing -/

/-- What identifies a location feeds to a hash function. -/
def Identity.hashInputs : Identity → List HashInput
  | .id value => [.text value]
  | .point p => [.number p.latitude, .number p.longitude]
  | .name place label =>
      HashInput.ofOptional (fun place => [.text place]) place ++
        HashInput.ofOptional (fun name => [.text name]) label

theorem hashInputs_eq (l : Location) :
    l.hashInputs = .ofListed l.kind :: l.identity.hashInputs := by
  unfold hashInputs identity
  cases l.id with
  | some id => rfl
  | none => cases l.point <;> rfl

theorem Identity.hashInputs_name (place name : Option String) :
    ∃ number rest, (Identity.name place name).hashInputs = .choice number :: rest := by
  cases place with
  | none => exact ⟨0, _, rfl⟩
  | some place => exact ⟨1, _, rfl⟩

/-- An id feeds a text first, a point a number, and the names whether there is a place. -/
theorem Identity.hashInputs_inj {i j : Identity} (same : i.hashInputs = j.hashInputs) : i = j := by
  cases i with
  | id value =>
    cases j with
    | id other =>
      obtain ⟨first, -⟩ := List.cons.inj same
      rw [HashInput.text.inj first]
    | point point => cases (List.cons.inj same).1
    | name place name =>
      obtain ⟨number, rest, begins⟩ := hashInputs_name place name
      cases (List.cons.inj (same.trans begins)).1
  | point point =>
    cases j with
    | id value => cases (List.cons.inj same).1
    | point other =>
      obtain ⟨first, others⟩ := List.cons.inj same
      obtain ⟨second, -⟩ := List.cons.inj others
      rw [GeoPoint.ext_coordinates (HashInput.number.inj first) (HashInput.number.inj second)]
    | name place name =>
      obtain ⟨number, rest, begins⟩ := hashInputs_name place name
      cases (List.cons.inj (same.trans begins)).1
  | name place name =>
    obtain ⟨number, rest, begins⟩ := hashInputs_name place name
    cases j with
    | id value => cases (List.cons.inj (begins.symm.trans same)).1
    | point point => cases (List.cons.inj (begins.symm.trans same)).1
    | name otherPlace otherName =>
      have texts := HashInput.selfDelimiting_text.optional
      obtain ⟨rfl, left⟩ := texts place otherPlace _ _ same
      obtain ⟨rfl, -⟩ := texts name otherName [] [] (by rw [left])
      rfl

theorem beq_iff_hashInputs : (a == b) = true ↔ a.hashInputs = b.hashInputs := by
  rw [beq_iff, hashInputs_eq, hashInputs_eq, List.cons.injEq]
  constructor
  · rintro ⟨kinds, identities⟩
    exact ⟨congrArg HashInput.ofListed kinds, congrArg Identity.hashInputs identities⟩
  · rintro ⟨first, others⟩
    exact ⟨HashInput.ofListed_inj first, Identity.hashInputs_inj others⟩

/-! Places -/

theorem isSamePlace_of_beq (grounded : ∀ p, metric p p = 0) (same : (a == b) = true) :
    a.isSamePlace metric b = true := by
  obtain ⟨kinds, identities⟩ := beq_iff.mp same
  obtain ⟨ids, points⟩ := identity_eq_iff.mp identities
  rw [isSamePlace, if_neg (not_not_intro kinds), ← ids]
  cases id : a.id with
  | some i => exact decide_eq_true rfl
  | none =>
    rw [← (points id).1]
    cases a.point with
    | some p =>
      have near : metric p p ≤ samePlaceTolerance := by
        rw [grounded]
        decide
      exact decide_eq_true near
    | none => exact same

theorem isSamePlace_refl (grounded : ∀ p, metric p p = 0) (l : Location) :
    l.isSamePlace metric l = true :=
  isSamePlace_of_beq grounded BEq.rfl

theorem isSamePlace_comm (symmetric : ∀ p q, metric p q = metric q p) (a b : Location) :
    a.isSamePlace metric b = b.isSamePlace metric a := by
  unfold isSamePlace
  by_cases kinds : a.kind = b.kind
  · rw [if_neg (not_not_intro kinds), if_neg (not_not_intro kinds.symm)]
    cases a.id <;> cases b.id <;> cases a.point <;> cases b.point <;>
      simp [symmetric, eq_comm, BEq.comm]
  · rw [if_pos kinds, if_pos (Ne.symm kinds)]

/-- Equality is an equivalence, and hash functions are fed the same by equal locations and by no
others. If there is no distance between a point and itself, equal locations are the same place and
each is the same place as itself; if distances are the same both ways, so is that relation. -/
theorem equality_lawful :
    (∀ a : Location, (a == a) = true) ∧
      (∀ a b : Location, (a == b) = true → (b == a) = true) ∧
      (∀ a b c : Location, (a == b) = true → (b == c) = true → (a == c) = true) ∧
      (∀ a b : Location, (a == b) = true ↔ a.hashInputs = b.hashInputs) ∧
      ∀ metric : Metric, (∀ p, metric p p = 0) →
        (∀ a b : Location, (a == b) = true → a.isSamePlace metric b = true) ∧
          (∀ l : Location, l.isSamePlace metric l = true) ∧
          ((∀ p q, metric p q = metric q p) →
            ∀ a b : Location, a.isSamePlace metric b = b.isSamePlace metric a) := by
  refine ⟨fun a => BEq.rfl, fun a b => BEq.symm, fun a b c => BEq.trans,
    fun a b => beq_iff_hashInputs, fun metric grounded => ⟨?_, ?_, ?_⟩⟩
  · intro a b same
    exact isSamePlace_of_beq grounded same
  · intro l
    exact isSamePlace_refl grounded l
  · intro symmetric a b
    exact isSamePlace_comm symmetric a b

end Location

namespace Sample

theorem metric_self (p : GeoPoint) : metric p p = 0 := by
  simp [metric]

theorem metric_comm (p q : GeoPoint) : metric p q = metric q p := by
  have north : (p.latitude - q.latitude).natAbs = (q.latitude - p.latitude).natAbs := by omega
  have east : (p.longitude - q.longitude).natAbs = (q.longitude - p.longitude).natAbs := by omega
  rw [metric, metric, north, east]

end Sample

/-! A station that is elsewhere told by its id alone, with its name and point. -/
namespace TwoForms

def full : Location where
  kind := .station
  id := some "A"
  point := some ⟨52521918, 13413215, by decide, by decide⟩
  place := none
  name := some "Alpha"
  sound := rfl
  products := none

theorem equality_lawful_twoForms :
    (∀ p, Sample.metric p p = 0) ∧ (∀ p q, Sample.metric p q = Sample.metric q p) ∧
      full.agreesWith Sample.origin = false ∧ (full == Sample.origin) = true ∧
      (Sample.origin == full) = true ∧ full.hashInputs = Sample.origin.hashInputs ∧
      full.isSamePlace Sample.metric Sample.origin = true ∧
      Sample.origin.isSamePlace Sample.metric full =
        full.isSamePlace Sample.metric Sample.origin := by
  obtain ⟨-, symm, -, hashed, refines⟩ := Location.equality_lawful
  obtain ⟨places, -, back⟩ := refines Sample.metric Sample.metric_self
  have same : (full == Sample.origin) = true := by decide
  exact ⟨Sample.metric_self, Sample.metric_comm, by decide, same, symm full Sample.origin same,
    (hashed full Sample.origin).mp same, places full Sample.origin same,
    back Sample.metric_comm Sample.origin full⟩

end TwoForms

end JourneyPlanner

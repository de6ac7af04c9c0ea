import JourneyPlanner.Line
import JourneyPlanner.Proofs.Hashing
import JourneyPlanner.Proofs.Sorting

set_option autoImplicit false

/-!
Lines are ordered by what identifies them, and what is absent comes last. Neither of two lines comes
before the other just where they are equal, and then they feed the same values to a hash function.
Lines that run to one destination are the same where their identities and the names shown of the
destination are.
-/
namespace JourneyPlanner

namespace Product

instance : Std.TransOrd Product := inferInstanceAs (Std.TransCmp (compareOn rank))

/-- The rank is the place in the list. -/
theorem getElem?_rank (p : Product) : (Listed.all : List Product)[p.rank]? = some p := by
  cases p <;> rfl

instance : Std.LawfulEqOrd Product where
  eq_of_compare {p q} same := by
    have ranks : p.rank = q.rank := Std.LawfulEqOrd.eq_of_compare same
    have there := getElem?_rank p
    rw [ranks, getElem?_rank q] at there
    exact (Option.some.inj there).symm

end Product

namespace Line

section Absent

variable {α : Type} [Ord α]

instance [Std.TransOrd α] :
    Std.TransCmp (compareAbsentLast : Option α → Option α → Ordering) where
  eq_swap {a b} := by
    cases a with
    | none => cases b <;> rfl
    | some a =>
      cases b with
      | none => rfl
      | some b => exact Std.OrientedOrd.eq_swap
  isLE_trans {a b c} first second := by
    cases c with
    | none => cases a <;> rfl
    | some c =>
      cases b with
      | none => cases second
      | some b =>
        cases a with
        | none => cases first
        | some a => exact Std.TransOrd.isLE_trans first second

theorem compareAbsentLast_self [Std.ReflOrd α] (a : Option α) : compareAbsentLast a a = .eq := by
  cases a with
  | none => rfl
  | some a => exact Std.ReflOrd.compare_self

instance [Std.LawfulEqOrd α] :
    Std.LawfulEqCmp (compareAbsentLast : Option α → Option α → Ordering) where
  compare_self := compareAbsentLast_self _
  eq_of_compare {a b} same := by
    cases a with
    | none =>
      cases b with
      | none => rfl
      | some b => cases same
    | some a =>
      cases b with
      | none => cases same
      | some b => exact congrArg some (Std.LawfulEqOrd.eq_of_compare same)

theorem compareAbsentLast_none {b : Option α} (present : b ≠ none) :
    compareAbsentLast none b = .gt := by
  cases b with
  | none => exact absurd rfl present
  | some b => rfl

end Absent

instance : Std.TransOrd Line :=
  haveI := transCmp_part compareAbsentLast Line.network
  haveI := transCmp_part compareAbsentLast Line.product
  haveI := transCmp_part compareAbsentLast Line.label
  inferInstanceAs (Std.TransCmp (compareLex
    (fun a b : Line => compareAbsentLast a.network b.network)
    (compareLex (fun a b : Line => compareAbsentLast a.product b.product)
      fun a b : Line => compareAbsentLast a.label b.label)))

variable {a b : Line}

theorem beq_iff : (a == b) = true ↔ a.identity = b.identity :=
  decide_eq_true_iff

theorem compare_eq (a b : Line) : compare a b =
    (compareAbsentLast a.network b.network).then
      ((compareAbsentLast a.product b.product).then (compareAbsentLast a.label b.label)) := rfl

instance : Std.LawfulBEqOrd Line where
  compare_eq_iff_beq {a b} := by
    rw [beq_iff, compare_eq, Ordering.then_eq_eq, Ordering.then_eq_eq,
      Std.LawfulEqCmp.compare_eq_iff_eq, Std.LawfulEqCmp.compare_eq_iff_eq,
      Std.LawfulEqCmp.compare_eq_iff_eq, identity, identity, Prod.mk.injEq, Prod.mk.injEq]

/-- The one line lacks a part that the other has, and the parts before it are the same. -/
inductive LessKnown (a b : Line) : Prop where
  | network (absent : a.network = none) (present : b.network ≠ none)
  | product (networks : a.network = b.network) (absent : a.product = none)
      (present : b.product ≠ none)
  | label (networks : a.network = b.network) (products : a.product = b.product)
      (absent : a.label = none) (present : b.label ≠ none)

theorem LessKnown.compare_eq_gt (lessKnown : a.LessKnown b) : compare a b = .gt := by
  rw [compare_eq]
  cases lessKnown with
  | network absent present =>
    rw [absent, compareAbsentLast_none present]
    rfl
  | product networks absent present =>
    rw [networks, compareAbsentLast_self, absent, compareAbsentLast_none present]
    rfl
  | label networks products absent present =>
    rw [networks, products, compareAbsentLast_self, compareAbsentLast_self, absent,
      compareAbsentLast_none present]
    rfl

/-! Hashing -/

/-- Each part tells first whether it is there, so that a label is not taken for a network. -/
theorem selfDelimiting_identity :
    HashInput.SelfDelimiting fun identity : Option String × Option Product × Option String =>
      HashInput.ofOptional (fun network => [.text network]) identity.1 ++
        (HashInput.ofOptional (fun product => [.ofListed product]) identity.2.1 ++
          HashInput.ofOptional (fun label => [.text label]) identity.2.2) :=
  HashInput.selfDelimiting_text.optional.pair
    (HashInput.selfDelimiting_listed.optional.pair HashInput.selfDelimiting_text.optional)

theorem beq_iff_hashInputs : (a == b) = true ↔ a.hashInputs = b.hashInputs := by
  rw [beq_iff]
  constructor
  · intro same
    simp only [identity, Prod.mk.injEq] at same
    obtain ⟨networks, products, labels⟩ := same
    rw [hashInputs, hashInputs, networks, products, labels]
  · intro same
    exact selfDelimiting_identity.inj same

/-- The order of lines is total. Neither of two lines comes before the other just where they are
equal, which is where they feed the same values to a hash function. A line that lacks a part comes
after each that has it and agrees with it in the parts before, whatever comes after. -/
theorem order_lawful :
    (∀ a b : Line, compare b a = (compare a b).swap) ∧
      (∀ a b : Line, (compare a b).isLE = true ∨ (compare b a).isLE = true) ∧
      (∀ a b : Line, (compare a b).isLE = true → (compare b a).isLE = true → (a == b) = true) ∧
      (∀ a b c : Line, (compare a b).isLE = true → (compare b c).isLE = true →
        (compare a c).isLE = true) ∧
      (∀ (a b c : Line) (outcome : Ordering), compare a b = outcome → compare b c = outcome →
        compare a c = outcome) ∧
      (∀ a b : Line, compare a b = .eq ↔ (a == b) = true) ∧
      (∀ a b : Line, (a == b) = true ↔ a.hashInputs = b.hashInputs) ∧
      ∀ a b : Line, a.LessKnown b → compare a b = .gt := by
  refine ⟨fun _ _ => Std.OrientedOrd.eq_swap, fun a b => ?_, fun a b forth back => ?_,
    fun _ _ _ => Std.TransOrd.isLE_trans, fun a b c outcome first second => ?_,
    fun _ _ => Std.LawfulBEqCmp.compare_eq_iff_beq, fun _ _ => beq_iff_hashInputs,
    fun _ _ => LessKnown.compare_eq_gt⟩
  · have total := isLE_total compare a b
    rwa [Bool.or_eq_true] at total
  · exact Std.LawfulBEqCmp.compare_eq_iff_beq.mp (Std.OrientedCmp.isLE_antisymm forth back)
  · cases outcome with
    | lt => exact Std.TransCmp.lt_trans first second
    | eq => exact Std.TransCmp.eq_trans first second
    | gt => exact Std.TransCmp.gt_trans first second

end Line

/-! One line in two descriptions, and two others of which one is of no known product. -/
namespace ThreeLines

def suburban : Line := .named "vbb" Product.suburbanTrain "S5"

def described : Line :=
  { suburban with id := "de:vbb:S5", name := "S-Bahn 5", message := "Every ten minutes" }

def tram : Line := .named "vbb" Product.tram "M10"

def unknown : Line := .named "vbb" none "A1"

/-- A label that is first of all does not help the line without a product. -/
theorem order_lawful_threeLines :
    (compare described suburban).isLE = true ∧ (compare suburban described).isLE = true ∧
      (described == suburban) = true ∧ described.hashInputs = suburban.hashInputs ∧
      compare described suburban = .eq ∧
      (compare described tram).isLE = true ∧ (compare tram unknown).isLE = true ∧
      (compare described unknown).isLE = true ∧
      compare unknown tram = .gt ∧ compare tram described = .gt ∧
      compare unknown described = .gt ∧ unknown.LessKnown described := by
  obtain ⟨-, -, antisymm, trans, transOutcome, ties, hashed, last⟩ := Line.order_lawful
  have forth : (compare described suburban).isLE = true := by decide
  have back : (compare suburban described).isLE = true := by decide
  have same := antisymm described suburban forth back
  have first : (compare described tram).isLE = true := by decide
  have second : (compare tram unknown).isLE = true := by decide
  have product : unknown.LessKnown tram := .product rfl rfl (by decide)
  have later : compare unknown tram = .gt := last unknown tram product
  have laterToo : compare tram described = .gt := by decide
  exact ⟨forth, back, same, (hashed described suburban).mp same,
    (ties described suburban).mpr same, first, second,
    trans described tram unknown first second, later, laterToo,
    transOutcome unknown tram described .gt later laterToo, .product rfl rfl (by decide)⟩

end ThreeLines

namespace LineDirection

theorem beq_iff {a b : LineDirection} :
    (a == b) = true ↔ a.line.identity = b.line.identity ∧
      a.destinationName = b.destinationName := by
  change (a.line == b.line && decide (a.destinationName = b.destinationName)) = true ↔ _
  rw [Bool.and_eq_true, Line.beq_iff, decide_eq_true_iff]

theorem beq_self (d : LineDirection) : (d == d) = true :=
  beq_iff.mpr ⟨rfl, rfl⟩

theorem beq_comm (a b : LineDirection) : (a == b) = (b == a) := by
  rw [Bool.eq_iff_iff, beq_iff, beq_iff]
  constructor
  · rintro ⟨line, name⟩
    exact ⟨line.symm, name.symm⟩
  · rintro ⟨line, name⟩
    exact ⟨line.symm, name.symm⟩

theorem beq_iff_hashInputs {d e : LineDirection} :
    (d == e) = true ↔ d.hashInputs = e.hashInputs := by
  rw [beq_iff]
  constructor
  · rintro ⟨lines, names⟩
    rw [hashInputs, hashInputs, Line.beq_iff_hashInputs.mp (Line.beq_iff.mpr lines), names]
  · intro same
    have told := Line.selfDelimiting_identity.pair HashInput.selfDelimiting_text.optional
    have both : (d.line.identity, d.destinationName) = (e.line.identity, e.destinationName) :=
      told.inj same
    exact Prod.mk.inj both

end LineDirection

end JourneyPlanner

import Mathlib
import JourneyPlanner.Trip.Identifier

set_option autoImplicit false

/-!
What the keys of legs are made of. A key tells its places where they are apart from those of other
keys, then the planned times in whole seconds and what stands on the vehicle. The keys of all legs
can be read back from an identifier where no bar stands in them.
-/
namespace JourneyPlanner

namespace Text

/-- A text is cut at its first separator in one way only. -/
theorem cut_unique {separator : Char} {a b c d : List Char} (first : separator ∉ a)
    (second : separator ∉ b) (same : a ++ separator :: c = b ++ separator :: d) :
    a = b ∧ c = d := by
  induction a generalizing b with
  | nil =>
    cases b with
    | nil => exact ⟨rfl, (List.cons.inj same).2⟩
    | cons x b =>
      have head := (List.cons.inj same).1
      exact absurd (head ▸ List.mem_cons_self) second
  | cons x a ih =>
    cases b with
    | nil =>
      have head := (List.cons.inj same).1
      exact absurd (head ▸ List.mem_cons_self) first
    | cons y b =>
      obtain ⟨rfl, rest⟩ := List.cons.inj same
      have none : separator ∉ a := fun mem => first (List.mem_cons_of_mem x mem)
      have noneToo : separator ∉ b := fun mem => second (List.mem_cons_of_mem x mem)
      obtain ⟨rfl, tails⟩ := ih none noneToo rest
      exact ⟨rfl, tails⟩

theorem toList_number (n : Int) :
    (toString n).toList = if n < 0 then '-' :: digits n.natAbs else digits n.natAbs := by
  cases n with
  | ofNat m =>
    have nonneg : ¬ Int.ofNat m < 0 := Int.not_lt.mpr (Int.natCast_nonneg m)
    rw [if_neg nonneg]
    exact String.toList_ofList
  | negSucc m =>
    rw [if_pos (Int.negSucc_lt_zero m)]
    change ("-" ++ (m + 1).repr).toList = _
    rw [String.toList_append]
    exact congrArg (List.cons '-') String.toList_ofList

theorem not_mem_number {c : Char} (digit : isDigit c = false) (dash : c ≠ '-') (n : Int) :
    c ∉ (toString n).toList := by
  have run := not_mem_digits digit n.natAbs
  rw [toList_number]
  split
  · simp [dash, run]
  · exact run

theorem number_ne_nil (n : Int) : (toString n).toList ≠ [] := by
  rw [toList_number]
  split
  · exact List.cons_ne_nil _ _
  · exact digits_ne_nil _

/-- A number and the dash after it are read back, also where a dash stands before the digits. -/
theorem cut_number {m n : Int} {c d : List Char}
    (same : (toString m).toList ++ '-' :: c = (toString n).toList ++ '-' :: d) :
    m = n ∧ c = d := by
  have dash := not_mem_digits (c := '-') rfl
  have value : ∀ {i j : Int}, digits i.natAbs = digits j.natAbs → i.natAbs = j.natAbs := by
    intro i j equal
    rw [← digitsValue_digits i.natAbs, equal, digitsValue_digits]
  have mixed : ∀ {i j : Nat} {c d : List Char},
      '-' :: digits i ++ '-' :: c ≠ digits j ++ '-' :: d := by
    intro i j c d equal
    cases run : digits j with
    | nil => exact digits_ne_nil j run
    | cons x rest =>
      rw [run] at equal
      have head := (List.cons.inj equal).1
      exact dash j (run ▸ head ▸ List.mem_cons_self)
  rw [toList_number, toList_number] at same
  by_cases negative : m < 0
  · by_cases negativeToo : n < 0
    · rw [if_pos negative, if_pos negativeToo] at same
      obtain ⟨run, rest⟩ := cut_unique (dash _) (dash _) (List.cons.inj same).2
      have equal := value run
      exact ⟨by omega, rest⟩
    · rw [if_pos negative, if_neg negativeToo] at same
      exact absurd same mixed
  · by_cases negativeToo : n < 0
    · rw [if_neg negative, if_pos negativeToo] at same
      exact absurd same.symm mixed
    · rw [if_neg negative, if_neg negativeToo] at same
      obtain ⟨run, rest⟩ := cut_unique (dash _) (dash _) same
      have equal := value run
      exact ⟨by omega, rest⟩

/-- Neither text begins with the other and a dash. -/
structure Apart (a b : List Char) : Prop where
  left : ¬ a ++ ['-'] <+: b
  right : ¬ b ++ ['-'] <+: a

theorem apart_of_dashless {a b : List Char} (plain : '-' ∉ a) (plainToo : '-' ∉ b) : Apart a b := by
  have begins : ∀ {a b : List Char}, a ++ ['-'] <+: b → '-' ∈ b := by
    rintro a b ⟨rest, rfl⟩
    simp
  exact ⟨fun within => plainToo (begins within), fun within => plain (begins within)⟩

/-- Texts apart that stand before dashes are cut at one place. -/
theorem cut_at_dash {a b c d : List Char} (apart : Apart a b)
    (same : a ++ '-' :: c = b ++ '-' :: d) : a = b ∧ c = d := by
  have level : ∀ {a gap c d : List Char}, ¬ a ++ ['-'] <+: a ++ gap →
      '-' :: c = gap ++ '-' :: d → gap = [] ∧ c = d := by
    intro a gap c d apart rest
    cases gap with
    | nil => exact ⟨rfl, (List.cons.inj rest).2⟩
    | cons first gap =>
      have dash := (List.cons.inj rest).1
      rw [← dash] at apart
      exact absurd ⟨gap, by simp⟩ apart
  rcases List.append_eq_append_iff.mp same with ⟨gap, rfl, rest⟩ | ⟨gap, rfl, rest⟩
  · have ends := level apart.left rest
    simp [ends]
  · have ends := level apart.right rest
    simp [ends]

/-- Numbers, each with a dash after it. -/
def dashed (numbers : List Int) : List Char :=
  numbers.flatMap fun n => (toString n).toList ++ ['-']

theorem dashed_cons (n : Int) (numbers : List Int) (rest : List Char) :
    dashed (n :: numbers) ++ rest = (toString n).toList ++ '-' :: (dashed numbers ++ rest) := by
  simp [dashed]

theorem not_mem_dashed {c : Char} (digit : isDigit c = false) (dash : c ≠ '-')
    (numbers : List Int) : c ∉ dashed numbers := by
  intro mem
  obtain ⟨n, -, within⟩ := List.mem_flatMap.mp mem
  rcases List.mem_append.mp within with number | separator
  · exact not_mem_number digit dash n number
  · exact dash (List.mem_singleton.mp separator)

/-- A character that no number has in it ends a row of numbers. -/
theorem dashed_ends {c : Char} {rest tail : List Char} {n : Int} {numbers : List Int}
    (digit : isDigit c = false) (dash : c ≠ '-') :
    c :: rest ≠ dashed (n :: numbers) ++ tail := by
  intro same
  have outside := not_mem_number digit dash n
  rw [dashed_cons] at same
  cases run : (toString n).toList with
  | nil => exact number_ne_nil n run
  | cons first digits =>
    rw [run] at same outside
    have here := (List.cons.inj same).1
    exact outside (here ▸ List.mem_cons_self)

/-- Rows of numbers are read back, up to the first character that no number has in it. By induction
on one row, with the other general. -/
theorem cut_dashed {numbers others : List Int} {c d : Char} {rest tail : List Char}
    (digit : isDigit c = false) (dash : c ≠ '-') (digitToo : isDigit d = false)
    (dashToo : d ≠ '-') (same : dashed numbers ++ c :: rest = dashed others ++ d :: tail) :
    numbers = others ∧ c = d ∧ rest = tail := by
  induction numbers generalizing others with
  | nil =>
    cases others with
    | nil => exact ⟨rfl, List.cons.inj same⟩
    | cons n others => exact absurd same (dashed_ends digit dash)
  | cons m numbers ih =>
    cases others with
    | nil => exact absurd same.symm (dashed_ends digitToo dashToo)
    | cons n others =>
      rw [dashed_cons, dashed_cons] at same
      obtain ⟨rfl, rows⟩ := cut_number same
      obtain ⟨rfl, ends⟩ := ih rows
      exact ⟨rfl, ends⟩

end Text

/-- The code of a product, or a question mark where it is not known. -/
def Product.mark (product : Option Product) : Char :=
  product.elim '?' code

theorem Product.mark_injective : Function.Injective mark := by
  have back : Function.LeftInverse (fun c => (ofCode c).toOption) mark := by
    intro product
    cases product with
    | none => rfl
    | some p => exact congrArg Except.toOption (ofCode_code p)
  exact Function.LeftInverse.injective back

/-- The marks of products are capital letters but for the question mark. -/
theorem Product.mark_plain (product : Option Product) :
    Text.isDigit (mark product) = false ∧ mark product ≠ '-' ∧ mark product ≠ '|' ∧
      mark product ≠ 'i' := by
  cases product with
  | none => decide
  | some p => cases p <;> decide

theorem Line.productCode_eq (l : Line) : l.productCode = Product.mark l.product := by
  unfold productCode
  cases l.product <;> rfl

/-- The plan of a ride, and the line as a passenger knows it. -/
@[ext]
structure RidePlan where
  departure : Option Instant
  arrival : Option Instant
  product : Option Product
  label : Option String
  deriving DecidableEq

/-- A plan as it is written into identifiers: the times that are known, in seconds, and what stands
on the vehicle, if only an empty text. -/
@[ext]
structure WrittenPlan where
  seconds : List Int
  product : Option Product
  label : String
  deriving DecidableEq

namespace WrittenPlan

/-- A leg without a plan is told by one word. -/
def text : Option WrittenPlan → List Char
  | some plan => Text.dashed plan.seconds ++ Product.mark plan.product :: plan.label.toList
  | none => "individual".toList

theorem text_some (plan : WrittenPlan) : text (some plan) =
    Text.dashed plan.seconds ++ Product.mark plan.product :: plan.label.toList := rfl

theorem text_injective : Function.Injective text := by
  have word : ∀ plan, text (some plan) ≠ text none := by
    intro plan same
    have begins : text none = Text.dashed [] ++ 'i' :: "ndividual".toList := by decide
    obtain ⟨digit, dash, -, letter⟩ := Product.mark_plain plan.product
    rw [begins] at same
    have ends := Text.cut_dashed digit dash (by decide) (by decide) same
    exact letter ends.2.1
  intro plan other same
  cases plan with
  | none =>
    cases other with
    | none => rfl
    | some other => exact absurd same.symm (word other)
  | some plan =>
    cases other with
    | none => exact absurd same (word plan)
    | some other =>
      obtain ⟨digit, dash, -⟩ := Product.mark_plain plan.product
      obtain ⟨digitToo, dashToo, -⟩ := Product.mark_plain other.product
      obtain ⟨seconds, product, label⟩ := Text.cut_dashed digit dash digitToo dashToo same
      exact congrArg some
        (WrittenPlan.ext seconds (Product.mark_injective product) (String.toList_inj.mp label))

theorem bar_not_mem_text {plan : Option WrittenPlan}
    (plain : ∀ p ∈ plan, '|' ∉ p.label.toList) : '|' ∉ text plan := by
  cases plan with
  | none =>
    have word : '|' ∉ "individual".toList := by decide
    exact word
  | some plan =>
    have seconds := Text.not_mem_dashed (c := '|') rfl (by decide) plan.seconds
    have product := (Product.mark_plain plan.product).2.2.1.symm
    have label := plain plan rfl
    simp only [text_some, List.mem_append, List.mem_cons, not_or]
    exact ⟨seconds, product, label⟩

end WrittenPlan

namespace RidePlan

/-- The times that are known, the departure first. -/
def times (plan : RidePlan) : List Instant :=
  plan.departure.toList ++ plan.arrival.toList

def written (plan : RidePlan) : WrittenPlan where
  seconds := plan.times.map Instant.second
  product := plan.product
  label := plan.label.getD ""

end RidePlan

namespace Leg

/-- The plan of a leg, if it is a ride. -/
def plan? (leg : Leg) : Option RidePlan :=
  leg.ride?.map fun ride =>
    { departure := ride.departureStop.departure.planned
      arrival := ride.arrivalStop.arrival.planned
      product := ride.line.product
      label := ride.line.label }

/-- A leg as it is written into identifiers. -/
@[ext]
structure Outline where
  departure : String
  arrival : String
  plan : Option WrittenPlan
  deriving DecidableEq

def outline (leg : Leg) : Outline where
  departure := leg.departure.key
  arrival := leg.arrival.key
  plan := leg.plan?.map RidePlan.written

def Outline.text (o : Outline) : List Char :=
  o.departure.toList ++ '-' :: (o.arrival.toList ++ '-' :: WrittenPlan.text o.plan)

theorem timeKey_eq (time : Option Instant) :
    (timeKey time).toList = Text.dashed (time.toList.map Instant.second) := by
  cases time with
  | none => rfl
  | some t => simp [timeKey, Text.dashed]

theorem toList_rideKey (leg : PublicLeg) :
    (rideKey leg).toList = WrittenPlan.text (ride leg).outline.plan := by
  change _ = Text.dashed (List.map Instant.second (leg.departureStop.departure.planned.toList ++
    leg.arrivalStop.arrival.planned.toList)) ++ Product.mark leg.line.product ::
      (leg.line.label.getD "").toList
  simp [rideKey, timeKey_eq, Line.productCode_eq, Text.dashed]

/-- Nothing but the outline is in a key. -/
theorem toList_key (leg : Leg) : leg.key.toList = leg.outline.text := by
  have joined : ∀ departure arrival rest : String,
      (departure ++ "-" ++ arrival ++ "-" ++ rest).toList =
        departure.toList ++ '-' :: (arrival.toList ++ '-' :: rest.toList) := by
    intro departure arrival rest
    simp
  cases leg with
  | own walk => exact joined _ _ _
  | ride leg =>
    rw [Outline.text, ← toList_rideKey]
    exact joined _ _ _

variable {leg other : Leg}

theorem bar_not_mem_key (departure : '|' ∉ leg.departure.key.toList)
    (arrival : '|' ∉ leg.arrival.key.toList)
    (label : ∀ plan ∈ leg.plan?, '|' ∉ (plan.label.getD "").toList) : '|' ∉ leg.key.toList := by
  have plan : '|' ∉ WrittenPlan.text leg.outline.plan := by
    apply WrittenPlan.bar_not_mem_text
    intro written found
    obtain ⟨plan, planned, rfl⟩ := Option.map_eq_some_iff.mp found
    exact label plan planned
  rw [toList_key, Outline.text]
  simp only [List.mem_append, List.mem_cons, not_or]
  exact ⟨departure, by decide, arrival, by decide, plan⟩

/-- A key is cut after the places, and what is left is the plan. -/
theorem outline_eq_of_key
    (departures : Text.Apart leg.departure.key.toList other.departure.key.toList)
    (arrivals : Text.Apart leg.arrival.key.toList other.arrival.key.toList)
    (same : leg.key = other.key) : leg.outline = other.outline := by
  have texts := congrArg String.toList same
  rw [toList_key, toList_key] at texts
  obtain ⟨departure, texts⟩ := Text.cut_at_dash departures texts
  obtain ⟨arrival, texts⟩ := Text.cut_at_dash arrivals texts
  apply Outline.ext
  · exact String.toList_inj.mp departure
  · exact String.toList_inj.mp arrival
  · exact WrittenPlan.text_injective texts

/-- Where no bar stands in the keys, the identifier tells them all. -/
theorem keys_of_identifier {legs others : List Leg} (some : legs ≠ []) (someToo : others ≠ [])
    (plain : ∀ leg ∈ legs, '|' ∉ leg.key.toList) (plainToo : ∀ leg ∈ others, '|' ∉ leg.key.toList)
    (same : identifier legs = identifier others) : legs.map key = others.map key := by
  have split : ∀ {legs : List Leg}, legs ≠ [] → (∀ leg ∈ legs, '|' ∉ leg.key.toList) →
      (identifier legs).toList.splitOn '|' = (legs.map key).map String.toList := by
    intro legs some plain
    rw [identifier, String.toList_intercalate]
    apply List.splitOn_intercalate
    · intro text mem
      obtain ⟨written, inside, rfl⟩ := List.mem_map.mp mem
      obtain ⟨leg, legMem, rfl⟩ := List.mem_map.mp inside
      exact plain leg legMem
    · rw [ne_eq, List.map_eq_nil_iff, List.map_eq_nil_iff]
      exact some
  have equal := split some plain
  rw [same, split someToo plainToo] at equal
  exact (List.map_injective_iff.mpr (fun _ _ => String.toList_inj.mp) equal).symm

end Leg

end JourneyPlanner

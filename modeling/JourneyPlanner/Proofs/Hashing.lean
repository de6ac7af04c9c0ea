import JourneyPlanner.Hashing

set_option autoImplicit false

/-!
Telling values by what they feed to a hash function. Where the inputs of a value show by themselves
where they end, those of several values in a row tell each of them.
-/
namespace JourneyPlanner

namespace HashInput

variable {α β : Type}

/-- The inputs tell the value and where they end, whatever follows. -/
def SelfDelimiting (inputs : α → List HashInput) : Prop :=
  ∀ a b rest others, inputs a ++ rest = inputs b ++ others → a = b ∧ rest = others

theorem ofListed_inj [DecidableEq α] [Listed α] {a b : α} (same : ofListed a = ofListed b) :
    a = b := by
  have places : (Listed.all : List α).idxOf a = (Listed.all : List α).idxOf b := choice.inj same
  have here := List.getElem_idxOf (List.idxOf_lt_length_of_mem (Listed.complete a))
  have there := List.getElem_idxOf (List.idxOf_lt_length_of_mem (Listed.complete b))
  rw [← here, ← there]
  simp only [places]

theorem SelfDelimiting.inj {inputs : α → List HashInput} (told : SelfDelimiting inputs) {a b : α}
    (same : inputs a = inputs b) : a = b :=
  (told a b [] [] (by rw [same])).1

theorem selfDelimiting_listed [DecidableEq α] [Listed α] :
    SelfDelimiting fun value : α => [ofListed value] := by
  intro a b rest others same
  obtain ⟨first, left⟩ := List.cons.inj same
  exact ⟨ofListed_inj first, left⟩

theorem selfDelimiting_text : SelfDelimiting fun value : String => [text value] := by
  intro a b rest others same
  obtain ⟨first, left⟩ := List.cons.inj same
  exact ⟨text.inj first, left⟩

/-- Whether a value is there is told first. -/
theorem SelfDelimiting.optional {inputs : α → List HashInput} (told : SelfDelimiting inputs) :
    SelfDelimiting (ofOptional inputs) := by
  intro a b rest others same
  cases a with
  | none =>
    cases b with
    | none => exact ⟨rfl, (List.cons.inj same).2⟩
    | some b => cases (List.cons.inj same).1
  | some a =>
    cases b with
    | none => cases (List.cons.inj same).1
    | some b =>
      obtain ⟨rfl, left⟩ := told a b rest others (List.cons.inj same).2
      exact ⟨rfl, left⟩

theorem SelfDelimiting.pair {inputs : α → List HashInput} {more : β → List HashInput}
    (told : SelfDelimiting inputs) (toldToo : SelfDelimiting more) :
    SelfDelimiting fun values : α × β => inputs values.1 ++ more values.2 := by
  rintro ⟨a, b⟩ ⟨c, d⟩ rest others same
  simp only [List.append_assoc] at same
  obtain ⟨rfl, second⟩ := told a c _ _ same
  obtain ⟨rfl, left⟩ := toldToo b d rest others second
  exact ⟨rfl, left⟩

end HashInput

end JourneyPlanner

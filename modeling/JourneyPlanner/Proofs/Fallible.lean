import Mathlib.Data.List.Forall2

set_option autoImplicit false

/-!
Computations that may fail, step by step and over lists. A list has results just where each of its
elements has one, and the results belong to the elements one by one.
-/
namespace JourneyPlanner

section Steps

variable {ε α β : Type} {outcome : Except ε α}

theorem bind_eq_ok {next : α → Except ε β} {b : β} (done : outcome.bind next = .ok b) :
    ∃ a, outcome = .ok a ∧ next a = .ok b := by
  cases outcome with
  | error e => cases done
  | ok a => exact ⟨a, rfl, done⟩

theorem map_eq_ok {f : α → β} {b : β} (done : outcome.map f = .ok b) :
    ∃ a, outcome = .ok a ∧ f a = b := by
  cases outcome with
  | error e => cases done
  | ok a =>
    cases done
    exact ⟨a, rfl, rfl⟩

theorem toOption_eq_some_iff {a : α} : outcome.toOption = some a ↔ outcome = .ok a := by
  cases outcome with
  | error e => exact ⟨nofun, nofun⟩
  | ok b => rw [Except.toOption, Option.some.injEq, Except.ok.injEq]

theorem exists_ok_of_any {p : α → Bool} (held : outcome.toOption.any p = true) :
    ∃ a, outcome = .ok a ∧ p a = true := by
  cases outcome with
  | error e => cases held
  | ok a => exact ⟨a, rfl, held⟩

end Steps

section Pairs

variable {α β : Type} {related : α → β → Prop} {elements : List α} {others : List β}

theorem exists_of_forall₂ (matched : List.Forall₂ related elements others) {a : α}
    (mem : a ∈ elements) : ∃ b ∈ others, related a b := by
  induction matched with
  | nil => cases mem
  | @cons c d rest following here _ ih =>
    rcases List.mem_cons.mp mem with rfl | later
    · exact ⟨d, List.mem_cons_self, here⟩
    · obtain ⟨b, inside, same⟩ := ih later
      exact ⟨b, List.mem_cons_of_mem d inside, same⟩

theorem exists_of_forall₂_right (matched : List.Forall₂ related elements others) {b : β}
    (mem : b ∈ others) : ∃ a ∈ elements, related a b :=
  exists_of_forall₂ (List.Forall₂.flip matched) mem

end Pairs

section Lists

variable {ε α β : Type} {elements : List α} {results : List β}

theorem mapM_eq_some_iff {f : α → Option β} :
    elements.mapM f = some results ↔
      List.Forall₂ (fun a b => f a = some b) elements results := by
  constructor
  · intro done
    induction elements generalizing results with
    | nil =>
      cases done
      exact .nil
    | cons a rest ih =>
      rw [List.mapM_cons] at done
      obtain ⟨b, made, done⟩ := Option.bind_eq_some_iff.mp done
      obtain ⟨others, following, done⟩ := Option.bind_eq_some_iff.mp done
      cases done
      exact .cons made (ih following)
  · intro pointwise
    induction pointwise with
    | nil => rfl
    | cons made _ ih =>
      rw [List.mapM_cons, made, ih]
      rfl

theorem exists_of_mapM {f : α → Option β} (done : elements.mapM f = some results) {a : α}
    (mem : a ∈ elements) : ∃ b ∈ results, f a = some b :=
  exists_of_forall₂ (mapM_eq_some_iff.mp done) mem

theorem mem_of_mapM {f : α → Option β} (done : elements.mapM f = some results) {b : β}
    (mem : b ∈ results) : ∃ a ∈ elements, f a = some b :=
  exists_of_forall₂_right (mapM_eq_some_iff.mp done) mem

theorem mapM_eq_none_iff {f : α → Option β} :
    elements.mapM f = none ↔ ∃ a ∈ elements, f a = none := by
  constructor
  · intro failed
    induction elements with
    | nil => cases failed
    | cons a rest ih =>
      rw [List.mapM_cons] at failed
      cases first : f a with
      | none => exact ⟨a, List.mem_cons_self, first⟩
      | some b =>
        cases following : rest.mapM f with
        | none =>
          obtain ⟨c, mem, beyond⟩ := ih following
          exact ⟨c, List.mem_cons_of_mem a mem, beyond⟩
        | some others =>
          rw [first, following] at failed
          cases failed
  · rintro ⟨a, mem, failed⟩
    cases done : elements.mapM f with
    | none => rfl
    | some results =>
      obtain ⟨b, -, made⟩ := exists_of_mapM done mem
      cases failed.symm.trans made

/-- What is made of a list that was changed, where each element makes the same but for a change. -/
theorem mapM_map_eq {γ δ : Type} {f : α → Option β} {g : γ → Option δ} {change : α → γ}
    {result : β → δ} (same : ∀ a ∈ elements, g (change a) = (f a).map result) :
    (elements.map change).mapM g = (elements.mapM f).map (List.map result) := by
  induction elements with
  | nil => rfl
  | cons a rest ih =>
    rw [List.map_cons, List.mapM_cons, List.mapM_cons, same a List.mem_cons_self,
      ih fun b mem => same b (List.mem_cons_of_mem a mem)]
    cases f a with
    | none => rfl
    | some b => cases rest.mapM f <;> rfl

theorem toOption_mapM (f : α → Except ε β) (elements : List α) :
    (elements.mapM f).toOption = elements.mapM fun a => (f a).toOption := by
  induction elements with
  | nil => rfl
  | cons a rest ih =>
    rw [List.mapM_cons, List.mapM_cons, ← ih]
    cases f a with
    | error e => rfl
    | ok b => cases rest.mapM f <;> rfl

theorem mapM_eq_ok_iff {f : α → Except ε β} :
    elements.mapM f = .ok results ↔
      List.Forall₂ (fun a b => f a = .ok b) elements results := by
  rw [← toOption_eq_some_iff, toOption_mapM, mapM_eq_some_iff]
  simp only [toOption_eq_some_iff]

/-- Where each element has a result, so has the whole list, one by one. -/
theorem exists_mapM {f : α → Except ε β} (each : ∀ a ∈ elements, ∃ b, f a = .ok b) :
    ∃ results, elements.mapM f = .ok results ∧
      List.Forall₂ (fun a b => f a = .ok b) elements results := by
  cases done : (elements.mapM fun a => (f a).toOption) with
  | none =>
    obtain ⟨a, mem, failed⟩ := mapM_eq_none_iff.mp done
    obtain ⟨b, made⟩ := each a mem
    rw [made] at failed
    cases failed
  | some results =>
    rw [← toOption_mapM, toOption_eq_some_iff] at done
    exact ⟨results, done, mapM_eq_ok_iff.mp done⟩

end Lists

end JourneyPlanner

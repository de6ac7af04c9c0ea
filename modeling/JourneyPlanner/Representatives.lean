set_option autoImplicit false

/-!
Going through a list and keeping the elements that no element kept before covers. Nothing is asked
of the relation: it need not be transitive, so what is kept depends on the order of the list.
-/
namespace JourneyPlanner

variable {α : Type}

/-- `kept` holds what was kept so far. -/
def keepUncovered (covers : α → α → Bool) (kept : List α) : List α → List α
  | [] => kept
  | a :: rest =>
      if kept.any (covers · a) then keepUncovered covers kept rest
      else keepUncovered covers (kept ++ [a]) rest

/-- The elements that no earlier kept element covers, in their order. -/
def representatives (covers : α → α → Bool) (elements : List α) : List α :=
  keepUncovered covers [] elements

theorem keepUncovered_extends (covers : α → α → Bool) (kept elements : List α) :
    ∃ added, keepUncovered covers kept elements = kept ++ added ∧ added.Sublist elements := by
  induction elements generalizing kept with
  | nil => exact ⟨[], by simp [keepUncovered]⟩
  | cons a rest ih =>
    rw [keepUncovered]
    split
    · obtain ⟨added, equal, inside⟩ := ih kept
      exact ⟨added, equal, inside.cons a⟩
    · obtain ⟨added, equal, inside⟩ := ih (kept ++ [a])
      exact ⟨a :: added, by simp [equal], inside.cons_cons a⟩

theorem representatives_sublist (covers : α → α → Bool) (elements : List α) :
    (representatives covers elements).Sublist elements := by
  obtain ⟨added, equal, inside⟩ := keepUncovered_extends covers [] elements
  simpa [representatives, equal] using inside

end JourneyPlanner

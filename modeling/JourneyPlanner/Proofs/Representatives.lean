import JourneyPlanner.Proofs.Sorting
import JourneyPlanner.Representatives

set_option autoImplicit false

/-!
What is kept of a list when each element kept drops those that it covers. No kept element covers
another one after it, and each dropped one is covered by one kept before it. What fails a test may
be sorted out first or last where elements that cover each other fail it together.
-/
namespace JourneyPlanner

variable {α : Type} {covers : α → α → Bool}

/-- What is left of a list after an element that drops what it covers. -/
def uncovered (covers : α → α → Bool) (a : α) (elements : List α) : List α :=
  elements.filter fun b => !covers a b

/-- The first element stays and all that it covers go, and so on with those that are left. -/
def leading (covers : α → α → Bool) : List α → List α
  | [] => []
  | a :: rest => a :: leading covers (uncovered covers a rest)
termination_by elements => elements.length
decreasing_by exact Nat.lt_succ_of_le (List.length_filter_le _ _)

theorem mem_uncovered {a b : α} {elements : List α} :
    b ∈ uncovered covers a elements ↔ b ∈ elements ∧ covers a b = false := by
  rw [uncovered, List.mem_filter, Bool.not_eq_true']

/-- By induction on the rest, of which those go that one kept so far covers. -/
theorem keepUncovered_eq_leading (kept elements : List α) :
    keepUncovered covers kept elements =
      kept ++ leading covers (elements.filter fun b => !kept.any (covers · b)) := by
  induction elements generalizing kept with
  | nil => rw [keepUncovered, List.filter_nil, leading, List.append_nil]
  | cons a rest ih =>
    rw [keepUncovered]
    by_cases covered : kept.any (covers · a) = true
    · rw [if_pos covered, ih, List.filter_cons_of_neg (by simp [covered])]
    · have left : uncovered covers a (rest.filter fun b => !kept.any (covers · b)) =
          rest.filter fun b => !(kept ++ [a]).any (covers · b) := by
        rw [uncovered, List.filter_filter]
        refine List.filter_congr fun b _ => ?_
        rw [List.any_append, List.any_cons, List.any_nil, Bool.or_false, Bool.not_or, Bool.and_comm]
      rw [if_neg covered, ih, List.filter_cons_of_pos (by simp [covered]), leading, left,
        List.append_assoc, List.singleton_append]

theorem representatives_eq_leading (elements : List α) :
    representatives covers elements = leading covers elements := by
  have all : (elements.filter fun b => !([] : List α).any (covers · b)) = elements :=
    List.filter_eq_self.mpr fun _ _ => rfl
  rw [representatives, keepUncovered_eq_leading, all, List.nil_append]

theorem mem_of_mem_leading {elements : List α} {a : α} (mem : a ∈ leading covers elements) :
    a ∈ elements := by
  rw [← representatives_eq_leading] at mem
  exact (representatives_sublist covers elements).subset mem

/-- No kept element covers one kept after it. -/
theorem representatives_pairwise (elements : List α) :
    (representatives covers elements).Pairwise fun a b => covers a b = false := by
  rw [representatives_eq_leading]
  fun_induction leading covers elements with
  | case1 => exact List.Pairwise.nil
  | case2 a rest ih =>
    refine List.pairwise_cons.mpr ⟨fun b mem => ?_, ih⟩
    exact (mem_uncovered.mp (mem_of_mem_leading mem)).2

/-- Each element is kept or covered by one that is kept and stands before it, and so is related to
it as the list is ordered. -/
theorem exists_representative_before {related : α → α → Prop} {elements : List α} {a : α}
    (ordered : elements.Pairwise related) (mem : a ∈ elements) :
    ∃ k ∈ representatives covers elements, k = a ∨ (covers k a = true ∧ related k a) := by
  rw [representatives_eq_leading]
  fun_induction leading covers elements with
  | case1 => cases mem
  | case2 b rest ih =>
    obtain ⟨first, others⟩ := List.pairwise_cons.mp ordered
    rcases List.mem_cons.mp mem with rfl | later
    · exact ⟨a, List.mem_cons_self, .inl rfl⟩
    · cases covered : covers b a with
      | true => exact ⟨b, List.mem_cons_self, .inr ⟨covered, first a later⟩⟩
      | false =>
        obtain ⟨k, kept, holds⟩ :=
          ih (others.sublist List.filter_sublist) (mem_uncovered.mpr ⟨later, covered⟩)
        exact ⟨k, List.mem_cons_of_mem b kept, holds⟩

theorem exists_representative {elements : List α} {a : α} (mem : a ∈ elements) :
    ∃ k ∈ representatives covers elements, k = a ∨ covers k a = true := by
  have ordered : elements.Pairwise fun _ _ => True := List.pairwise_of_forall fun _ _ => trivial
  have found : ∃ k ∈ representatives covers elements, k = a ∨ (covers k a = true ∧ True) :=
    exists_representative_before ordered mem
  obtain ⟨k, kept, holds⟩ := found
  exact ⟨k, kept, holds.imp_right And.left⟩

/-- Where nothing is covered nothing goes. -/
theorem representatives_of_pairwise {elements : List α}
    (apart : elements.Pairwise fun a b => covers a b = false) :
    representatives covers elements = elements := by
  rw [representatives_eq_leading]
  induction apart with
  | nil => rw [leading]
  | @cons a rest free apart ih =>
    have all : uncovered covers a rest = rest :=
      List.filter_eq_self.mpr fun b mem => by rw [free b mem, Bool.not_false]
    rw [leading, all, ih]

theorem representatives_self (elements : List α) :
    representatives covers (representatives covers elements) = representatives covers elements :=
  representatives_of_pairwise (representatives_pairwise elements)

theorem head?_representatives (elements : List α) :
    (representatives covers elements).head? = elements.head? := by
  rw [representatives_eq_leading]
  cases elements with
  | nil => rw [leading]
  | cons a rest => rw [leading, List.head?_cons, List.head?_cons]

theorem filter_leading {passes : α → Bool}
    (alike : ∀ a b, covers a b = true → passes a = passes b) (elements : List α) :
    (leading covers elements).filter passes = leading covers (elements.filter passes) := by
  fun_induction leading covers elements with
  | case1 => rw [List.filter_nil, leading]
  | case2 a rest ih =>
    have left : (uncovered covers a rest).filter passes =
        uncovered covers a (rest.filter passes) := by
      simp only [uncovered, List.filter_filter, Bool.and_comm]
    rw [left] at ih
    by_cases passing : passes a = true
    · rw [List.filter_cons_of_pos passing, ih, List.filter_cons_of_pos passing, leading]
    · have all : uncovered covers a (rest.filter passes) = rest.filter passes := by
        refine List.filter_eq_self.mpr fun b mem => ?_
        have inside : passes b = true := (List.mem_filter.mp mem).2
        cases covered : covers a b with
        | false => rfl
        | true => exact absurd ((alike a b covered).trans inside) passing
      rw [List.filter_cons_of_neg passing, ih, all, List.filter_cons_of_neg passing]

section Renaming

variable {β : Type} {coversToo : β → β → Bool}

/-- By induction on the list, with what was kept so far general. -/
theorem keepUncovered_map (f : α → β)
    (same : ∀ a b, coversToo (f a) (f b) = covers a b) (kept elements : List α) :
    keepUncovered coversToo (kept.map f) (elements.map f) =
      (keepUncovered covers kept elements).map f := by
  induction elements generalizing kept with
  | nil => rfl
  | cons a rest ih =>
    have covered : (kept.map f).any (coversToo · (f a)) = kept.any (covers · a) := by
      rw [List.any_map]
      exact congrArg kept.any (funext fun k => same k a)
    have added : kept.map f ++ [f a] = (kept ++ [a]).map f := by
      rw [List.map_append, List.map_singleton]
    rw [List.map_cons, keepUncovered, keepUncovered, covered, added, ih, ih]
    split <;> rfl

/-- Of elements that cover each other as those they were made of did, the same are kept. -/
theorem representatives_map (f : α → β)
    (same : ∀ a b, coversToo (f a) (f b) = covers a b) (elements : List α) :
    representatives coversToo (elements.map f) = (representatives covers elements).map f :=
  keepUncovered_map f same [] elements

end Renaming

/-- With their positions in the list, those that are kept stand there in their order, and each other
one is covered by one that is kept and stands before it. -/
theorem exists_positions (elements : List α) :
    ∃ kept : List (α × Nat), kept.Sublist elements.zipIdx ∧
      kept.map Prod.fst = representatives covers elements ∧
        ∀ a ∈ elements.zipIdx, a ∉ kept → ∃ k ∈ kept, k.2 < a.2 ∧ covers k.1 a.1 = true := by
  have kept : representatives covers (elements.zipIdx.map Prod.fst) =
      (representatives (fun a b => covers a.1 b.1) elements.zipIdx).map Prod.fst :=
    representatives_map Prod.fst (fun _ _ => rfl) elements.zipIdx
  rw [List.zipIdx_map_fst] at kept
  refine ⟨_, representatives_sublist _ _, kept.symm, fun a mem dropped => ?_⟩
  obtain ⟨k, here, same | ⟨covered, before⟩⟩ :=
    exists_representative_before (zipIdx_ascending elements) mem
  · exact absurd (same ▸ here) dropped
  · exact ⟨k, here, before, covered⟩

end JourneyPlanner

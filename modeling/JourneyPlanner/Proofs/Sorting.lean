set_option autoImplicit false

/-!
Sorting by comparisons. A list sorted by a transitive comparison is in its order, and what compares
alike keeps the order in which it stood. Two elements of a list without doubles stand in one of two
orders, and elements of any list are told apart by their positions.
-/
namespace JourneyPlanner

section Comparison

variable {α β : Type}

theorem isLE_total (cmp : α → α → Ordering) [Std.OrientedCmp cmp] (a b : α) :
    ((cmp a b).isLE || (cmp b a).isLE) = true := by
  have swap : cmp b a = (cmp a b).swap := Std.OrientedCmp.eq_swap
  rw [swap]
  cases cmp a b <;> rfl

/-- Values are compared through one of their parts as the parts are. -/
theorem transCmp_part (cmp : β → β → Ordering) [Std.TransCmp cmp] (part : α → β) :
    Std.TransCmp fun a b => cmp (part a) (part b) where
  eq_swap := Std.OrientedCmp.eq_swap
  isLE_trans := Std.TransCmp.isLE_trans

theorem mergeSort_inOrder (cmp : α → α → Ordering) [Std.TransCmp cmp] (elements : List α) :
    (elements.mergeSort fun a b => (cmp a b).isLE).Pairwise fun a b => (cmp a b).isLE = true :=
  List.pairwise_mergeSort (fun _ _ _ => Std.TransCmp.isLE_trans) (isLE_total cmp) elements

end Comparison

section Stability

variable {α : Type} {elements : List α} {a b : α}

theorem not_sublist_swap (distinct : elements.Nodup) (forth : [a, b].Sublist elements) :
    ¬ [b, a].Sublist elements := by
  intro back
  induction elements with
  | nil => cases forth
  | cons c rest ih =>
    obtain ⟨fresh, others⟩ := List.nodup_cons.mp distinct
    cases forth with
    | cons _ forth =>
      cases back with
      | cons _ back => exact ih others forth back
      | cons_cons _ back => exact fresh (forth.subset (by simp))
    | cons_cons _ forth =>
      cases back with
      | cons _ back => exact fresh (back.subset (by simp))
      | cons_cons _ back => exact fresh (List.singleton_sublist.mp back)

theorem sublist_or_swap (mem : a ∈ elements) (memToo : b ∈ elements) (different : a ≠ b) :
    [a, b].Sublist elements ∨ [b, a].Sublist elements := by
  obtain ⟨before, after, rfl⟩ := List.append_of_mem mem
  rw [List.mem_append, List.mem_cons] at memToo
  rcases memToo with earlier | same | later
  · right
    exact (List.singleton_sublist.mpr earlier).append (List.singleton_sublist.mpr (by simp))
  · exact absurd same.symm different
  · left
    apply List.Sublist.trans _ (List.sublist_append_right before _)
    exact (List.singleton_sublist.mpr later).cons_cons a

/-- In the sorted list no element stands behind one that it should precede, and where two could
stand either way they stand as they did before. -/
theorem pairwise_mergeSort_stable {before : α → α → Prop} (le : α → α → Bool)
    (trans : ∀ a b c, le a b = true → le b c = true → le a c = true)
    (total : ∀ a b, (le a b || le b a) = true)
    (placed : elements.Pairwise before) (irreflexive : ∀ a, ¬ before a a) :
    (elements.mergeSort le).Pairwise fun a b => le a b = true ∧ (le b a = true → before a b) := by
  have sorted := List.pairwise_mergeSort trans total elements
  have distinct : elements.Nodup := by
    apply placed.imp
    rintro a b before rfl
    exact irreflexive a before
  have distinctToo := (List.mergeSort_perm elements le).nodup_iff.mpr distinct
  rw [List.pairwise_iff_forall_sublist]
  intro a b forth
  refine ⟨List.pairwise_iff_forall_sublist.mp sorted forth, ?_⟩
  intro alike
  have mem : a ∈ elements := List.mem_mergeSort.mp (forth.subset (by simp))
  have memToo : b ∈ elements := List.mem_mergeSort.mp (forth.subset (by simp))
  have different : a ≠ b := by
    have pair := distinctToo.sublist forth
    simpa using pair
  rcases sublist_or_swap mem memToo different with kept | swapped
  · exact List.pairwise_iff_forall_sublist.mp placed kept
  · have back := List.pair_sublist_mergeSort trans total alike swapped
    exact absurd back (not_sublist_swap distinctToo forth)

/-! Positions -/

theorem zipIdx_ascending (elements : List α) :
    elements.zipIdx.Pairwise fun a b => a.2 < b.2 := by
  have ascending := List.pairwise_lt_range' (s := 0) (n := elements.length) 1
  rwa [← List.zipIdx_map_snd 0 elements, List.pairwise_map] at ascending

/-- The elements in their order, each as often as before, and two that may stand either way as they
stood: this is told by the positions that they had. -/
def SortsStably (le : α → α → Prop) (elements sorted : List α) : Prop :=
  ∃ placed : List (α × Nat), placed.Perm elements.zipIdx ∧ placed.map Prod.fst = sorted ∧
    placed.Pairwise fun a b => le a.1 b.1 ∧ (le b.1 a.1 → a.2 < b.2)

theorem sortsStably_mergeSort {le : α → α → Bool}
    (trans : ∀ a b c, le a b = true → le b c = true → le a c = true)
    (total : ∀ a b, (le a b || le b a) = true) (elements : List α) :
    SortsStably (fun a b => le a b = true) elements (elements.mergeSort le) := by
  refine ⟨elements.zipIdx.mergeSort fun a b => le a.1 b.1, List.mergeSort_perm _ _, ?_, ?_⟩
  · rw [List.map_mergeSort (s := le) fun _ _ _ _ => rfl, List.zipIdx_map_fst]
  · exact pairwise_mergeSort_stable (fun a b : α × Nat => le a.1 b.1)
      (fun a b c => trans a.1 b.1 c.1) (fun a b => total a.1 b.1) (zipIdx_ascending elements)
      fun _ => Nat.lt_irrefl _

end Stability

end JourneyPlanner

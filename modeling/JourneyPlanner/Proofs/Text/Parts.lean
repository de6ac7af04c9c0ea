import JourneyPlanner.Proofs.Text.Trimmed

set_option autoImplicit false

/-!
The small form of a part of a text, in its place and alone. They differ only in capital sigmas,
which look at their neighbours: a part keeps the small form that it has in the text just if each
capital sigma in it does.
-/
namespace JourneyPlanner.Text

variable {before part after : List Char}

/-- The small form of a part of a text. As in `lowerFrom`, `passed` holds the characters before it,
the nearest first. -/
def lowerBetween (passed after : List Char) : List Char → List Char
  | [] => []
  | c :: rest =>
      (if c.toNat = 0x3A3 then [lowerSigma passed (rest ++ after)] else lowerChar c) ++
        lowerBetween (c :: passed) after rest

/-- Each capital sigma of the part has the small form in the text that it has in the part alone. -/
def KeepsSigmas (before part after : List Char) : Prop :=
  ∀ front back, part = front ++ 'Σ' :: back →
    lowerSigma (front.reverse ++ before.reverse) (back ++ after) = lowerSigma front.reverse back

/-- The case of neighbours looks through all that follows the last capital sigma. -/
def EndsInSigma (cs : List Char) : Prop :=
  ∃ front back, cs = front ++ 'Σ' :: back ∧ back.all isCaseIgnorable = true

/-! Parts in their places -/

theorem lowerFrom_append (passed cs after : List Char) :
    lowerFrom passed (cs ++ after) =
      lowerBetween passed after cs ++ lowerFrom (cs.reverse ++ passed) after := by
  induction cs generalizing passed with
  | nil => rfl
  | cons c rest ih =>
    rw [List.cons_append, lowerFrom, lowerBetween, ih, List.reverse_cons, List.append_assoc,
      List.append_assoc]
    rfl

theorem lowerBetween_alone (cs : List Char) : lowerBetween [] [] cs = lowerFrom [] cs := by
  have whole := lowerFrom_append [] cs []
  rw [List.append_nil, lowerFrom, List.append_nil] at whole
  exact whole.symm

theorem lowerBetween_infix (before part after : List Char) :
    lowerBetween before.reverse after part <:+: lowerFrom [] (before ++ part ++ after) := by
  refine ⟨lowerBetween [] (part ++ after) before,
    lowerFrom (part.reverse ++ before.reverse) after, ?_⟩
  rw [List.append_assoc before, lowerFrom_append, lowerFrom_append, List.append_nil,
    List.append_assoc]

theorem toNat_eq_sigma_iff {c : Char} : c.toNat = 0x3A3 ↔ c = 'Σ' := by
  rw [← Char.toNat_inj]
  rfl

/-- What is asked of each place of a character in a list is asked of the first one and, past it, of
those in the rest. -/
theorem forall_split_cons {c d : Char} {rest : List Char} {P : List Char → List Char → Prop} :
    (∀ front back, c :: rest = front ++ d :: back → P front back) ↔
      (c = d → P [] rest) ∧ ∀ front back, rest = front ++ d :: back → P (c :: front) back := by
  constructor
  · intro all
    refine ⟨fun first => all [] rest (first ▸ rfl), fun front back split => ?_⟩
    apply all
    rw [split, List.cons_append]
  · rintro ⟨first, others⟩ front back split
    rcases List.cons_eq_append_iff.mp split with ⟨rfl, start⟩ | ⟨shorter, rfl, later⟩
    · obtain ⟨rfl, rfl⟩ := List.cons.inj start
      exact first rfl
    · exact others shorter back later

/-- A part has one small form in two places just if each capital sigma of it has. By induction on
the part, with what is passed before it general. -/
theorem lowerBetween_eq_iff (passed after passedToo afterToo cs : List Char) :
    lowerBetween passed after cs = lowerBetween passedToo afterToo cs ↔
      ∀ front back, cs = front ++ 'Σ' :: back →
        lowerSigma (front.reverse ++ passed) (back ++ after) =
          lowerSigma (front.reverse ++ passedToo) (back ++ afterToo) := by
  induction cs generalizing passed passedToo with
  | nil => simp [lowerBetween]
  | cons c rest ih =>
    rw [forall_split_cons, lowerBetween, lowerBetween]
    simp only [List.reverse_cons, List.append_assoc, List.singleton_append, List.reverse_nil,
      List.nil_append]
    rw [← ih, ← toNat_eq_sigma_iff]
    by_cases sigma : c.toNat = 0x3A3
    · rw [if_pos sigma, if_pos sigma, List.singleton_append, List.singleton_append, List.cons.injEq,
        forall_prop_of_true sigma]
    · rw [if_neg sigma, if_neg sigma, List.append_right_inj, forall_prop_of_false sigma, true_and]

/-- A part keeps the small form that it has in the text just if its capital sigmas do. -/
theorem keepsSigmas_iff :
    KeepsSigmas before part after ↔ lowerBetween before.reverse after part = lowerFrom [] part := by
  rw [← lowerBetween_alone, lowerBetween_eq_iff, KeepsSigmas]
  simp only [List.append_nil]

theorem keepsSigmas_of_not_mem (none : 'Σ' ∉ part) : KeepsSigmas before part after := by
  intro front back split
  rw [split] at none
  exact absurd (List.mem_append_right front List.mem_cons_self) none

/-! Neighbours that do not matter -/

/-- What follows a text is met past it only if the case of neighbours looks through all of it. -/
theorem meetsCased_append (cs after : List Char) :
    meetsCased (cs ++ after) =
      if cs.all isCaseIgnorable then meetsCased after else meetsCased cs := by
  rw [meetsCased, List.dropWhile_append]
  by_cases through : cs.all isCaseIgnorable = true
  · have left : cs.dropWhile isCaseIgnorable = [] :=
      List.dropWhile_eq_nil_iff.mpr (List.all_eq_true.mp through)
    rw [if_pos through, left]
    rfl
  · rw [if_neg through, meetsCased]
    cases left : cs.dropWhile isCaseIgnorable with
    | nil => exact absurd (List.all_eq_true.mpr (List.dropWhile_eq_nil_iff.mp left)) through
    | cons c rest => rfl

theorem meetsCased_append_of_not (cs : List Char) (uncased : meetsCased after = false) :
    meetsCased (cs ++ after) = meetsCased cs := by
  rw [meetsCased_append]
  split
  · rename_i through
    rw [uncased, meetsCased, List.dropWhile_eq_nil_iff.mpr (List.all_eq_true.mp through)]
  · rfl

/-- Where no letter stands next to a part it is one by itself. -/
theorem keepsSigmas_of_uncased (first : meetsCased before.reverse = false)
    (last : meetsCased after = false) : KeepsSigmas before part after := by
  intro front back split
  rw [lowerSigma, lowerSigma, meetsCased_append_of_not _ first, meetsCased_append_of_not _ last]

/-- Of a beginning only a sigma that ends it looks at what is still to come. -/
theorem keepsSigmas_of_beginning (goesOn : ¬ EndsInSigma part) : KeepsSigmas [] part after := by
  intro front back split
  have seen : ¬ back.all isCaseIgnorable = true := fun through =>
    goesOn ⟨front, back, split, through⟩
  rw [List.reverse_nil, List.append_nil, lowerSigma, lowerSigma, meetsCased_append, if_neg seen]

theorem infix_of_keepsSigmas {text name : String}
    (around : name.toList = before ++ text.toList ++ after)
    (kept : KeepsSigmas before text.toList after) :
    (lowercase text).toList <:+: (lowercase name).toList := by
  rw [lowercase, lowercase, String.toList_ofList, String.toList_ofList, around,
    ← keepsSigmas_iff.mp kept]
  exact lowerBetween_infix before text.toList after

end JourneyPlanner.Text

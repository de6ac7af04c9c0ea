import JourneyPlanner.Proofs.Trip.KeyOrder
import JourneyPlanner.Timetable.Paging

set_option autoImplicit false

/-!
What a page cut from an ascending list holds: a window of the trips that it admits. Whether there is
anything before and after it is told by the keys at its ends alone.
-/
namespace JourneyPlanner

namespace Trip

/-- The trips of a list that come after a key. -/
def beyond (key : TripKey) (trips : List Trip) : List Trip :=
  trips.filter fun t => key.precedes t.key

/-- The trips of a list that come before a key. -/
def ahead (key : TripKey) (trips : List Trip) : List Trip :=
  trips.filter fun t => t.key.precedes key

theorem Ascending.filter {trips : List Trip} (ascending : Ascending trips) (p : Trip → Bool) :
    Ascending (trips.filter p) :=
  ascending.sublist List.filter_sublist

theorem Ascending.beyond_append {before after : List Trip} {t : Trip}
    (ascending : Ascending (before ++ t :: after)) :
    beyond t.key (before ++ t :: after) = after := by
  obtain ⟨-, tail, across⟩ := List.pairwise_append.mp ascending
  obtain ⟨following, -⟩ := List.pairwise_cons.mp tail
  have none : before.filter (fun u => t.key.precedes u.key) = [] := by
    rw [List.filter_eq_nil_iff]
    intro u mem
    rw [TripKey.precedes_asymm (across u mem t List.mem_cons_self)]
    decide
  have all : after.filter (fun u => t.key.precedes u.key) = after :=
    List.filter_eq_self.mpr following
  rw [beyond, List.filter_append, none, List.nil_append,
    List.filter_cons_of_neg (by rw [TripKey.precedes_irrefl]; decide), all]

theorem Ascending.ahead_append {before after : List Trip} {t : Trip}
    (ascending : Ascending (before ++ t :: after)) :
    ahead t.key (before ++ t :: after) = before := by
  obtain ⟨-, tail, across⟩ := List.pairwise_append.mp ascending
  obtain ⟨following, -⟩ := List.pairwise_cons.mp tail
  have none : after.filter (fun u => u.key.precedes t.key) = [] := by
    rw [List.filter_eq_nil_iff]
    intro u mem
    rw [TripKey.precedes_asymm (following u mem)]
    decide
  have all : before.filter (fun u => u.key.precedes t.key) = before :=
    List.filter_eq_self.mpr fun u mem => across u mem t List.mem_cons_self
  rw [ahead, List.filter_append, all,
    List.filter_cons_of_neg (by rw [TripKey.precedes_irrefl]; decide), none, List.append_nil]

end Trip

namespace Page

/-- The trips of a list that the page may show. -/
def admitted (page : Page) (trips : List Trip) : List Trip :=
  trips.filter fun t => page.admits t.key

/-- As many elements as fit the page, from the end that it lies at. -/
def window {α : Type} (page : Page) (size : Nat) (elements : List α) : List α :=
  if page.looksBack then lastOf size elements else elements.take size

theorem window_map {α β : Type} (page : Page) (size : Nat) (f : α → β) (elements : List α) :
    (page.window size elements).map f = page.window size (elements.map f) := by
  unfold window
  split
  · simp only [lastOf, List.map_drop, List.length_map]
  · exact List.map_take

/-- What does not fit lies on one side of the window. -/
theorem window_split {α : Type} (page : Page) (size : Nat) (elements : List α) :
    ∃ before after, elements = before ++ page.window size elements ++ after ∧
      (page.looksBack = true → after = []) ∧ (page.looksBack = false → before = []) := by
  unfold window
  split
  · rename_i back
    refine ⟨elements.take (elements.length - size), [], ?_, fun _ => rfl, fun ahead => ?_⟩
    · rw [lastOf, List.append_nil, List.take_append_drop]
    · rw [back] at ahead
      cases ahead
  · refine ⟨[], elements.drop size, ?_, fun back => absurd back ‹_›, fun _ => rfl⟩
    rw [List.nil_append, List.take_append_drop]

theorem window_eq_nil_iff {α : Type} (page : Page) {size : Nat} (positive : 0 < size)
    {elements : List α} : page.window size elements = [] ↔ elements = [] := by
  unfold window
  split
  · rw [lastOf, List.drop_eq_nil_iff, ← List.length_eq_zero_iff]
    omega
  · rw [List.take_eq_nil_iff]
    have some : size ≠ 0 := by omega
    simp only [some, false_or]

theorem length_window_le {α : Type} (page : Page) (size : Nat) (elements : List α) :
    (page.window size elements).length ≤ size := by
  unfold window
  split
  · rw [lastOf, List.length_drop]
    omega
  · rw [List.length_take]
    omega

theorem map_fst_select (page : Page) (size : Nat) (trips : List Trip) :
    (page.select size trips).map (·.1) = page.window size (page.admitted trips) := by
  have whole : trips = trips.zipIdx.map (·.1) := by simp
  have entries : (trips.zipIdx.filter fun entry => page.admits entry.1.key).map (·.1) =
      page.admitted trips := by
    conv => rhs; rw [admitted, whole, List.filter_map]
    rfl
  rw [← entries, ← window_map]
  rfl

theorem mem_select {page : Page} {size : Nat} {trips : List Trip} {entry : Trip × Nat}
    (mem : entry ∈ page.select size trips) : trips[entry.2]? = some entry.1 := by
  have inside : entry ∈ trips.zipIdx.filter fun entry => page.admits entry.1.key := by
    obtain ⟨before, after, split, -⟩ :=
      page.window_split size (trips.zipIdx.filter fun entry => page.admits entry.1.key)
    rw [split]
    exact List.mem_append_left after (List.mem_append_right before mem)
  obtain ⟨t, index⟩ := entry
  exact List.mk_mem_zipIdx_iff_getElem?.mp (List.mem_filter.mp inside).1

end Page

/-- What a page of an ascending list shows, and what lies before and after it. -/
structure Cut.Describes (cut : Cut) (page : Page) (size : Nat) (trips : List Trip) : Prop where
  shown : cut.trips = page.window size (page.admitted trips)
  first : cut.trips.head? = some cut.first
  last : cut.trips.getLast? = some cut.last
  first_mem : cut.first ∈ trips
  last_mem : cut.last ∈ trips
  earlier : cut.earlier = true ↔ Trip.ahead cut.first.key trips ≠ []
  later : cut.later = true ↔ Trip.beyond cut.last.key trips ≠ []

namespace Page

theorem split_at {trips : List Trip} {index : Nat} {t : Trip} (found : trips[index]? = some t) :
    trips = trips.take index ++ t :: trips.drop (index + 1) := by
  obtain ⟨inside, rfl⟩ := List.getElem?_eq_some_iff.mp found
  rw [← List.drop_eq_getElem_cons inside, List.take_append_drop]

theorem describes_of_cut? {page : Page} {size : Nat} {trips : List Trip}
    (ascending : Trip.Ascending trips) {cut : Cut} (made : page.cut? size trips = some cut) :
    cut.Describes page size trips := by
  unfold cut? at made
  cases head : (page.select size trips).head? with
  | none => simp [head] at made
  | some first =>
    cases tail : (page.select size trips).getLast? with
    | none => simp [head, tail] at made
    | some last =>
      simp only [head, tail, Option.some.injEq] at made
      subst made
      have firstAt := mem_select (List.mem_of_mem_head? head)
      have lastAt := mem_select (List.mem_of_mem_getLast? tail)
      have firstSplit := split_at firstAt
      have lastSplit := split_at lastAt
      have firstInside := (List.getElem?_eq_some_iff.mp firstAt).1
      have lastInside := (List.getElem?_eq_some_iff.mp lastAt).1
      have before : Trip.ahead first.1.key trips = trips.take first.2 := by
        conv => lhs; rw [firstSplit]
        exact Trip.Ascending.ahead_append (firstSplit ▸ ascending)
      have after : Trip.beyond last.1.key trips = trips.drop (last.2 + 1) := by
        conv => lhs; rw [lastSplit]
        exact Trip.Ascending.beyond_append (lastSplit ▸ ascending)
      refine ⟨map_fst_select page size trips, ?_, ?_, List.mem_of_getElem? firstAt,
        List.mem_of_getElem? lastAt, ?_, ?_⟩
      · simp only [List.head?_map, head, Option.map_some]
      · simp only [List.getLast?_map, tail, Option.map_some]
      · rw [before, decide_eq_true_iff, ← List.length_pos_iff, List.length_take]
        omega
      · rw [after, decide_eq_true_iff, ← List.length_pos_iff, List.length_drop]
        omega

/-- A page is made where there is a trip that it admits. -/
theorem cut?_eq_none_iff {page : Page} {size : Nat} (positive : 0 < size) {trips : List Trip} :
    page.cut? size trips = none ↔ page.admitted trips = [] := by
  rw [← page.window_eq_nil_iff positive, ← map_fst_select, List.map_eq_nil_iff]
  constructor
  · intro absent
    apply Decidable.byContradiction
    intro selected
    simp only [cut?, List.head?_eq_some_head selected, List.getLast?_eq_some_getLast selected]
      at absent
    cases absent
  · intro none
    simp only [cut?, none, List.head?_nil]

end Page

namespace Trip

/-- An ascending list is what lies before one of its trips, what lies after another and the rest. -/
theorem Ascending.three_parts {trips : List Trip} (ascending : Ascending trips) {first last : Trip}
    (firstMem : first ∈ trips) (lastMem : last ∈ trips)
    (inOrder : last.key.precedes first.key = false) :
    ∃ middle, trips = ahead first.key trips ++ middle ++ beyond last.key trips ∧
      ∀ t ∈ middle, t.key.precedes first.key = false ∧ last.key.precedes t.key = false := by
  obtain ⟨before, after, split⟩ := List.append_of_mem firstMem
  have front : ahead first.key trips = before := by
    rw [split]
    exact Ascending.ahead_append (split ▸ ascending)
  have tail := (List.pairwise_append.mp (split ▸ ascending)).2.1
  have notBefore : ∀ t ∈ first :: after, t.key.precedes first.key = false := by
    intro t mem
    rcases List.mem_cons.mp mem with rfl | later
    · exact TripKey.precedes_irrefl t.key
    · exact TripKey.precedes_asymm ((List.pairwise_cons.mp tail).1 t later)
  have lastInside : last ∈ first :: after := by
    rcases List.mem_append.mp (split ▸ lastMem) with early | inside
    · have across := (List.pairwise_append.mp (split ▸ ascending)).2.2
      rw [across last early first List.mem_cons_self] at inOrder
      cases inOrder
    · exact inside
  obtain ⟨inner, post, cut⟩ := List.append_of_mem lastInside
  have back : beyond last.key trips = post := by
    rw [split, cut, ← List.append_assoc]
    rw [split, cut, ← List.append_assoc] at ascending
    exact ascending.beyond_append
  refine ⟨inner ++ [last], ?_, fun t mem => ⟨notBefore t ?_, ?_⟩⟩
  · rw [front, back]
    simpa [cut] using split
  · rw [cut]
    rcases List.mem_append.mp mem with inside | final
    · exact List.mem_append_left _ inside
    · rw [List.mem_singleton.mp final]
      exact List.mem_append_right _ List.mem_cons_self
  · have across := (List.pairwise_append.mp (cut ▸ tail)).2.2
    rcases List.mem_append.mp mem with inside | final
    · exact TripKey.precedes_asymm (across t inside last List.mem_cons_self)
    · rw [List.mem_singleton.mp final]
      exact TripKey.precedes_irrefl last.key

theorem ahead_filter (key : TripKey) (p : Trip → Bool) (trips : List Trip) :
    ahead key (trips.filter p) = (ahead key trips).filter p := by
  simp only [ahead, List.filter_filter, Bool.and_comm]

theorem beyond_filter (key : TripKey) (p : Trip → Bool) (trips : List Trip) :
    beyond key (trips.filter p) = (beyond key trips).filter p := by
  simp only [beyond, List.filter_filter, Bool.and_comm]

end Trip

namespace Cut.Describes

variable {cut : Cut} {page : Page} {size : Nat} {trips : List Trip}

theorem trips_ne_nil (described : cut.Describes page size trips) : cut.trips ≠ [] := by
  intro empty
  have first := described.first
  rw [empty] at first
  cases first

theorem length_le (described : cut.Describes page size trips) : cut.trips.length ≤ size := by
  rw [described.shown]
  exact page.length_window_le size _

/-- The page is a block of the trips that it admits, and lies at one end of them. -/
theorem admitted_split (described : cut.Describes page size trips)
    (ascending : Trip.Ascending trips) :
    page.admitted trips = Trip.ahead cut.first.key (page.admitted trips) ++ cut.trips ++
        Trip.beyond cut.last.key (page.admitted trips) ∧
      (page.looksBack = true → Trip.beyond cut.last.key (page.admitted trips) = []) ∧
      (page.looksBack = false → Trip.ahead cut.first.key (page.admitted trips) = []) := by
  obtain ⟨before, after, split, back, front⟩ := page.window_split size (page.admitted trips)
  rw [← described.shown] at split
  have order : Trip.Ascending (page.admitted trips) := ascending.filter _
  have ahead : Trip.ahead cut.first.key (page.admitted trips) = before := by
    obtain ⟨tail, shown⟩ := List.head?_eq_some_iff.mp described.first
    have whole : page.admitted trips = before ++ cut.first :: (tail ++ after) := by
      conv => lhs; rw [split, shown]
      simp
    rw [whole]
    exact Trip.Ascending.ahead_append (whole ▸ order)
  have beyond : Trip.beyond cut.last.key (page.admitted trips) = after := by
    obtain ⟨front, shown⟩ := List.getLast?_eq_some_iff.mp described.last
    have whole : page.admitted trips = (before ++ front) ++ cut.last :: after := by
      conv => lhs; rw [split, shown]
      simp
    rw [whole]
    exact Trip.Ascending.beyond_append (whole ▸ order)
  rw [ahead, beyond]
  exact ⟨split, back, front⟩

theorem mem_admitted (described : cut.Describes page size trips) {t : Trip}
    (mem : t ∈ cut.trips) : t ∈ page.admitted trips := by
  obtain ⟨before, after, split, -⟩ := page.window_split size (page.admitted trips)
  rw [split, ← described.shown]
  exact List.mem_append_left after (List.mem_append_right before mem)

theorem admits_of_mem (described : cut.Describes page size trips) {t : Trip}
    (mem : t ∈ cut.trips) : page.admits t.key = true :=
  (List.mem_filter.mp (described.mem_admitted mem)).2

theorem first_admitted (described : cut.Describes page size trips) :
    page.admits cut.first.key = true ∧ page.admits cut.last.key = true :=
  ⟨described.admits_of_mem (List.mem_of_mem_head? described.first),
    described.admits_of_mem (List.mem_of_mem_getLast? described.last)⟩

theorem last_not_precedes_first (described : cut.Describes page size trips)
    (ascending : Trip.Ascending trips) : cut.last.key.precedes cut.first.key = false := by
  have order : Trip.Ascending cut.trips := by
    obtain ⟨before, after, split, -⟩ := page.window_split size (page.admitted trips)
    rw [← described.shown] at split
    have whole : Trip.Ascending (page.admitted trips) := ascending.filter _
    rw [split] at whole
    exact (List.pairwise_append.mp (List.pairwise_append.mp whole).1).2.1
  obtain ⟨tail, shown⟩ := List.head?_eq_some_iff.mp described.first
  have last := List.mem_of_mem_getLast? described.last
  rw [shown] at order last
  rcases List.mem_cons.mp last with same | later
  · rw [same]
    exact TripKey.precedes_irrefl _
  · exact TripKey.precedes_asymm ((List.pairwise_cons.mp order).1 _ later)

/-- The page with all that lies before it and after it: what it leaves out are the trips between its
ends that it does not admit. -/
theorem covers (described : cut.Describes page size trips) (ascending : Trip.Ascending trips) :
    Trip.ahead cut.first.key trips ++ cut.trips ++ Trip.beyond cut.last.key trips =
      trips.filter fun t => t.key.precedes cut.first.key || cut.last.key.precedes t.key ||
        page.admits t.key := by
  obtain ⟨middle, whole, between⟩ := ascending.three_parts described.first_mem described.last_mem
    (described.last_not_precedes_first ascending)
  have shown : cut.trips = middle.filter fun t => page.admits t.key := by
    have split := (described.admitted_split ascending).1
    have parts : page.admitted trips =
        (Trip.ahead cut.first.key trips).filter (fun t => page.admits t.key) ++
          middle.filter (fun t => page.admits t.key) ++
          (Trip.beyond cut.last.key trips).filter (fun t => page.admits t.key) := by
      conv => lhs; rw [Page.admitted, whole]
      simp only [List.filter_append]
    rw [Page.admitted, Trip.ahead_filter, Trip.beyond_filter, ← Page.admitted, parts] at split
    exact (List.append_cancel_left (List.append_cancel_right split)).symm
  have front : ∀ t ∈ Trip.ahead cut.first.key trips, t.key.precedes cut.first.key = true :=
    fun t mem => (List.mem_filter.mp mem).2
  have back : ∀ t ∈ Trip.beyond cut.last.key trips, cut.last.key.precedes t.key = true :=
    fun t mem => (List.mem_filter.mp mem).2
  conv => rhs; rw [whole]
  rw [List.filter_append, List.filter_append, shown]
  congr 1
  · congr 1
    · exact (List.filter_eq_self.mpr fun t mem => by simp [front t mem]).symm
    · exact List.filter_congr fun t mem => by simp [between t mem]
  · exact (List.filter_eq_self.mpr fun t mem => by simp [back t mem]).symm

/-- After a page that follows a key lies what followed the key less the page. -/
theorem beyond_split {bound : TripKey} (described : cut.Describes (.after bound) size trips)
    (ascending : Trip.Ascending trips) :
    Trip.beyond bound trips = cut.trips ++ Trip.beyond cut.last.key trips := by
  obtain ⟨split, -, front⟩ := described.admitted_split ascending
  have inside : (Trip.beyond cut.last.key trips).filter (fun t => bound.precedes t.key) =
      Trip.beyond cut.last.key trips := by
    rw [List.filter_eq_self]
    exact fun t mem =>
      TripKey.precedes_trans described.first_admitted.2 (List.mem_filter.mp mem).2
  rw [front rfl, List.nil_append, Page.admitted, Trip.beyond_filter] at split
  simp only [Page.admits, inside] at split
  exact split

/-- Before a page that precedes a key lies what preceded the key less the page. -/
theorem ahead_split {bound : TripKey} (described : cut.Describes (.before bound) size trips)
    (ascending : Trip.Ascending trips) :
    Trip.ahead bound trips = Trip.ahead cut.first.key trips ++ cut.trips := by
  obtain ⟨split, back, -⟩ := described.admitted_split ascending
  have inside : (Trip.ahead cut.first.key trips).filter (fun t => t.key.precedes bound) =
      Trip.ahead cut.first.key trips := by
    rw [List.filter_eq_self]
    exact fun t mem =>
      TripKey.precedes_trans (List.mem_filter.mp mem).2 described.first_admitted.1
  rw [back rfl, List.append_nil, Page.admitted, Trip.ahead_filter] at split
  simp only [Page.admits, inside] at split
  exact split

end Cut.Describes

end JourneyPlanner

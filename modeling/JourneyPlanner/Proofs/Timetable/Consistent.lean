import Mathlib
import JourneyPlanner.Proofs.Sorting
import JourneyPlanner.Proofs.Timetable.Named
import JourneyPlanner.Proofs.Timetable.Riding

set_option autoImplicit false

/-!
What holds of every loaded timetable: places are found by their ids, services call at stations of it
in the order of time, passengers board at every call but the last, and each place tells what serves
it.
-/
namespace JourneyPlanner

/-- The place has a kind that goes by an id, and its location has the id, the point and a name. -/
structure Place.Located (p : Place) : Prop where
  kind : p.location.kind = .station ∨ p.location.kind = .poi ∨ p.location.kind = .address
  id : p.location.id = some p.id
  point : p.location.point = some p.point
  name : p.location.name.isSome = true

/-- The calls of a service lead from station to station of the timetable, and never back in time. -/
structure Service.Scheduled (tt : Timetable) (s : Service) : Prop where
  enough : 2 ≤ s.calls.length
  stations : ∀ call ∈ s.calls,
    tt.places[call.station.number]? = some call.station ∧ call.station.isStation = true
  waits : ∀ call ∈ s.calls, call.arrival ≤ call.departure
  onward : s.calls.IsChain fun call next => call.departure ≤ next.arrival

/-- The positions of the service and of the call. -/
def Boarding.index (b : Boarding) : Nat × Nat :=
  (b.service.number, b.position)

namespace Timetable

/-- Passengers board at a place just where a service calls and goes on, in the order of time. -/
structure IndexesBoardingsAt (tt : Timetable) (p : Place) : Prop where
  distinct : ((tt.boardingsAt p).map Boarding.index).Nodup
  ordered : (tt.boardingsAt p).Pairwise fun a b => (Boarding.compareTime a b).isLE = true
  complete : ∀ n c, (n, c) ∈ (tt.boardingsAt p).map Boarding.index ↔
    ∃ s call, tt.services[n]? = some s ∧ s.calls[c]? = some call ∧ call.station = p ∧
      c + 1 < s.calls.length
  read : ∀ b ∈ tt.boardingsAt p, tt.services[b.service.number]? = some b.service ∧
    b.service.calls[b.position]? = some b.call ∧ b.ahead = b.service.calls.drop (b.position + 1)

/-- A place tells the products of the services that call there, if there are any. -/
structure TellsProductsAt (tt : Timetable) (p : Place) : Prop where
  absent : p.location.products = none ↔ ∀ s ∈ tt.services, ∀ call ∈ s.calls, call.station ≠ p
  members : ∀ products, p.location.products = some products → ∀ product,
    product ∈ products.members ↔
      ∃ s ∈ tt.services, (∃ call ∈ s.calls, call.station = p) ∧ s.line.product = some product

structure Consistent (tt : Timetable) : Prop where
  distinct : (tt.places.map Place.id).Nodup
  indexed : ∀ id n, (tt.placeWithId? id).map Place.number = some n ↔
    (tt.places.map Place.id)[n]? = some id
  places : ∀ p ∈ tt.places, p.Located
  services : ∀ s ∈ tt.services, s.Scheduled tt
  boardings : ∀ p ∈ tt.places, tt.IndexesBoardingsAt p
  products : ∀ p ∈ tt.places, tt.TellsProductsAt p

end Timetable

/-! Places under their ids -/

namespace Place

theorem located_of_ofRecord {loaded : List Place} {r : PlaceRecord} {p : Place}
    (read : ofRecord loaded r = .ok p) : p.Located ∧ p.location.products = none := by
  obtain ⟨-, valid, makes, -, unserved⟩ := outcome_of_ok read
  refine ⟨⟨?_, ?_, ?_, ?_⟩, unserved⟩
  · rw [PlaceRecord.isValid, Bool.and_eq_true, Bool.and_eq_true] at valid
    rw [makes.details, PlaceRecord.details]
    simpa [or_assoc] using valid.1.1
  · rw [makes.details, makes.id]
    rfl
  · rw [makes.details]
    rfl
  · rw [makes.details]
    rfl

theorem Located.serving {p : Place} (located : p.Located) (services : List Service) :
    (p.serving services).Located := by
  unfold Place.serving
  split
  · exact located
  · exact ⟨located.kind, located.id, located.point, located.name⟩

end Place

namespace Timetable

variable {tt : Timetable} {p : Place}

theorem of_placeWithId? {id : String} (found : tt.placeWithId? id = some p) :
    p ∈ tt.places ∧ p.id = id := by
  unfold placeWithId? at found
  have same := List.find?_some found
  exact ⟨List.mem_of_find?_eq_some found, of_decide_eq_true same⟩

theorem placeWithId?_id (named : NamedPlaces tt.places) (known : p ∈ tt.places) :
    tt.placeWithId? p.id = some p := by
  cases found : tt.placeWithId? p.id with
  | none =>
    have other := List.find?_eq_none.mp found p known
    exact absurd (decide_eq_true rfl) other
  | some q =>
    obtain ⟨knownToo, same⟩ := of_placeWithId? found
    rw [named.eq_of_id knownToo known same]

/-- Looking up an id leads to the position that has it. -/
theorem placeWithId?_number (sound : tt.Sound) (named : NamedPlaces tt.places) (id : String)
    (n : Nat) :
    (tt.placeWithId? id).map Place.number = some n ↔ (tt.places.map Place.id)[n]? = some id := by
  rw [List.getElem?_map, Option.map_eq_some_iff, Option.map_eq_some_iff]
  constructor
  · rintro ⟨p, found, rfl⟩
    obtain ⟨known, same⟩ := of_placeWithId? found
    exact ⟨p, sound.places_numbered.getElem?_of_mem known, same⟩
  · rintro ⟨p, found, rfl⟩
    have known := List.mem_of_getElem? found
    exact ⟨p, placeWithId?_id named known, sound.places_numbered n p found⟩

theorem is_iff (sound : tt.Sound) {q : Place} (known : p ∈ tt.places) (knownToo : q ∈ tt.places) :
    p.is q = true ↔ p = q := by
  refine ⟨Place.eq_of_is sound known knownToo, ?_⟩
  rintro rfl
  exact decide_eq_true rfl

end Timetable

/-! Services and boardings -/

namespace Service

theorem scheduled_of_runsOver {tt : Timetable} {s : Service} (sound : tt.Sound)
    (runs : s.RunsOver tt.places) (enough : 2 ≤ s.calls.length) : s.Scheduled tt := by
  obtain ⟨waits, onward⟩ := Call.inOrder_pairwise runs.inOrder
  refine ⟨enough, fun call mem => ?_, waits, onward.isChain⟩
  obtain ⟨known, station⟩ := runs.stations call mem
  exact ⟨sound.places_numbered.getElem?_of_mem known, station⟩

/-- A boarding is told by its position: what follows its call is what is ahead. -/
theorem mem_boardings_iff {s : Service} {b : Boarding} :
    b ∈ s.boardings ↔ b.service = s ∧ s.calls[b.position]? = some b.call ∧
      b.ahead = s.calls.drop (b.position + 1) ∧ b.position + 1 < s.calls.length := by
  rw [mem_boardings]
  constructor
  · rintro ⟨before, split, some, owner, place⟩
    have length := List.length_pos_iff.mpr some
    refine ⟨owner, ?_, ?_, ?_⟩
    · rw [split, place, List.getElem?_append_right (Nat.le_refl _), Nat.sub_self]
      rfl
    · rw [split, place, List.drop_append, List.drop_of_length_le (Nat.le_succ _)]
      simp
    · rw [split, place, List.length_append, List.length_cons]
      omega
  · rintro ⟨owner, here, ahead, inside⟩
    obtain ⟨within, call⟩ := List.getElem?_eq_some_iff.mp here
    refine ⟨s.calls.take b.position, ?_, ?_, owner, ?_⟩
    · rw [ahead, ← call, ← List.drop_eq_getElem_cons within, List.take_append_drop]
    · rw [ahead, ne_eq, List.drop_eq_nil_iff]
      omega
    · rw [List.length_take]
      omega

theorem map_position_boardingsFrom (s : Service) (position : Nat) (calls : List Call) :
    (s.boardingsFrom position calls).map Boarding.position =
      List.range' position (calls.length - 1) := by
  induction calls generalizing position with
  | nil => rw [boardingsFrom.eq_def]; rfl
  | cons call rest ih =>
    cases rest with
    | nil => rw [boardingsFrom.eq_def]; rfl
    | cons next rest =>
      rw [boardingsFrom, List.map_cons, ih]
      rfl

/-- Each call of a service is boarded once. -/
theorem nodup_boardings (s : Service) : (s.boardings.map Boarding.index).Nodup := by
  have positions : (s.boardings.map Boarding.position).Nodup := by
    rw [boardings, map_position_boardingsFrom]
    exact List.nodup_range'
  have second : s.boardings.map Boarding.position =
      (s.boardings.map Boarding.index).map Prod.snd := by
    rw [List.map_map]
    rfl
  rw [second] at positions
  exact positions.of_map

end Service

namespace Boarding

instance : Std.TransCmp compareTime :=
  inferInstanceAs (Std.TransCmp (compareLex (compareOn fun b => b.call.departure)
    (compareLex (compareOn fun b => b.service.number) (compareOn position))))

/-- Each call of each service is boarded once. -/
theorem nodup_ofServices {services : List Service} (numbered : Numbered Service.number services) :
    ((ofServices services).map index).Nodup := by
  have sorted := (List.mergeSort_perm (services.flatMap Service.boardings)
    fun a b => (compareTime a b).isLE).map index
  rw [ofServices, sorted.nodup_iff, List.map_flatMap, List.nodup_flatMap]
  refine ⟨fun s _ => s.nodup_boardings, numbered.ascending.imp fun {s t} before => ?_⟩
  intro index first second
  obtain ⟨b, mem, rfl⟩ := List.mem_map.mp first
  obtain ⟨c, memToo, same⟩ := List.mem_map.mp second
  obtain ⟨owner, -⟩ := Service.mem_boardings_iff.mp mem
  obtain ⟨ownerToo, -⟩ := Service.mem_boardings_iff.mp memToo
  rw [← owner, ← ownerToo] at before
  exact Nat.ne_of_lt before (congrArg Prod.fst same).symm

end Boarding

namespace Timetable

variable {tt : Timetable} {p : Place}

theorem indexesBoardingsAt (sound : tt.Sound) (known : p ∈ tt.places) :
    tt.IndexesBoardingsAt p := by
  have services : ∀ s ∈ tt.services, tt.services[s.number]? = some s :=
    fun s scheduled => sound.services_numbered.getElem?_of_mem scheduled
  have read : ∀ b ∈ tt.boardingsAt p, tt.services[b.service.number]? = some b.service ∧
      b.service.calls[b.position]? = some b.call ∧
        b.ahead = b.service.calls.drop (b.position + 1) := by
    intro b mem
    obtain ⟨scheduled, boarded, -⟩ := mem_boardingsAt.mp mem
    obtain ⟨-, here, ahead, -⟩ := Service.mem_boardings_iff.mp boarded
    exact ⟨services b.service scheduled, here, ahead⟩
  refine ⟨?_, ?_, fun n c => ?_, read⟩
  · have all := Boarding.nodup_ofServices sound.services_numbered
    rw [← tt.boardings_eq] at all
    exact (List.filter_sublist.map Boarding.index).nodup all
  · have sorted := mergeSort_inOrder Boarding.compareTime (tt.services.flatMap Service.boardings)
    rw [← Boarding.ofServices, ← tt.boardings_eq] at sorted
    exact sorted.sublist List.filter_sublist
  · rw [List.mem_map]
    constructor
    · rintro ⟨b, mem, same⟩
      cases same
      obtain ⟨scheduled, boarded, here⟩ := mem_boardingsAt.mp mem
      obtain ⟨-, call, -, inside⟩ := Service.mem_boardings_iff.mp boarded
      have station := ((sound.services_run _ scheduled).stations _ (List.mem_of_getElem? call)).1
      exact ⟨b.service, b.call, services _ scheduled, call, (is_iff sound station known).mp here,
        inside⟩
    · rintro ⟨s, call, scheduled, found, rfl, inside⟩
      refine ⟨⟨s, c, call, s.calls.drop (c + 1)⟩, mem_boardingsAt.mpr ⟨?_, ?_, ?_⟩, ?_⟩
      · exact List.mem_of_getElem? scheduled
      · exact Service.mem_boardings_iff.mpr ⟨rfl, found, rfl, inside⟩
      · exact decide_eq_true rfl
      · rw [Boarding.index, sound.services_numbered n s scheduled]

end Timetable

/-! What serves a place -/

namespace Place

theorem mem_productsOf {services : List Service} {p : Place} {product : Product} :
    product ∈ productsOf services p ↔
      ∃ s ∈ services, s.callsAt p = true ∧ s.line.product = some product := by
  rw [productsOf, List.mem_filterMap]
  constructor
  · rintro ⟨s, mem, found⟩
    by_cases calls : s.callsAt p = true
    · rw [if_pos calls] at found
      exact ⟨s, mem, calls, found⟩
    · rw [if_neg calls] at found
      cases found
  · rintro ⟨s, mem, calls, found⟩
    exact ⟨s, mem, by rw [if_pos calls, found]⟩

/-- Neither lines nor positions change with what places tell of them. -/
theorem productsOf_withStations (services : List Service) (p : Place) :
    productsOf (services.map (Service.withStations services)) (p.serving services) =
      productsOf services p := by
  have callsAt : ∀ s : Service,
      (s.withStations services).callsAt (p.serving services) = s.callsAt p := by
    intro s
    simp only [Service.callsAt, Service.withStations, List.any_map, Function.comp_def, Place.is,
      number_serving]
  rw [productsOf, List.filterMap_map]
  simp only [Function.comp_def, callsAt]
  rfl

end Place

namespace Timetable

variable {tt : Timetable} {p : Place}

theorem callsAt_iff (sound : tt.Sound) (known : p ∈ tt.places) {s : Service}
    (scheduled : s ∈ tt.services) :
    s.callsAt p = true ↔ ∃ call ∈ s.calls, call.station = p := by
  rw [Service.callsAt, List.any_eq_true]
  refine exists_congr fun call => and_congr_right fun mem => ?_
  exact is_iff sound ((sound.services_run s scheduled).stations call mem).1 known

theorem tellsProductsAt (sound : tt.Sound) (known : p ∈ tt.places)
    (lines : ∀ s ∈ tt.services, s.line.product ≠ none)
    (told : p.location.products = match Place.productsOf tt.services p with
      | [] => none
      | products => some (.ofList products)) : tt.TellsProductsAt p := by
  have served : ∀ product, product ∈ Place.productsOf tt.services p ↔
      ∃ s ∈ tt.services, (∃ call ∈ s.calls, call.station = p) ∧ s.line.product = some product := by
    intro product
    rw [Place.mem_productsOf]
    refine exists_congr fun s => and_congr_right fun scheduled => and_congr_left fun _ => ?_
    exact callsAt_iff sound known scheduled
  cases found : Place.productsOf tt.services p with
  | nil =>
    rw [found] at told served
    refine ⟨iff_of_true told fun s scheduled call mem here => ?_, fun products some => ?_⟩
    · obtain ⟨product, line⟩ := Option.ne_none_iff_exists'.mp (lines s scheduled)
      exact absurd ((served product).mpr ⟨s, scheduled, ⟨call, mem, here⟩, line⟩)
        List.not_mem_nil
    · rw [told] at some
      cases some
  | cons first rest =>
    rw [found] at told served
    obtain ⟨s, scheduled, ⟨call, mem, here⟩, -⟩ := (served first).mp List.mem_cons_self
    refine ⟨iff_of_false ?_ fun away => away s scheduled call mem here, fun products some => ?_⟩
    · rw [told]
      exact Option.some_ne_none _
    · rw [told, Option.some.injEq] at some
      intro product
      rw [← some, Selection.mem_ofList, served]

end Timetable

theorem Line.product_ofRecord (network : String) (badges : BadgeTable) (bikes wheelchairs : Bool)
    (r : LineRecord) :
    (Line.ofRecord network badges bikes wheelchairs r).product = some r.product := by
  cases bikes <;> cases wheelchairs <;> rfl

theorem Service.enough_of_ofRecord {file : TimetableFile} {places : List Place}
    {loaded : List Service} {r : ServiceRecord} {s : Service}
    (read : ofRecord file.network file.badges places loaded r = .ok s) :
    2 ≤ s.calls.length ∧ s.line.product = some r.line.product := by
  obtain ⟨valid, makes, -, -⟩ := outcome_of_ok read
  simp only [ServiceRecord.isValid, Bool.and_eq_true, decide_eq_true_eq] at valid
  rw [← makes.calls.length_eq, makes.line, Line.product_ofRecord]
  exact ⟨valid.1.1, rfl⟩

theorem Place.products_serving {services : List Service} {p : Place}
    (unserved : p.location.products = none) :
    (p.serving services).location.products = match productsOf services p with
      | [] => none
      | products => some (.ofList products) := by
  cases served : productsOf services p with
  | nil =>
    simp only [serving, served]
    exact unserved
  | cons first rest =>
    simp only [serving, served]
    rfl

namespace Timetable

variable {tt : Timetable}

/-- A loaded timetable is in order, whatever the records of its document. -/
theorem consistent_of_ofFile {file : TimetableFile} (loaded : (ofFile file).value = .ok tt) :
    tt.Consistent := by
  have sound := sound_of_ofFile loaded
  have named := named_of_ofFile loaded
  obtain ⟨-, -, minChange, -, rfl⟩ := ofFile_eq_ok_iff.mp loaded
  have places : ∀ p ∈ file.loadedPlaces.value, p.Located ∧ p.location.products = none := by
    intro p mem
    obtain ⟨before, r, read⟩ := made_of_mem_loadRecords mem
    exact Place.located_of_ofRecord read
  have services : ∀ s ∈ file.loadedServices.value,
      2 ≤ s.calls.length ∧ s.line.product ≠ none := by
    intro s mem
    obtain ⟨before, r, read⟩ := made_of_mem_loadRecords mem
    obtain ⟨enough, line⟩ := Service.enough_of_ofRecord read
    exact ⟨enough, line ▸ Option.some_ne_none r.line.product⟩
  refine ⟨named.distinct, placeWithId?_number sound named, fun p mem => ?_, fun s mem => ?_,
    fun p mem => indexesBoardingsAt sound mem,
    fun p mem => tellsProductsAt sound mem (fun s mem => ?_) ?_⟩
  · obtain ⟨q, inside, rfl⟩ := List.mem_map.mp mem
    exact (places q inside).1.serving file.loadedServices.value
  · refine Service.scheduled_of_runsOver sound (sound.services_run s mem) ?_
    obtain ⟨t, inside, rfl⟩ := List.mem_map.mp mem
    rw [Service.withStations, List.length_map]
    exact (services t inside).1
  · obtain ⟨t, inside, rfl⟩ := List.mem_map.mp mem
    exact (services t inside).2
  · obtain ⟨q, inside, rfl⟩ := List.mem_map.mp mem
    rw [Place.products_serving (places q inside).2, ← Place.productsOf_withStations]
    rfl

theorem consistent_of_ofFile_patchy :
    ∃ tt, (ofFile Sample.patchy).value = .ok tt ∧ tt.places.length = 3 ∧
      tt.services.length = 1 ∧ tt.Consistent := by
  have checked : ((ofFile Sample.patchy).value.toOption.any fun tt =>
      decide (tt.places.length = 3) && decide (tt.services.length = 1)) = true := rfl
  obtain ⟨tt, loaded, checked⟩ := exists_ok_of_any checked
  obtain ⟨places, services⟩ := Bool.and_eq_true_iff.mp checked
  exact ⟨tt, loaded, of_decide_eq_true places, of_decide_eq_true services,
    consistent_of_ofFile loaded⟩

end Timetable

end JourneyPlanner

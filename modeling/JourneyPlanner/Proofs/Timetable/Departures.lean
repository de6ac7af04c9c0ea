import JourneyPlanner.Proofs.Fallible
import JourneyPlanner.Proofs.Text.Trimmed
import JourneyPlanner.Proofs.Timetable.Boards
import JourneyPlanner.Proofs.Timetable.Groups

set_option autoImplicit false

/-!
Questions for the departures of a station. What the station is called is read without the white
space around it, so a station is found by its id unless there is white space around that. The boards
shown are exact, and stations of one group show the same boards, each its own first.
-/
namespace JourneyPlanner

/-- No place goes by the empty id. -/
theorem NamedPlaces.id_ne_empty {places : List Place} (named : NamedPlaces places) {p : Place}
    (known : p ∈ places) : p.id ≠ "" := by
  intro empty
  have sound := p.location.sound
  have blank : p.location.id.any Text.isBlankText = true := by
    rw [named.located p known, empty]
    rfl
  rw [LocationDetails.violation, if_pos blank] at sound
  cases sound

namespace TimetableService

variable {ts : TimetableService} {q : DeparturesQuery}

/-- The stations whose boards are shown for one of them. -/
def stationsShown (ts : TimetableService) (q : DeparturesQuery) (p : Place) : List Place :=
  if q.equivalents then ts.timetable.equivalents p else [p]

/-- What a station shows to a question. -/
def IsBoardOf (ts : TimetableService) (q : DeparturesQuery) (p : Place) (b : Board) : Prop :=
  ts.board (q.time.getD ts.timetable.validFrom) q.maxCount p = .ok b

theorem isBoardOf_rightUnique : Relator.RightUnique (ts.IsBoardOf q) := by
  intro p b c first second
  exact Except.ok.inj (first.symm.trans second)

theorem location_of_isBoardOf {p : Place} {b : Board} (own : ts.IsBoardOf q p b) :
    b.location = p.location := by
  unfold IsBoardOf board Board.ofDepartures at own
  split at own
  · cases own
    rfl
  · cases own

/-- The station itself is always the first. -/
theorem exists_stationsShown (ts : TimetableService) (q : DeparturesQuery) (p : Place) :
    ∃ rest, ts.stationsShown q p = p :: rest := by
  unfold stationsShown Timetable.equivalents
  split
  · cases p.group with
    | none => exact ⟨[], rfl⟩
    | some group => exact ⟨_, rfl⟩
  · exact ⟨[], rfl⟩

theorem exists_isBoardOf (sound : ts.timetable.Sound) {p : Place} (known : p ∈ ts.timetable.places)
    (station : p.isStation = true) (q : DeparturesQuery) : ∃ b, ts.IsBoardOf q p b := by
  obtain ⟨b, made, -⟩ := exists_board sound known station
    (q.time.getD ts.timetable.validFrom) q.maxCount
  exact ⟨b, made⟩

/-- What comes of a question: a station is called by its id, and white space around what it is
called counts for nothing. -/
inductive DeparturesOutcome (ts : TimetableService) (q : DeparturesQuery) :
    Except QueryError DeparturesResponse → Prop where
  | refused (blank : Text.isBlankText q.station = true) :
      DeparturesOutcome ts q (.error (.invalidArgument .stationId))
  | unknown (shown : Text.isBlankText q.station = false)
      (nowhere : ∀ p ∈ ts.timetable.places, p.isStation = true → p.id ≠ Text.trim q.station) :
      DeparturesOutcome ts q
        (.ok ((Response.failed .invalidStation).withHeader ts.timetable.header))
  | shown {p : Place} {boards : List Board} (known : p ∈ ts.timetable.places)
      (station : p.isStation = true) (called : p.id = Text.trim q.station)
      (made : List.Forall₂ (ts.IsBoardOf q) (ts.stationsShown q p) boards) :
      DeparturesOutcome ts q (.ok ((Response.ok boards).withHeader ts.timetable.header))

section Answers

variable (sound : ts.timetable.Sound) (named : NamedPlaces ts.timetable.places)

include sound named

theorem known_of_mem_stationsShown {p s : Place} (known : p ∈ ts.timetable.places)
    (station : p.isStation = true) (mem : s ∈ ts.stationsShown q p) :
    s ∈ ts.timetable.places ∧ s.isStation = true := by
  unfold stationsShown at mem
  split at mem
  · obtain ⟨knownToo, stationToo, -⟩ :=
      ((Timetable.listsGroup sound named known station).members s).mp mem
    exact ⟨knownToo, stationToo⟩
  · rw [List.mem_singleton.mp mem]
    exact ⟨known, station⟩

/-- All stations that are to be shown have their boards. -/
theorem exists_boardsShown {p : Place} (known : p ∈ ts.timetable.places)
    (station : p.isStation = true) (q : DeparturesQuery) :
    ∃ boards, (ts.stationsShown q p).mapM
        (ts.board (q.time.getD ts.timetable.validFrom) q.maxCount) = .ok boards ∧
      List.Forall₂ (ts.IsBoardOf q) (ts.stationsShown q p) boards := by
  apply exists_mapM
  intro s mem
  obtain ⟨knownToo, stationToo⟩ := known_of_mem_stationsShown sound named known station mem
  exact exists_isBoardOf sound knownToo stationToo q

theorem outcome_departures (q : DeparturesQuery) :
    DeparturesOutcome ts q (ts.provider.departures q).answer := by
  change DeparturesOutcome ts q (ts.departures q).answer
  unfold departures Check.stationId
  cases blank : Text.isBlankText q.station with
  | true => exact .refused blank
  | false =>
    simp only [Bool.false_eq_true, ↓reduceIte]
    cases found : (ts.timetable.placeWithId? (Text.trim q.station)).filter Place.isStation with
    | none =>
      apply DeparturesOutcome.unknown blank
      intro p known station called
      rw [← called, Timetable.placeWithId?_id named known, Option.filter_some, if_pos station]
        at found
      cases found
    | some p =>
      obtain ⟨looked, station⟩ := Option.filter_eq_some_iff.mp found
      obtain ⟨known, called⟩ := Timetable.of_placeWithId? looked
      obtain ⟨boards, made, pointwise⟩ := exists_boardsShown sound named known station q
      unfold stationsShown at made
      simp only [made]
      exact .shown known station called pointwise

end Answers

/-- The question is answered by these boards. -/
def AnswersBoards (ts : TimetableService) (q : DeparturesQuery) (boards : List Board) : Prop :=
  ∃ r, (ts.provider.departures q).answer = .ok r ∧ r.outcome = .ok boards

/-- The question is answered by boards of which that of the station is the first. -/
def ShowsFirst (ts : TimetableService) (q : DeparturesQuery) (p : Place) : Prop :=
  ∃ b others, ts.AnswersBoards q (b :: others) ∧ ts.IsBoardOf q p b

/-- Nothing is known of such a station. -/
def KnowsNoStation (ts : TimetableService) (q : DeparturesQuery) : Prop :=
  ∃ r, (ts.provider.departures q).answer = .ok r ∧ r.outcome = .error .invalidStation

section Answers

variable (sound : ts.timetable.Sound) (named : NamedPlaces ts.timetable.places)

include sound named

theorem answersBoards_iff {boards : List Board} :
    ts.AnswersBoards q boards ↔ ∃ p ∈ ts.timetable.places, p.isStation = true ∧
      p.id = Text.trim q.station ∧ List.Forall₂ (ts.IsBoardOf q) (ts.stationsShown q p) boards := by
  have outcome := outcome_departures sound named q
  constructor
  · rintro ⟨r, answered, success⟩
    rw [answered] at outcome
    cases outcome with
    | unknown shown nowhere => cases success
    | shown known station called made =>
      cases success
      exact ⟨_, known, station, called, made⟩
  · rintro ⟨p, known, station, called, made⟩
    generalize answered : (ts.provider.departures q).answer = answer at outcome
    cases outcome with
    | refused blank =>
      rw [Text.trim_of_isBlankText blank] at called
      exact absurd called (named.id_ne_empty known)
    | unknown shown nowhere => exact absurd called (nowhere p known station)
    | shown knownToo stationToo calledToo madeToo =>
      rw [named.eq_of_id knownToo known (calledToo.trans called.symm)] at madeToo
      refine ⟨_, answered, ?_⟩
      rw [isBoardOf_rightUnique.forall₂ made madeToo]
      rfl

theorem knowsNoStation_iff :
    ts.KnowsNoStation q ↔ Text.isBlankText q.station = false ∧
      ∀ p ∈ ts.timetable.places, p.isStation = true → p.id ≠ Text.trim q.station := by
  have outcome := outcome_departures sound named q
  constructor
  · rintro ⟨r, answered, failed⟩
    rw [answered] at outcome
    cases outcome with
    | unknown shown nowhere => exact ⟨shown, nowhere⟩
    | shown known station called made => cases failed
  · rintro ⟨shown, nowhere⟩
    generalize answered : (ts.provider.departures q).answer = answer at outcome
    cases outcome with
    | refused blank =>
      rw [shown] at blank
      cases blank
    | unknown => exact ⟨_, answered, rfl⟩
    | shown known station called made => exact absurd called (nowhere _ known station)

/-- A station that is called has boards shown, its own first. -/
theorem exists_answersBoards {p : Place} (known : p ∈ ts.timetable.places)
    (station : p.isStation = true) (called : p.id = Text.trim q.station) :
    ∃ b others, ts.AnswersBoards q (b :: others) ∧ ts.IsBoardOf q p b ∧
      List.Forall₂ (ts.IsBoardOf q) (ts.stationsShown q p) (b :: others) := by
  obtain ⟨boards, -, made⟩ := exists_boardsShown sound named known station q
  have answers := (answersBoards_iff sound named).mpr ⟨p, known, station, called, made⟩
  obtain ⟨rest, first⟩ := exists_stationsShown ts q p
  have pointwise := made
  rw [first] at made
  cases made with
  | cons own others => exact ⟨_, _, answers, own, pointwise⟩

/-- A station is shown first where it is called by its id. -/
theorem showsFirst_iff {p : Place} (known : p ∈ ts.timetable.places)
    (station : p.isStation = true) : ts.ShowsFirst q p ↔ p.id = Text.trim q.station := by
  constructor
  · rintro ⟨b, others, answers, own⟩
    obtain ⟨s, knownToo, -, called, made⟩ := (answersBoards_iff sound named).mp answers
    obtain ⟨rest, first⟩ := exists_stationsShown ts q s
    rw [first] at made
    cases made with
    | cons ownToo _ =>
      have same : some p.id = some s.id := by
        rw [← named.located p known, ← named.located s knownToo, ← location_of_isBoardOf own,
          location_of_isBoardOf ownToo]
      rw [Option.some.inj same]
      exact called
  · intro called
    obtain ⟨b, others, answers, own, -⟩ := exists_answersBoards sound named known station called
    exact ⟨b, others, answers, own⟩

end Answers

/-- Every station has a board that is exact, all boards shown are such boards, and a station that is
called has its own shown first. -/
structure ShowsExactBoards (ts : TimetableService) : Prop where
  each : ∀ p ∈ ts.timetable.places, p.isStation = true → ∀ time count,
    ∃ b, ts.board time count p = .ok b ∧ b.IsExact ts.timetable p time count
  shown : ∀ q boards, ts.AnswersBoards q boards → ∀ b ∈ boards,
    ∃ p ∈ ts.timetable.places, p.isStation = true ∧
      b.IsExact ts.timetable p (q.time.getD ts.timetable.validFrom) q.maxCount
  first : ∀ p ∈ ts.timetable.places, p.isStation = true → ∀ q, p.id = Text.trim q.station →
    ∃ b others, ts.AnswersBoards q (b :: others) ∧
      b.IsExact ts.timetable p (q.time.getD ts.timetable.validFrom) q.maxCount

theorem isExact_of_isBoardOf (sound : ts.timetable.Sound) {p : Place}
    (known : p ∈ ts.timetable.places) (station : p.isStation = true) {b : Board}
    (own : ts.IsBoardOf q p b) :
    b.IsExact ts.timetable p (q.time.getD ts.timetable.validFrom) q.maxCount := by
  obtain ⟨c, made, exact⟩ := exists_board sound known station
    (q.time.getD ts.timetable.validFrom) q.maxCount
  rw [isBoardOf_rightUnique own made]
  exact exact

end TimetableService

namespace Timetable

variable {tt : Timetable} {file : TimetableFile}

/-- Whatever is shown of a loaded timetable is exact. -/
theorem boards_exact (loaded : (ofFile file).value = .ok tt) (metric : Metric)
    (settings : Settings) : (tt.service metric settings).ShowsExactBoards := by
  have sound : (tt.service metric settings).timetable.Sound := sound_of_ofFile loaded
  have named : NamedPlaces (tt.service metric settings).timetable.places := named_of_ofFile loaded
  refine ⟨fun p known station time count => TimetableService.exists_board sound known station _ _,
    fun q boards answers b mem => ?_, fun p known station q called => ?_⟩
  · obtain ⟨p, known, station, -, made⟩ :=
      (TimetableService.answersBoards_iff sound named).mp answers
    obtain ⟨i, short, rfl⟩ := List.getElem_of_mem mem
    have own := made.get (made.length_eq ▸ short) short
    obtain ⟨knownToo, stationToo⟩ :=
      TimetableService.known_of_mem_stationsShown sound named known station (List.getElem_mem _)
    exact ⟨_, knownToo, stationToo,
      TimetableService.isExact_of_isBoardOf sound knownToo stationToo own⟩
  · obtain ⟨b, others, answers, own⟩ :=
      (TimetableService.showsFirst_iff sound named known station).mpr called
    exact ⟨b, others, answers, TimetableService.isExact_of_isBoardOf sound known station own⟩

end Timetable

/-! A service that comes back to where it starts, and another one that leaves there with it. -/
namespace Roundabout

def file : TimetableFile :=
  Sample.file (Sample.morning 0) (Sample.morning 600)
    [Sample.station "A" 52000000, Sample.station "B" 52100000, Sample.station "C" 52200000]
    [Sample.bus "1" [Sample.call "A" (Sample.morning 0), Sample.call "B" (Sample.morning 10),
        Sample.call "A" (Sample.morning 20), Sample.call "C" (Sample.morning 30)],
      Sample.bus "2" [Sample.call "A" (Sample.morning 20), Sample.call "C" (Sample.morning 40)],
      Sample.bus "3" [Sample.call "A" (Sample.morning 30), Sample.call "C" (Sample.morning 50)]]

/-- For the next two departures after the first one. -/
def question : DeparturesQuery := ⟨" A ", some (Sample.morning 10), 2, false⟩

theorem boards_exact_roundabout :
    ∃ tt b, (Timetable.ofFile file).value = .ok tt ∧
      (tt.service Sample.metric .usual).AnswersBoards question [b] ∧
      b.departures.map (fun d => (d.planned, d.line.label)) =
        [(some (Sample.morning 20), some "1"), (some (Sample.morning 20), some "2")] ∧
      b.lines.map (fun lines => lines.map fun d => d.line.label) =
        some [some "1", some "2", some "3"] ∧
      (tt.service Sample.metric .usual).ShowsExactBoards := by
  have checked : ((Timetable.ofFile file).value.toOption.any fun tt =>
      ((tt.service Sample.metric .usual).provider.departures question).answer.toOption.any fun r =>
        r.outcome.toOption.any fun boards => boards.length == 1 && boards.all fun b =>
          decide (b.departures.map (fun d => (d.planned, d.line.label)) =
            [(some (Sample.morning 20), some "1"), (some (Sample.morning 20), some "2")]) &&
          decide (b.lines.map (fun lines => lines.map fun d => d.line.label) =
            some [some "1", some "2", some "3"])) = true := by cbv
  obtain ⟨tt, loaded, checked⟩ := exists_ok_of_any checked
  obtain ⟨r, answered, checked⟩ := exists_ok_of_any checked
  obtain ⟨boards, success, checked⟩ := exists_ok_of_any checked
  obtain ⟨single, shown⟩ := Bool.and_eq_true_iff.mp checked
  obtain ⟨b, rfl⟩ := List.length_eq_one_iff.mp (beq_iff_eq.mp single)
  obtain ⟨departures, lines⟩ := Bool.and_eq_true_iff.mp
    (List.all_eq_true.mp shown b List.mem_cons_self)
  exact ⟨tt, b, loaded, ⟨r, answered, success⟩, of_decide_eq_true departures,
    of_decide_eq_true lines, Timetable.boards_exact loaded Sample.metric .usual⟩

end Roundabout

namespace TimetableService

/-- The board is what the station shows where it is asked for by itself. -/
structure AnswersAlone (ts : TimetableService) (time : Option Instant) (count : UInt32) (p : Place)
    (b : Board) : Prop where
  own : ts.board (time.getD ts.timetable.validFrom) count p = .ok b
  alone : ∀ text, p.id = Text.trim text → ts.AnswersBoards ⟨text, time, count, false⟩ [b]

/-- A station that is called is shown with the stations of its group, each as it is shown alone. It
does not matter for the boards which station of a group is called, and without a group there is one
board. -/
structure GroupsAgree (ts : TimetableService) (time : Option Instant) (count : UInt32) : Prop where
  grouped : ∀ a ∈ ts.timetable.places, a.isStation = true → ∀ text, a.id = Text.trim text →
    ∃ stations boards, ts.timetable.ListsGroup a stations ∧
      ts.AnswersBoards ⟨text, time, count, true⟩ boards ∧
      List.Forall₂ (ts.AnswersAlone time count) stations boards
  agree : ∀ a ∈ ts.timetable.places, ∀ b ∈ ts.timetable.places, a.isStation = true →
    b.isStation = true → a.group.isSome = true → a.group = b.group →
      ∀ text other, a.id = Text.trim text → b.id = Text.trim other → ∀ boards boardsToo,
        ts.AnswersBoards ⟨text, time, count, true⟩ boards →
          ts.AnswersBoards ⟨other, time, count, true⟩ boardsToo → boards.Perm boardsToo
  apart : ∀ a ∈ ts.timetable.places, a.isStation = true → a.group = none →
    ∀ text, a.id = Text.trim text → ∃ b, ts.AnswersBoards ⟨text, time, count, true⟩ [b] ∧
      ts.AnswersAlone time count a b

section Answers

variable {ts : TimetableService} {q : DeparturesQuery} {p : Place}
variable (sound : ts.timetable.Sound) (named : NamedPlaces ts.timetable.places)
  (known : p ∈ ts.timetable.places) (station : p.isStation = true)

include sound named known station

theorem answersAlone_of_isBoardOf {b : Board} (own : ts.IsBoardOf q p b) :
    ts.AnswersAlone q.time q.maxCount p b := by
  refine ⟨own, fun text called => ?_⟩
  apply (answersBoards_iff sound named).mpr
  exact ⟨p, known, station, called, .cons own .nil⟩

theorem exists_group {text : String} (called : p.id = Text.trim text) (time : Option Instant)
    (count : UInt32) :
    ∃ boards, ts.AnswersBoards ⟨text, time, count, true⟩ boards ∧
      List.Forall₂ (ts.AnswersAlone time count) (ts.timetable.equivalents p) boards := by
  obtain ⟨b, others, answers, -, made⟩ := exists_answersBoards (q := ⟨text, time, count, true⟩)
    sound named known station called
  refine ⟨b :: others, answers, ?_⟩
  have stations : ∀ s ∈ ts.stationsShown ⟨text, time, count, true⟩ p,
      s ∈ ts.timetable.places ∧ s.isStation = true := fun s mem =>
    known_of_mem_stationsShown sound named known station mem
  refine ((List.forall₂_and_left _ _).mpr ⟨stations, made⟩).imp ?_
  rintro s board ⟨⟨knownToo, stationToo⟩, own⟩
  exact answersAlone_of_isBoardOf sound named knownToo stationToo own

theorem group_perm {r : Place} (knownToo : r ∈ ts.timetable.places)
    (stationToo : r.isStation = true) (grouped : p.group.isSome = true)
    (together : p.group = r.group) {text other : String} (called : p.id = Text.trim text)
    (calledToo : r.id = Text.trim other) {time : Option Instant} {count : UInt32}
    {boards boardsToo : List Board}
    (answers : ts.AnswersBoards ⟨text, time, count, true⟩ boards)
    (answersToo : ts.AnswersBoards ⟨other, time, count, true⟩ boardsToo) :
    boards.Perm boardsToo := by
  obtain ⟨a, knownA, -, calledA, made⟩ := (answersBoards_iff sound named).mp answers
  obtain ⟨b, knownB, -, calledB, madeToo⟩ := (answersBoards_iff sound named).mp answersToo
  rw [named.eq_of_id knownA known (calledA.trans called.symm)] at made
  rw [named.eq_of_id knownB knownToo (calledB.trans calledToo.symm)] at madeToo
  have stations : (ts.timetable.equivalents p).Perm (ts.timetable.equivalents r) :=
    (Timetable.listsGroup sound named known station).perm
      (Timetable.listsGroup sound named knownToo stationToo) together grouped
  obtain ⟨ordered, madeOrdered, alike⟩ := List.perm_comp_forall₂ stations madeToo
  rw [isBoardOf_rightUnique.forall₂ made madeOrdered]
  exact alike

end Answers

end TimetableService

namespace Timetable

/-- In a loaded timetable the stations of one group show the same boards. -/
theorem groups_agree {file : TimetableFile} {tt : Timetable}
    (loaded : (ofFile file).value = .ok tt) (metric : Metric) (settings : Settings)
    (time : Option Instant) (count : UInt32) :
    (tt.service metric settings).GroupsAgree time count := by
  have sound : (tt.service metric settings).timetable.Sound := sound_of_ofFile loaded
  have named : NamedPlaces (tt.service metric settings).timetable.places := named_of_ofFile loaded
  constructor
  · intro a known station text called
    obtain ⟨boards, answers, each⟩ :=
      TimetableService.exists_group sound named known station called time count
    exact ⟨_, boards, listsGroup sound named known station, answers, each⟩
  · exact fun a known b knownToo station stationToo grouped together text other called calledToo
      boards boardsToo answers answersToo =>
        TimetableService.group_perm sound named known station knownToo stationToo grouped together
          called calledToo answers answersToo
  · intro a known station apart text called
    obtain ⟨boards, answers, each⟩ :=
      TimetableService.exists_group sound named known station called time count
    rw [(listsGroup sound named known station).eq_singleton apart] at each
    cases each with
    | cons own none =>
      cases none
      exact ⟨_, answers, own⟩

end Timetable

/-! Two stations of one group, and a place of another kind that is said to be of it too. -/
namespace Hub

def file (first : String) : TimetableFile :=
  Sample.file (Sample.morning 0) (Sample.morning 600)
    [{ Sample.station first 52000000 with group := some "hub" },
      { Sample.poi "P" 52000050 with group := some "hub" },
      { Sample.station "B" 52100000 with group := some "hub" }, Sample.station "C" 52200000]
    [Sample.bus "1" [Sample.call first (Sample.morning 0), Sample.call "C" (Sample.morning 10)],
      Sample.bus "2" [Sample.call "B" (Sample.morning 5), Sample.call "C" (Sample.morning 15)]]

/-- The places whose boards are shown for a text, in their order. -/
def shows (tt : Timetable) (text : String) (places : List String) : Bool :=
  ((tt.service Sample.metric .usual).provider.departures
    ⟨text, none, 0, true⟩).answer.toOption.any fun r => r.outcome.toOption.any fun boards =>
      decide (boards.map (fun b => b.location.id) = places.map some)

theorem groups_agree_hub :
    ∃ tt, (Timetable.ofFile (file "A")).value = .ok tt ∧ shows tt "A" ["A", "B"] = true ∧
      shows tt "B" ["B", "A"] = true ∧ shows tt "C" ["C"] = true ∧
      (tt.service Sample.metric .usual).GroupsAgree none 0 := by
  have checked : ((Timetable.ofFile (file "A")).value.toOption.any fun tt =>
      shows tt "A" ["A", "B"] && (shows tt "B" ["B", "A"] && shows tt "C" ["C"])) = true := by cbv
  obtain ⟨tt, loaded, checked⟩ := exists_ok_of_any checked
  obtain ⟨first, checked⟩ := Bool.and_eq_true_iff.mp checked
  obtain ⟨second, single⟩ := Bool.and_eq_true_iff.mp checked
  exact ⟨tt, loaded, first, second, single,
    Timetable.groups_agree loaded Sample.metric .usual none 0⟩

/-- Not all stations of one group show the same boards: where a blank begins the id of one of them,
there are none for it. -/
theorem not_every_group_agrees :
    ¬ ∀ (file : TimetableFile) (tt : Timetable) (metric : Metric) (settings : Settings)
      (a b : Place) (time : Option Instant) (count : UInt32),
      (Timetable.ofFile file).value = .ok tt → a ∈ tt.places → b ∈ tt.places →
        a.isStation = true → b.isStation = true → a.id ≠ b.id → a.group.isSome = true →
          a.group = b.group → ∃ boards boardsToo,
            (tt.service metric settings).AnswersBoards ⟨a.id, time, count, true⟩ boards ∧
            (tt.service metric settings).AnswersBoards ⟨b.id, time, count, true⟩ boardsToo ∧
            boards.Perm boardsToo := by
  intro claimed
  have checked : ((Timetable.ofFile (file " A")).value.toOption.any fun tt =>
      (tt.places.all fun p => p.id ≠ "A") && tt.places.any fun a => a.isStation &&
        (decide (a.id = " A") && tt.places.any fun b => b.isStation &&
          (decide (a.id ≠ b.id) && (a.group.isSome && decide (a.group = b.group))))) = true := rfl
  obtain ⟨tt, loaded, checked⟩ := exists_ok_of_any checked
  simp only [Bool.and_eq_true, List.all_eq_true, List.any_eq_true, decide_eq_true_eq] at checked
  obtain ⟨absent, a, known, station, id, b, knownToo, stationToo, other, grouped, together⟩ :=
    checked
  obtain ⟨boards, -, answers, -, -⟩ := claimed (file " A") tt Sample.metric .usual a b none 0 loaded
    known knownToo station stationToo other grouped together
  obtain ⟨p, there, -, called, -⟩ := (TimetableService.answersBoards_iff
    (Timetable.sound_of_ofFile loaded) (Timetable.named_of_ofFile loaded)).mp answers
  apply absent p there
  rw [called, id]
  decide

end Hub

namespace TimetableService

/-- Which station a question is for. One that is reported under an id with white space around it is
not found by what it is reported under. -/
structure FindsStations (ts : TimetableService) : Prop where
  refused : ∀ q, Text.isBlankText q.station = true →
    (ts.provider.departures q).answer = .error (.invalidArgument .stationId)
  unknown : ∀ q, ts.KnowsNoStation q ↔ Text.isBlankText q.station = false ∧
    ∀ p ∈ ts.timetable.places, p.isStation = true → p.id ≠ Text.trim q.station
  called : ∀ p ∈ ts.timetable.places, p.isStation = true → ∀ q,
    ts.ShowsFirst q p ↔ p.id = Text.trim q.station
  reported : ∀ p ∈ ts.timetable.places, p.isStation = true →
    ∃ id, p.location.id = some id ∧ ∀ time count equivalents,
      ts.ShowsFirst ⟨id, time, count, equivalents⟩ p ↔ Text.trim id = id

theorem departures_of_isBlankText {ts : TimetableService} {q : DeparturesQuery}
    (blank : Text.isBlankText q.station = true) :
    (ts.provider.departures q).answer = .error (.invalidArgument .stationId) := by
  change (ts.departures q).answer = _
  unfold departures Check.stationId
  rw [if_pos blank]
  rfl

end TimetableService

namespace Timetable

/-- In a loaded timetable a station is found by the id that it is reported under if there is no
white space around it. -/
theorem stations_found {file : TimetableFile} {tt : Timetable}
    (loaded : (ofFile file).value = .ok tt) (metric : Metric) (settings : Settings) :
    (tt.service metric settings).FindsStations := by
  have sound : (tt.service metric settings).timetable.Sound := sound_of_ofFile loaded
  have named : NamedPlaces (tt.service metric settings).timetable.places := named_of_ofFile loaded
  refine ⟨fun q blank => TimetableService.departures_of_isBlankText blank,
    fun q => TimetableService.knowsNoStation_iff sound named,
    fun p known station q => TimetableService.showsFirst_iff sound named known station, ?_⟩
  intro p known station
  refine ⟨p.id, named.located p known, fun time count equivalents => ?_⟩
  rw [TimetableService.showsFirst_iff sound named known station]
  exact eq_comm

end Timetable

/-! A station whose id begins with a blank. -/
namespace Padded

def file : TimetableFile :=
  Sample.file (Sample.morning 0) (Sample.morning 600)
    [Sample.station " A" 52000000, Sample.station "B" 52100000] []

theorem stations_found_padded :
    ∃ tt, (Timetable.ofFile file).value = .ok tt ∧ tt.places.map Place.id = [" A", "B"] ∧
      (tt.service Sample.metric .usual).FindsStations := by
  have checked : ((Timetable.ofFile file).value.toOption.any fun tt =>
      decide (tt.places.map Place.id = [" A", "B"])) = true := rfl
  obtain ⟨tt, loaded, ids⟩ := exists_ok_of_any checked
  exact ⟨tt, loaded, of_decide_eq_true ids,
    Timetable.stations_found loaded Sample.metric .usual⟩

/-- Not every station is found by the id that it is reported under. -/
theorem not_every_station_found :
    ¬ ∀ (file : TimetableFile) (tt : Timetable) (metric : Metric) (settings : Settings) (p : Place)
      (q : DeparturesQuery), (Timetable.ofFile file).value = .ok tt → p ∈ tt.places →
        p.isStation = true → p.location.id = some q.station →
          (tt.service metric settings).ShowsFirst q p := by
  intro claimed
  have checked : ((Timetable.ofFile file).value.toOption.any fun tt =>
      tt.places.any fun p => p.isStation && decide (p.location.id = some " A")) = true := rfl
  obtain ⟨tt, loaded, checked⟩ := exists_ok_of_any checked
  obtain ⟨p, known, checked⟩ := List.any_eq_true.mp checked
  obtain ⟨station, reported⟩ := Bool.and_eq_true_iff.mp checked
  have reported : p.location.id = some " A" := of_decide_eq_true reported
  have sound : tt.Sound := Timetable.sound_of_ofFile loaded
  have named : NamedPlaces tt.places := Timetable.named_of_ofFile loaded
  have called := (TimetableService.showsFirst_iff sound named known station).mp
    (claimed file tt Sample.metric .usual p ⟨" A", none, 0, false⟩ loaded known station reported)
  rw [named.located p known, Option.some.injEq] at reported
  rw [reported] at called
  exact absurd called (by decide)

end Padded

end JourneyPlanner

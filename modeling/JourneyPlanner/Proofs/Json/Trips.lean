import JourneyPlanner.Board
import JourneyPlanner.Location.Ranking
import JourneyPlanner.Proofs.Json.Lines
import JourneyPlanner.Trip.Basic

set_option autoImplicit false

/-!
The forms of stops, trips and boards. All of them lose nothing but that of a way of one's own that
runs backwards, which is not read again, nor is a trip with such a way.
-/
namespace JourneyPlanner

open Record (required_reads optional_reads defaulted_reads)

instance : Faithful Platform where
  exact p := by
    change Json.fieldsExact [("name", encode p.name), ("section", encode p.sectionName)] = true
    simp only [Json.fieldsExact, Faithful.exact, Bool.and_self]
  decode_encode p := by
    refine Record.Reads.decode ?_
    exact ((required_reads rfl).map Platform.mk).seq (optional_reads rfl)

instance : Visible Platform := ⟨fun _ => Json.noConfusion⟩

namespace Stop

/-- The fields of a stop as they are written. -/
def formFields (s : Stop) : List (String × Json) :=
  ("location", encode s.location) :: encodeEvent "arrival" s.arrival ++
    encodeEvent "departure" s.departure

/-- An event is read from fields each of which stands once. -/
theorem eventRecord_reads {word : String} {e : CallEvent} {given : List (String × Json)}
    (once : ∀ entry ∈ encodeEvent word e,
      given.filter (fun field => field.1 == entry.1) = [entry]) :
    (eventRecord word).Reads given e := by
  simp only [encodeEvent, List.forall_mem_cons] at once
  obtain ⟨planned, predicted, plannedPlatform, predictedPlatform, cancelled, -⟩ := once
  exact (((((optional_reads planned).map CallEvent.mk).seq (optional_reads predicted)).seq
    (optional_reads plannedPlatform)).seq (optional_reads predictedPlatform)).seq
      (defaulted_reads cancelled)

theorem event_once (s : Stop) : ∀ entry ∈ encodeEvent "arrival" s.arrival ++
    encodeEvent "departure" s.departure,
      s.formFields.filter (fun field => field.1 == entry.1) = [entry] := by
  simp only [encodeEvent, List.cons_append, List.nil_append, List.forall_mem_cons]
  exact ⟨rfl, rfl, rfl, rfl, rfl, rfl, rfl, rfl, rfl, rfl, fun _ mem => nomatch mem⟩

instance : Faithful Stop where
  exact s := by
    change Json.fieldsExact s.formFields = true
    simp only [formFields, encodeEvent, List.cons_append, Json.fieldsExact,
      Json.fieldsExact_append, Faithful.exact, Bool.and_self]
  decode_encode s := by
    have location : (Record.required "location").Reads s.formFields s.location :=
      required_reads rfl
    have arrival : (eventRecord "arrival").Reads s.formFields s.arrival :=
      eventRecord_reads fun entry mem => event_once s entry (List.mem_append_left _ mem)
    have departure : (eventRecord "departure").Reads s.formFields s.departure :=
      eventRecord_reads fun entry mem => event_once s entry (List.mem_append_right _ mem)
    exact (((location.map mk).seq arrival).seq departure).decode

end Stop

namespace PublicLeg

theorem ofStops_self (leg : PublicLeg) :
    ofStops leg.line leg.destination leg.departureStop leg.arrivalStop leg.intermediateStops =
      .ok { leg with path := [], message := none } := by
  rw [ofStops, dif_pos leg.departs, dif_pos leg.arrives, dif_pos leg.forward]

theorem check_self (leg : PublicLeg) :
    check leg.line leg.destination leg.departureStop leg.arrivalStop leg.intermediateStops leg.path
      leg.message = .ok leg := by
  simp only [check, ofStops_self, Json.checked]
  rfl

/-- Fields ahead of those of a leg do no harm under other names. -/
theorem decodeFields_tagged (leg : PublicLeg) (tag : Json) :
    decodeFields (.object (("leg_type", tag) :: leg.encodeFields)) = .ok leg := by
  refine Record.Reads.decodeChecked ?_
  rw [← leg.check_self]
  exact (((((((required_reads rfl).map check).seq (optional_reads rfl)).seq
    (required_reads rfl)).seq (required_reads rfl)).seq (defaulted_reads rfl)).seq
      (defaulted_reads rfl)).seq (optional_reads rfl)

end PublicLeg

theorem IndividualKind.word_injective (a b : IndividualKind) (same : word a = word b) : a = b := by
  cases a <;> cases b <;> first | rfl | exact absurd same (by decide)

instance : Faithful IndividualKind := .ofWords IndividualKind.word_injective

namespace IndividualLeg

/-- The leg does not arrive before it departs. -/
def RunsForward (leg : IndividualLeg) : Prop :=
  leg.departureTime ≤ leg.arrivalTime

theorem check_self {leg : IndividualLeg} (forward : leg.RunsForward) :
    check leg.kind leg.departure leg.departureTime leg.arrival leg.arrivalTime leg.path leg.meters =
      .ok leg := by
  simp only [check, between, if_pos (show leg.departureTime ≤ leg.arrivalTime from forward),
    Json.checked]
  rfl

theorem check_backward {leg : IndividualLeg} (backward : ¬ leg.RunsForward) :
    check leg.kind leg.departure leg.departureTime leg.arrival leg.arrivalTime leg.path leg.meters =
      .error (.invalid TripError.arrivesBeforeDeparture.message) := by
  simp only [check, between, if_neg (show ¬ leg.departureTime ≤ leg.arrivalTime from backward),
    Json.checked]
  rfl

/-- The fields of a leg are read, and then its times are looked at. -/
theorem decodeFields_tagged (leg : IndividualLeg) (tag : Json) :
    decodeFields (.object (("leg_type", tag) :: leg.encodeFields)) =
      check leg.kind leg.departure leg.departureTime leg.arrival leg.arrivalTime leg.path
        leg.meters := by
  refine Record.Reads.decodeChecked ?_
  exact (((((((required_reads rfl).map check).seq (required_reads rfl)).seq
    (required_reads rfl)).seq (required_reads rfl)).seq (required_reads rfl)).seq
      (defaulted_reads rfl)).seq (required_reads rfl)

end IndividualLeg

namespace Leg

theorem ofTagged_object (word : String) (fields : List (String × Json))
    (others : fields.filter (fun field => field.1 == "leg_type") = []) :
    ofTagged (.object (("leg_type", .string word) :: fields)) =
      .ok (word, .object (("leg_type", .string word) :: fields)) := by
  have kind : (Record.required "leg_type").Reads (("leg_type", .string word) :: fields) word :=
    required_reads (by rw [List.filter_cons_of_pos rfl, others]; rfl)
  simp only [ofTagged, kind.decode]
  rfl

/-- Only a way of one's own can run backwards. -/
def RunsForward : Leg → Prop
  | .ride _ => True
  | .own leg => leg.RunsForward

theorem decode_encode_ride (leg : PublicLeg) :
    (decode (encode (Leg.ride leg)) : Decoded Leg) = .ok (.ride leg) := by
  have tagged := ofTagged_object "public" leg.encodeFields rfl
  simp only [encode, decode, tagged]
  change (PublicLeg.decodeFields _).map Leg.ride = _
  rw [leg.decodeFields_tagged]
  rfl

theorem decode_encode_own (leg : IndividualLeg) :
    (decode (encode (Leg.own leg)) : Decoded Leg) =
      (IndividualLeg.check leg.kind leg.departure leg.departureTime leg.arrival leg.arrivalTime
        leg.path leg.meters).map Leg.own := by
  have tagged := ofTagged_object "individual" leg.encodeFields rfl
  simp only [encode, decode, tagged]
  change (IndividualLeg.decodeFields _).map Leg.own = _
  rw [leg.decodeFields_tagged]

theorem isExact_encode (leg : Leg) : (encode leg).isExact = true := by
  cases leg with
  | ride leg =>
    change Json.fieldsExact (("leg_type", .string "public") :: leg.encodeFields) = true
    simp only [PublicLeg.encodeFields, Json.fieldsExact, Json.isExact, Faithful.exact,
      Bool.and_self]
  | own leg =>
    change Json.fieldsExact (("leg_type", .string "individual") :: leg.encodeFields) = true
    simp only [IndividualLeg.encodeFields, Json.fieldsExact, Json.isExact, Faithful.exact,
      Bool.and_self]

/-- A leg is found again just if it does not run backwards. -/
theorem decode_encode_iff {leg : Leg} : decode (encode leg) = .ok leg ↔ leg.RunsForward := by
  cases leg with
  | ride leg => exact iff_of_true (decode_encode_ride leg) trivial
  | own leg =>
    rw [decode_encode_own]
    by_cases forward : leg.RunsForward
    · rw [IndividualLeg.check_self forward]
      exact iff_of_true rfl forward
    · rw [IndividualLeg.check_backward forward]
      exact iff_of_false (fun read => nomatch read) forward

theorem kept_iff {leg : Leg} : Kept leg ↔ leg.RunsForward :=
  ⟨fun kept => decode_encode_iff.mp kept.decode_encode,
    fun forward => ⟨isExact_encode leg, decode_encode_iff.mpr forward⟩⟩

end Leg

namespace Trip

/-- The fields of a trip as they are written. -/
def formFields (t : Trip) : List (String × Json) :=
  [("id", encode t.id), ("from", encode t.origin), ("to", encode t.destination),
    ("legs", encode t.legs), ("changes", encode t.changes)]

theorem ofLegs_self (t : Trip) :
    ofLegs (some t.id) t.origin t.destination t.legs t.changes = .ok t := by
  rw [ofLegs, dif_pos t.nonempty]
  rfl

theorem kept {t : Trip} (forward : ∀ leg ∈ t.legs, leg.RunsForward) : Kept t := by
  have legs : Kept t.legs := .list fun leg mem => Leg.kept_iff.mpr (forward leg mem)
  refine ⟨?_, ?_⟩
  · change Json.fieldsExact t.formFields = true
    simp only [formFields, Json.fieldsExact, Faithful.exact, legs.exact, Bool.and_self]
  · refine Record.Reads.decodeChecked ?_
    -- A trip that is read may lack the id that every trip is written with.
    have id : (Record.optional "id").Reads t.formFields (some t.id) :=
      Record.field_reads rfl (decode_encode (some t.id))
    have made : Json.checked TripError.message
      (ofLegs (some t.id) t.origin t.destination t.legs t.changes) = .ok t := by
      rw [ofLegs_self, Json.checked]
    rw [← made]
    exact ((((id.map _).seq (required_reads rfl)).seq (required_reads rfl)).seq
      (Record.field_reads rfl legs.decode_encode)).seq (optional_reads rfl)

end Trip

namespace Departure

theorem check_self (d : Departure) :
    check d.planned d.predicted d.line d.platform d.destination d.message = .ok d := by
  simp only [check, ofTimes, dif_pos d.timed, Json.checked]
  rfl

instance : Faithful Departure where
  exact d := by
    change Json.fieldsExact [("planned_time", encode d.planned),
      ("predicted_time", encode d.predicted), ("line", encode d.line),
      ("position", encode d.platform), ("destination", encode d.destination),
      ("message", encode d.message)] = true
    simp only [Json.fieldsExact, Faithful.exact, Bool.and_self]
  decode_encode d := by
    refine Record.Reads.decodeChecked ?_
    rw [← d.check_self]
    exact ((((((optional_reads rfl).map check).seq (optional_reads rfl)).seq
      (required_reads rfl)).seq (optional_reads rfl)).seq (optional_reads rfl)).seq
        (optional_reads rfl)

end Departure

namespace Board

/-- Departures that are in order stay as they are. -/
theorem ofDepartures_self (b : Board) :
    ofDepartures b.location b.departures b.lines = .ok b := by
  have sorted : byTime b.departures = b.departures :=
    List.mergeSort_of_pairwise (b.inOrder.imp fun ordered => decide_eq_true ordered)
  rw [ofDepartures, dif_pos b.station]
  simp only [sorted]

instance : Faithful Board where
  exact b := by
    change Json.fieldsExact [("location", encode b.location), ("departures", encode b.departures),
      ("lines", encode b.lines)] = true
    simp only [Json.fieldsExact, Faithful.exact, Bool.and_self]
  decode_encode b := by
    refine Record.Reads.decodeChecked ?_
    have made : Json.checked BoardError.message
        (ofDepartures b.location b.departures b.lines) = .ok b := by
      rw [ofDepartures_self, Json.checked]
    rw [← made]
    exact (((required_reads rfl).map _).seq (defaulted_reads rfl)).seq (optional_reads rfl)

end Board

instance : Faithful Suggestion where
  exact s := by
    change Json.fieldsExact [("location", encode s.location),
      ("priority", encode s.priority)] = true
    simp only [Json.fieldsExact, Faithful.exact, Bool.and_self]
  decode_encode s := by
    refine Record.Reads.decode ?_
    exact ((required_reads rfl).map Suggestion.mk).seq (required_reads rfl)

end JourneyPlanner

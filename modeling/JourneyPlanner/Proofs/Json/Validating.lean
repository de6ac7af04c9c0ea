import JourneyPlanner.Proofs.Fallible
import JourneyPlanner.Proofs.Json.Trips

set_option autoImplicit false

/-!
What is read keeps the rules of its type, whatever the document. Most rules are part of the types;
that a way of one's own runs forward is checked in reading.
-/
namespace JourneyPlanner

namespace Record

variable {α β : Type}

/-- Whatever fields are given, what is made of them has a property. -/
def Yields (r : Record α) (holds : α → Prop) : Prop :=
  ∀ given a, r.Reads given a → holds a

variable {holds : β → Prop}

theorem yields_any (r : Record α) : r.Yields fun _ => True :=
  fun _ _ _ => trivial

theorem Yields.map {r : Record α} {f : α → β} (yields : r.Yields fun a => holds (f a)) :
    (f <$> r).Yields holds := by
  intro given b read
  obtain ⟨a, found, rfl⟩ := map_eq_ok read
  exact yields given a found

theorem Yields.seq {f : Record (α → β)} {r : Record α} {part : α → Prop}
    (left : f.Yields fun g => ∀ a, part a → holds (g a)) (right : r.Yields part) :
    (f <*> r).Yields holds := by
  intro given b read
  obtain ⟨⟨g, a⟩, found, rfl⟩ := map_eq_ok read
  obtain ⟨first, second⟩ := Located.both_eq_ok.mp found
  exact left given g first a (right given a second)

theorem Yields.seq_any {f : Record (α → β)} (left : f.Yields fun g => ∀ a, holds (g a))
    (r : Record α) : (f <*> r).Yields holds := by
  have whatever : f.Yields fun g => ∀ a, True → holds (g a) :=
    fun given g read a _ => left given g read a
  exact whatever.seq r.yields_any

/-- A field that must be there has what all values of its type have that are decoded. -/
theorem Yields.required [Codec β] (name : String)
    (sound : ∀ json (b : β), Codec.decode json = .ok b → holds b) :
    (required name).Yields holds := by
  intro given b read
  simp only [Reads, Record.required, field] at read
  split at read
  · cases read
  · split at read
    · cases read
    · rename_i decoded _
      cases read
      exact sound _ b decoded
    · cases read

/-- An object and an array alike are read field by field. -/
theorem Yields.decode {r : Record β} {b : β} {json : Json} (yields : r.Yields holds)
    (decoded : r.decode json = .ok b) : holds b := by
  unfold Record.decode at decoded
  split at decoded
  · rename_i given
    cases read : r.read given with
    | error fault =>
      rw [read] at decoded
      cases decoded
    | ok a =>
      rw [read] at decoded
      cases decoded
      exact yields given b read
  · split at decoded
    · cases decoded
    · cases decoded
  · rename_i items
    split at decoded
    · cases decoded
    · rename_i a read
      split at decoded
      · cases decoded
        exact yields _ b read
      · cases decoded
  · cases decoded

theorem Yields.decodeChecked {r : Record (Decoded β)} {b : β} {json : Json}
    (yields : r.Yields fun outcome => ∀ b, outcome = .ok b → holds b)
    (decoded : r.decodeChecked json = .ok b) : holds b := by
  obtain ⟨outcome, found, made⟩ := bind_eq_ok decoded
  exact yields.decode found b made

end Record

/-- All items of a list are decoded one by one. -/
theorem decodeItems_sound {α : Type} [Codec α] {holds : α → Prop}
    (sound : ∀ json (a : α), decode json = .ok a → holds a) {items : List Json} {as : List α}
    (decoded : Json.decodeItems items = .ok as) : ∀ a ∈ as, holds a := by
  induction items generalizing as with
  | nil =>
    cases decoded
    exact fun a mem => absurd mem List.not_mem_nil
  | cons item items ih =>
    obtain ⟨a, first, decoded⟩ := bind_eq_ok decoded
    obtain ⟨rest, others, decoded⟩ := bind_eq_ok decoded
    cases decoded
    exact List.forall_mem_cons.mpr ⟨sound item a first, ih others⟩

theorem decode_list_sound {α : Type} [Codec α] {holds : α → Prop}
    (sound : ∀ json (a : α), decode json = .ok a → holds a) (json : Json) (as : List α)
    (decoded : decode json = .ok as) : ∀ a ∈ as, holds a := by
  simp only [decode] at decoded
  split at decoded
  · exact decodeItems_sound sound decoded
  · cases decoded

namespace IndividualLeg

theorem runsForward_of_check {kind : IndividualKind} {departure arrival : Location}
    {departureTime arrivalTime : Instant} {path : List GeoPoint} {meters : UInt32}
    {leg : IndividualLeg}
    (checked : check kind departure departureTime arrival arrivalTime path meters = .ok leg) :
    leg.RunsForward := by
  unfold check between at checked
  split at checked
  · rename_i forward
    cases checked
    exact forward
  · cases checked

theorem runsForward_of_decodeFields {json : Json} {leg : IndividualLeg}
    (decoded : decodeFields json = .ok leg) : leg.RunsForward := by
  refine Record.Yields.decodeChecked ?_ decoded
  refine Record.Yields.seq_any (.seq_any (.seq_any (.seq_any (.seq_any (.seq_any (.map ?_)
    _) _) _) _) _) _
  intro given kind _ departure departureTime arrival arrivalTime path meters leg
  exact runsForward_of_check

end IndividualLeg

theorem Leg.runsForward_of_decode (json : Json) (leg : Leg) (decoded : decode json = .ok leg) :
    leg.RunsForward := by
  obtain ⟨⟨kind, rest⟩, -, decoded⟩ := bind_eq_ok decoded
  change (if kind = "public" then (PublicLeg.decodeFields rest).map Leg.ride
    else if kind = "individual" then (IndividualLeg.decodeFields rest).map Leg.own
      else .error .malformed) = .ok leg at decoded
  split at decoded
  · obtain ⟨ride, -, rfl⟩ := map_eq_ok decoded
    trivial
  · split at decoded
    · obtain ⟨own, read, rfl⟩ := map_eq_ok decoded
      exact IndividualLeg.runsForward_of_decodeFields read
    · cases decoded

theorem Trip.runsForward_of_decode (json : Json) (t : Trip) (decoded : decode json = .ok t) :
    ∀ leg ∈ t.legs, leg.RunsForward := by
  have legs : (Record.required "legs").Yields fun legs : List Leg =>
      ∀ leg ∈ legs, leg.RunsForward :=
    .required "legs" (decode_list_sound Leg.runsForward_of_decode)
  refine Record.Yields.decodeChecked (?_ : Record.Yields _ fun outcome : Decoded Trip =>
    ∀ t, outcome = .ok t → ∀ leg ∈ t.legs, leg.RunsForward) decoded
  refine Record.Yields.seq_any (.seq (.seq_any (.seq_any (.map ?_) _) _) legs) _
  intro given id _ origin destination legs forward changes t made
  simp only [ofLegs] at made
  split at made
  · cases made
    exact forward
  · cases made

end JourneyPlanner

import JourneyPlanner.Json.Record
import JourneyPlanner.Proofs.Json.Reading

set_option autoImplicit false

/-!
Forms that lose nothing: every value is decoded from its own form, and from the text of that form.
Records are faithful when each of their fields is found once under its name.
-/
namespace JourneyPlanner

/-- The value is found again in its form, and in the text of that form. -/
structure Kept {α : Type} [Codec α] (a : α) : Prop where
  exact : (encode a).isExact = true
  decode_encode : decode (encode a) = .ok a

/-- The form of a type tells its values apart. -/
class Faithful (α : Type) [Codec α] : Prop where
  exact : ∀ a : α, (encode a).isExact = true
  decode_encode : ∀ a : α, decode (encode a) = .ok a

/-- No value has the form of an absent one. -/
class Visible (α : Type) [Codec α] : Prop where
  encode_ne_null : ∀ a : α, encode a ≠ .null

export Faithful (decode_encode)

theorem Faithful.kept {α : Type} [Codec α] [Faithful α] (a : α) : Kept a :=
  ⟨Faithful.exact a, decode_encode a⟩

theorem Kept.decodeText {α : Type} [Codec α] {a : α} (kept : Kept a) :
    decodeText α (encodeText a) = .ok a :=
  decodeText_render kept.exact kept.decode_encode

theorem decodeText_encode {α : Type} [Codec α] [Faithful α] (a : α) :
    decodeText α (encode a).render = .ok a :=
  (Faithful.kept a).decodeText

instance : Faithful Bool := ⟨fun _ => rfl, fun _ => rfl⟩

instance : Faithful String := ⟨fun _ => rfl, fun _ => rfl⟩

instance : Visible String := ⟨fun _ => Json.noConfusion⟩

instance : Faithful UInt32 where
  exact n := by
    have bounded := n.toNat_lt
    simp only [encode, Json.isExact, Bool.and_eq_true, decide_eq_true_eq]
    omega
  decode_encode n := by
    have bounded := n.toNat_lt
    have inside : (0 : Int) ≤ n.toNat ∧ (n.toNat : Int) ≤ 4294967295 := by omega
    simp only [encode, decode, Json.asInt, if_pos inside, Except.map, Int.toNat_natCast,
      UInt32.ofNat_toNat]

instance : Visible UInt32 := ⟨fun _ => Json.noConfusion⟩

instance : Faithful Int32 where
  exact n := by
    have least := n.le_toInt
    have most := n.toInt_lt
    simp only [encode, Json.isExact, Bool.and_eq_true, decide_eq_true_eq]
    omega
  decode_encode n := by
    have least := n.le_toInt
    have most := n.toInt_lt
    have inside : -2147483648 ≤ n.toInt ∧ n.toInt ≤ 2147483647 := by omega
    simp only [encode, decode, Json.asInt, if_pos inside, Except.map, Int32.ofInt_toInt]

instance : Faithful Instant where
  exact _ := rfl
  decode_encode t := by
    simp only [encode, decode, Instant.ofText?_text]

instance : Visible Instant := ⟨fun _ => Json.noConfusion⟩

instance {α : Type} [Codec α] [Faithful α] [Visible α] : Faithful (Option α) where
  exact
    | none => rfl
    | some a => Faithful.exact a
  decode_encode
    | none => rfl
    | some a => by
      have read := decode_encode a
      have shown := Visible.encode_ne_null a
      change (match encode a with
        | .null => Except.ok none
        | json => (decode json).map some) = _
      split
      · contradiction
      · rw [read]
        rfl

section Lists

variable {α : Type} [Codec α]

theorem itemsExact_map_encode {as : List α} (kept : ∀ a ∈ as, Kept a) :
    Json.itemsExact (as.map encode) = true := by
  induction as with
  | nil => rfl
  | cons a as ih =>
    obtain ⟨first, others⟩ := List.forall_mem_cons.mp kept
    simp only [List.map_cons, Json.itemsExact, first.exact, ih others, Bool.and_self]

theorem decodeItems_map_encode {as : List α} (kept : ∀ a ∈ as, Kept a) :
    Json.decodeItems (as.map encode) = .ok as := by
  induction as with
  | nil => rfl
  | cons a as ih =>
    obtain ⟨first, others⟩ := List.forall_mem_cons.mp kept
    simp only [List.map_cons, Json.decodeItems, first.decode_encode, ih others]
    rfl

theorem Kept.list {as : List α} (kept : ∀ a ∈ as, Kept a) : Kept as :=
  ⟨itemsExact_map_encode kept, decodeItems_map_encode kept⟩

instance [Faithful α] : Faithful (List α) where
  exact _ := itemsExact_map_encode fun a _ => Faithful.kept a
  decode_encode _ := decodeItems_map_encode fun a _ => Faithful.kept a

instance : Visible (List α) := ⟨fun _ => Json.noConfusion⟩

instance [Faithful α] [DecidableEq α] [Listed α] : Faithful (Selection α) where
  exact s := Faithful.exact s.members
  decode_encode s := by
    change (decode (encode s.members) : Decoded (List α)).map Selection.ofList = _
    rw [decode_encode]
    exact congrArg Except.ok s.ofList_members

instance [DecidableEq α] [Listed α] : Visible (Selection α) := ⟨fun _ => Json.noConfusion⟩

end Lists

/-- A kind is faithful when no two of its values share a word. -/
theorem Faithful.ofWords {α : Type} [Listed α] [Worded α]
    (distinct : ∀ a b : α, word a = word b → a = b) : Faithful α where
  exact _ := rfl
  decode_encode a := by
    have found : (Listed.all : List α).find? (fun b => word b = word a) = some a := by
      rw [List.find?_eq_some_iff_append]
      obtain ⟨before, after, all⟩ := List.append_of_mem (Listed.complete a)
      refine ⟨by simp, before, after, all, fun b mem => ?_⟩
      have nodup := (Listed.distinct : (Listed.all : List α).Nodup)
      rw [all] at nodup
      simp only [Bool.not_eq_eq_eq_not, Bool.not_true, decide_eq_false_iff_not]
      intro same
      rw [distinct b a same] at mem
      exact (List.nodup_append.mp nodup).2.2 a mem a (by simp) rfl
    simp only [encode, decode, Json.word?, Option.bind_some, found]

instance {α : Type} [Listed α] [Worded α] : Visible α := ⟨fun _ => Json.noConfusion⟩

namespace Record

variable {α β : Type} {given : List (String × Json)}

/-- What a record reads from the fields that are given. -/
def Reads (r : Record α) (given : List (String × Json)) (a : α) : Prop :=
  r.read given = .ok a

theorem Reads.map {r : Record α} {a : α} (f : α → β) (read : r.Reads given a) :
    (f <$> r).Reads given (f a) := by
  change (r.read given).map f = _
  rw [show r.read given = .ok a from read]
  rfl

theorem Reads.seq {f : Record (α → β)} {r : Record α} {g : α → β} {a : α}
    (left : f.Reads given g) (right : r.Reads given a) : (f <*> r).Reads given (g a) :=
  read_seq_of_ok left right

theorem Reads.decode {r : Record α} {a : α} (read : r.Reads given a) :
    r.decode (.object given) = .ok a := by
  change (r.read given).mapError (·.2) = _
  rw [show r.read given = .ok a from read]
  rfl

theorem Reads.decodeChecked {r : Record (Decoded α)} {outcome : Decoded α}
    (read : r.Reads given outcome) : r.decodeChecked (.object given) = outcome := by
  rw [Record.decodeChecked, read.decode]
  rfl

/-- The fields of one name and their places, and the fields alone. -/
theorem filter_zipIdx (name : String) (given : List (String × Json)) :
    (given.zipIdx.filter fun entry => entry.1.1 == name).map (·.1) =
      given.filter fun field => field.1 == name := by
  have whole : given = given.zipIdx.map (·.1) := by simp
  conv => rhs; rw [whole, List.filter_map]
  rfl

theorem field_reads {name : String} {omittable : Bool} {read : Json → Decoded α}
    {absent : Option α} {json : Json} {a : α}
    (once : given.filter (fun field => field.1 == name) = [(name, json)])
    (success : read json = .ok a) : (field name omittable read absent).Reads given a := by
  have places := filter_zipIdx name given
  rw [once, List.map_eq_singleton_iff] at places
  obtain ⟨⟨entry, place⟩, found, equal⟩ := places
  simp only at equal
  simp only [Reads, field, found, equal, success]

theorem field_absent {name : String} {omittable : Bool} {read : Json → Decoded α} {a : α}
    (missing : given.filter (fun field => field.1 == name) = []) :
    (field name omittable read (some a)).Reads given a := by
  have places := filter_zipIdx name given
  rw [missing, List.map_eq_nil_iff] at places
  simp only [Reads, field, places]
  rfl

variable [Codec α] [Faithful α]

theorem required_reads {name : String} {a : α}
    (once : given.filter (fun field => field.1 == name) = [(name, encode a)]) :
    (required name).Reads given a :=
  field_reads once (decode_encode a)

theorem defaulted_reads {name : String} {default a : α}
    (once : given.filter (fun field => field.1 == name) = [(name, encode a)]) :
    (defaulted name default).Reads given a :=
  field_reads once (decode_encode a)

variable [Visible α]

theorem optional_reads {name : String} {a : Option α}
    (once : given.filter (fun field => field.1 == name) = [(name, encode a)]) :
    (optional name).Reads given a :=
  field_reads once (decode_encode a)

/-- A field that is written only when it holds something. -/
theorem field_present {name : String} {omittable : Bool} {a : Option α}
    (once : given.filter (fun field => field.1 == name) = Json.present name a) :
    (field name omittable Codec.decode (some none)).Reads given a := by
  cases a with
  | none => exact field_absent once
  | some a => exact field_reads once (decode_encode (some a))

theorem optional_present {name : String} {a : Option α}
    (once : given.filter (fun field => field.1 == name) = Json.present name a) :
    (optional name).Reads given a :=
  field_present once

theorem defaulted_present {name : String} {a : Option α}
    (once : given.filter (fun field => field.1 == name) = Json.present name a) :
    (defaulted name none).Reads given a :=
  field_present once

end Record

theorem Json.filter_present {α : Type} [Codec α] (name other : String) (a : Option α) :
    (Json.present name a).filter (fun field => field.1 == other) =
      if name = other then Json.present name a else [] := by
  cases a with
  | none => simp [Json.present]
  | some a =>
    by_cases same : name = other
    · simp [Json.present, same]
    · simp [Json.present, same]

theorem Json.fieldsExact_append (first second : List (String × Json)) :
    Json.fieldsExact (first ++ second) = (Json.fieldsExact first && Json.fieldsExact second) := by
  induction first with
  | nil => rfl
  | cons field first ih =>
    obtain ⟨name, value⟩ := field
    simp only [List.cons_append, Json.fieldsExact, ih, Bool.and_assoc]

theorem Json.fieldsExact_present {α : Type} [Codec α] [Faithful α] (name : String)
    (a : Option α) : Json.fieldsExact (Json.present name a) = true := by
  cases a with
  | none => rfl
  | some a => simp only [Json.present, Json.fieldsExact, Faithful.exact, Bool.and_self]

end JourneyPlanner

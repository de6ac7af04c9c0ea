import JourneyPlanner.Line
import JourneyPlanner.Proofs.Badge.Colour
import JourneyPlanner.Proofs.Json.Queries

set_option autoImplicit false

/-! The forms of colours, badges and lines lose nothing. -/
namespace JourneyPlanner

open Record (required_reads optional_reads defaulted_reads defaulted_present)

theorem Shape.word_injective (a b : Shape) (same : word a = word b) : a = b := by
  cases a <;> cases b <;> first | rfl | exact absurd same (by decide)

theorem LineAttribute.word_injective (a b : LineAttribute) (same : word a = word b) : a = b := by
  cases a <;> cases b <;> first | rfl | exact absurd same (by decide)

instance : Faithful Shape := .ofWords Shape.word_injective

instance : Faithful LineAttribute := .ofWords LineAttribute.word_injective

namespace Colour

instance : Faithful Colour where
  exact _ := rfl
  decode_encode c := by
    simp only [encode, decode, ofText_text, Json.checked]

instance : Visible Colour := ⟨fun _ => Json.noConfusion⟩

end Colour

namespace Badge

/-- The fields of a badge as they are written. -/
def formFields (b : Badge) : List (String × Json) :=
  ("shape", encode b.shape) :: ("background", encode b.background) ::
    Json.present "background2" b.background2 ++ ("foreground", encode b.foreground) ::
      Json.present "border" b.border

instance : Faithful Badge where
  exact b := by
    change Json.fieldsExact b.formFields = true
    simp only [formFields, List.cons_append, Json.fieldsExact, Json.fieldsExact_append,
      Json.fieldsExact_present, Faithful.exact, Bool.and_self]
  decode_encode b := by
    have shape : (Record.defaulted "shape" .rounded).Reads b.formFields b.shape :=
      defaulted_reads (by simp [formFields, List.filter_append, Json.filter_present])
    have background : (Record.required "background").Reads b.formFields b.background :=
      required_reads (by simp [formFields, List.filter_append, Json.filter_present])
    have background2 : (Record.defaulted "background2" none).Reads b.formFields b.background2 :=
      defaulted_present (by simp [formFields, List.filter_append, Json.filter_present])
    have foreground : (Record.required "foreground").Reads b.formFields b.foreground :=
      required_reads (by simp [formFields, List.filter_append, Json.filter_present])
    have border : (Record.defaulted "border" none).Reads b.formFields b.border :=
      defaulted_present (by simp [formFields, List.filter_append, Json.filter_present])
    exact (((((shape.map mk).seq background).seq background2).seq foreground).seq border).decode

instance : Visible Badge := ⟨fun _ => Json.noConfusion⟩

end Badge

namespace Line

/-- No attributes are written as no field. -/
theorem filter_presentAttributes (attributes : Selection LineAttribute) (name : String) :
    (presentAttributes attributes).filter (fun field => field.1 == name) =
      if "attributes" = name then presentAttributes attributes else [] := by
  unfold presentAttributes
  split
  · simp
  · by_cases same : "attributes" = name
    · simp [same]
    · simp [same]

theorem isExact_presentAttributes (attributes : Selection LineAttribute) :
    Json.fieldsExact (presentAttributes attributes) = true := by
  unfold presentAttributes
  split
  · rfl
  · simp only [Json.fieldsExact, Faithful.exact, Bool.and_self]

/-- The fields of a line as they are written. -/
def formFields (l : Line) : List (String × Json) :=
  [("id", encode l.id), ("network", encode l.network), ("product", encode l.product),
    ("label", encode l.label), ("name", encode l.name)] ++ presentAttributes l.attributes ++
    ("message", encode l.message) :: Json.present "style" l.badge

theorem attributes_reads (l : Line) :
    (Record.defaulted "attributes" .empty).Reads l.formFields l.attributes := by
  have once : l.formFields.filter (fun field => field.1 == "attributes") =
      presentAttributes l.attributes := by
    simp [formFields, List.filter_append, filter_presentAttributes, Json.filter_present]
  unfold presentAttributes at once
  split at once
  · rename_i none
    have empty : l.attributes = .empty :=
      Selection.ext_members ((List.isEmpty_iff.mp none).trans rfl)
    rw [empty]
    exact Record.field_absent once
  · exact defaulted_reads once

instance : Faithful Line where
  exact l := by
    change Json.fieldsExact l.formFields = true
    simp only [formFields, Json.fieldsExact_append, List.cons_append, Json.fieldsExact,
      Json.fieldsExact_present, isExact_presentAttributes, Faithful.exact, Bool.and_self]
  decode_encode l := by
    have id : (Record.optional "id").Reads l.formFields l.id :=
      optional_reads (by simp [formFields, filter_presentAttributes, Json.filter_present])
    have network : (Record.optional "network").Reads l.formFields l.network :=
      optional_reads (by simp [formFields, filter_presentAttributes, Json.filter_present])
    have product : (Record.optional "product").Reads l.formFields l.product :=
      optional_reads (by simp [formFields, filter_presentAttributes, Json.filter_present])
    have label : (Record.optional "label").Reads l.formFields l.label :=
      optional_reads (by simp [formFields, filter_presentAttributes, Json.filter_present])
    have name : (Record.optional "name").Reads l.formFields l.name :=
      optional_reads (by simp [formFields, filter_presentAttributes, Json.filter_present])
    have message : (Record.optional "message").Reads l.formFields l.message :=
      optional_reads (by simp [formFields, filter_presentAttributes, Json.filter_present])
    have badge : (Record.defaulted "style" none).Reads l.formFields l.badge :=
      defaulted_present (by simp [formFields, filter_presentAttributes, Json.filter_present])
    exact ((((((((id.map mk).seq network).seq product).seq label).seq name).seq
      (attributes_reads l)).seq message).seq badge).decode

end Line

instance : Faithful LineDirection where
  exact d := by
    change Json.fieldsExact [("line", encode d.line), ("destination", encode d.destination)] = true
    simp only [Json.fieldsExact, Faithful.exact, Bool.and_self]
  decode_encode d := by
    refine Record.Reads.decode ?_
    exact ((required_reads rfl).map LineDirection.mk).seq (optional_reads rfl)

end JourneyPlanner

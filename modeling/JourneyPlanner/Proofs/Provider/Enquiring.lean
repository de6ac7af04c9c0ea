import JourneyPlanner.Provider.Guarded

set_option autoImplicit false

/-!
What an enquiry answers and what it reports on the way. A question that is governed is checked,
put, and what is answered is reported on and treated.
-/
namespace JourneyPlanner

namespace Enquiry

variable {α β : Type}

/-- What an enquiry ends in, without the events on the way. -/
def answer (enquiry : Enquiry α) : Except QueryError α := enquiry.run.value

/-- The events on the way, the first one first. -/
def events (enquiry : Enquiry α) : List Event := enquiry.run.events

section Bind

variable {enquiry : Enquiry α} {f : α → Enquiry β} {a : α} {e : QueryError}

theorem answer_bind_of_ok (answered : enquiry.answer = .ok a) :
    (enquiry >>= f).answer = (f a).answer := by
  change (ExceptT.bindCont f enquiry.answer).value = _
  rw [answered]
  rfl

theorem events_bind_of_ok (answered : enquiry.answer = .ok a) :
    (enquiry >>= f).events = enquiry.events ++ (f a).events := by
  change enquiry.events ++ (ExceptT.bindCont f enquiry.answer).events = _
  rw [answered]
  rfl

theorem answer_bind_of_error (failed : enquiry.answer = .error e) :
    (enquiry >>= f).answer = .error e := by
  change (ExceptT.bindCont f enquiry.answer).value = _
  rw [failed]
  rfl

theorem events_bind_of_error (failed : enquiry.answer = .error e) :
    (enquiry >>= f).events = enquiry.events := by
  change enquiry.events ++ (ExceptT.bindCont f enquiry.answer).events = _
  rw [failed]
  exact List.append_nil _

end Bind

/-- A question that passes its check is put, and what is answered is reported on and treated. -/
def governed (rejection : String) (check : Except QueryError Unit) (asked : Enquiry α)
    (reported : α → Enquiry Unit) (treated : α → α) : Enquiry α := do
  require rejection check
  let response ← asked
  reported response
  return treated response

/-- A failed check is the answer, and it is all that is reported. -/
def RefusedBy (check : Except QueryError Unit) (rejection : String) (enquiry : Enquiry α) : Prop :=
  ∀ e, check = .error e →
    enquiry.answer = .error e ∧ enquiry.events = [⟨.warn, rejection, [("error", e.message)]⟩]

/-- A question is put once: what is reported is what the one asked reports and then what is reported
on the answer. An error remains, and an answer is treated by a rule. -/
structure Puts (enquiry asked : Enquiry α) (reported : α → List Event) (rule : α → α → Prop) :
    Prop where
  failed : ∀ e, asked.answer = .error e →
    enquiry.answer = .error e ∧ enquiry.events = asked.events
  answered : ∀ r, asked.answer = .ok r →
    ∃ s, rule r s ∧ enquiry.answer = .ok s ∧ enquiry.events = asked.events ++ reported r

/-- A question is refused by its check, or it is put. -/
structure Governs (enquiry asked : Enquiry α) (check : Except QueryError Unit) (rejection : String)
    (reported : α → List Event) (rule : α → α → Prop) : Prop where
  refused : enquiry.RefusedBy check rejection
  puts : check = .ok () → enquiry.Puts asked reported rule

theorem refusedBy_require (rejection : String) (check : Except QueryError Unit)
    (f : Unit → Enquiry α) : (require rejection check >>= f).RefusedBy check rejection := by
  rintro e rfl
  exact ⟨rfl, rfl⟩

section Governed

variable {rejection : String} {check : Except QueryError Unit} {asked : Enquiry α}
  {reported : α → Enquiry Unit} {treated : α → α}

theorem governed_of_ok (passed : check = .ok ()) :
    governed rejection check asked reported treated =
      (do let response ← asked; reported response; return treated response) := by
  subst passed
  rfl

/-- What is reported on an answer does not keep it back. -/
theorem puts_governed {rule : α → α → Prop} (passed : check = .ok ())
    (quiet : ∀ r, (reported r).answer = .ok ()) (ruled : ∀ r, rule r (treated r)) :
    (governed rejection check asked reported treated).Puts asked
      (fun r => (reported r).events) rule := by
  rw [governed_of_ok passed]
  refine ⟨fun e failed => ?_, fun r answered => ⟨treated r, ruled r, ?_, ?_⟩⟩
  · exact ⟨answer_bind_of_error failed, events_bind_of_error failed⟩
  · rw [answer_bind_of_ok answered, answer_bind_of_ok (quiet r)]
    rfl
  · rw [events_bind_of_ok answered, events_bind_of_ok (quiet r)]
    exact congrArg (asked.events ++ ·) (List.append_nil _)

theorem governs_governed {rule : α → α → Prop} (quiet : ∀ r, (reported r).answer = .ok ())
    (ruled : ∀ r, rule r (treated r)) :
    (governed rejection check asked reported treated).Governs asked check rejection
      (fun r => (reported r).events) rule :=
  ⟨refusedBy_require rejection check _, fun passed => puts_governed passed quiet ruled⟩

theorem answer_governed (passed : check = .ok ()) (quiet : ∀ r, (reported r).answer = .ok ()) :
    (governed rejection check asked reported treated).answer = asked.answer.map treated := by
  have puts : (governed rejection check asked reported treated).Puts asked
      (fun r => (reported r).events) fun r s => s = treated r :=
    puts_governed passed quiet fun _ => rfl
  obtain ⟨failed, answered⟩ := puts
  cases outcome : asked.answer with
  | error e => exact (failed e outcome).1
  | ok r =>
    obtain ⟨s, rfl, answer, -⟩ := answered r outcome
    exact answer

/-- Only what passes its check is answered, and then by the one asked. -/
theorem answered_of_governed {r : α}
    (answered : (governed rejection check asked reported treated).answer = .ok r)
    (quiet : ∀ r, (reported r).answer = .ok ()) :
    check = .ok () ∧ ∃ s, asked.answer = .ok s ∧ r = treated s := by
  cases check with
  | error e => cases answered
  | ok =>
    rw [answer_governed rfl quiet] at answered
    cases outcome : asked.answer with
    | error e =>
      rw [outcome] at answered
      cases answered
    | ok s =>
      rw [outcome] at answered
      cases answered
      exact ⟨rfl, s, rfl, rfl⟩

/-- Rules that the one asked keeps itself change nothing. -/
theorem answer_governed_self (refused : ∀ e, check = .error e → asked.answer = .error e)
    (quiet : ∀ r, (reported r).answer = .ok ()) (kept : ∀ r, asked.answer = .ok r → treated r = r) :
    (governed rejection check asked reported treated).answer = asked.answer := by
  cases check with
  | error e => exact (refused e rfl).symm
  | ok =>
    rw [answer_governed rfl quiet]
    cases answered : asked.answer with
    | error e => rfl
    | ok r => exact congrArg Except.ok (kept r answered)

end Governed

end Enquiry

end JourneyPlanner

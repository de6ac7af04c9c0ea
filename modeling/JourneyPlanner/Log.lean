set_option autoImplicit false

/-! Results together with the events that were reported on the way to them. -/
namespace JourneyPlanner

inductive Level where
  | trace
  | debug
  | warn
  deriving DecidableEq, Repr

def Level.word : Level → String
  | .trace => "TRACE"
  | .debug => "DEBUG"
  | .warn => "WARN"

structure Event where
  level : Level
  message : String
  fields : List (String × String)
  deriving DecidableEq, Repr

/-- A value and the events before it, the first one first. -/
structure Logged (α : Type) where
  value : α
  events : List Event

namespace Logged

instance : Monad Logged where
  pure a := ⟨a, []⟩
  bind x f := ⟨(f x.value).value, x.events ++ (f x.value).events⟩

/-- Nothing but an event. -/
def report (level : Level) (message : String) (fields : List (String × String)) : Logged Unit :=
  ⟨(), [⟨level, message, fields⟩]⟩

end Logged

end JourneyPlanner

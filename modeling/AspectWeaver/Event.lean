/-!
# Log events

What the library writes to the log: a level, a message, and named fields. Steps that do nothing but
compute and log are `Logged` values: a result together with the events on the way, in order.
-/

set_option autoImplicit false

namespace AspectWeaver

/-- How important an event is, from the most to the least. -/
inductive Level where
  | error | warn | info | debug | trace
deriving DecidableEq, Inhabited, Repr

namespace Level

/-- The position of a level, counted from the most important one. -/
def verbosity : Level → Nat
  | .error => 1
  | .warn => 2
  | .info => 3
  | .debug => 4
  | .trace => 5

/-- The name of a level, in the form that a configuration holds. -/
def name : Level → String
  | .error => "error"
  | .warn => "warn"
  | .info => "info"
  | .debug => "debug"
  | .trace => "trace"

/-- All levels, the most important first. -/
def all : List Level := [.error, .warn, .info, .debug, .trace]

end Level

/-- The content of a field of an event. -/
inductive FieldValue where
  | text (s : String)
  | number (n : Int)
  | flag (b : Bool)
deriving DecidableEq, Inhabited, Repr

/-- One entry of the log. -/
structure Event where
  level : Level
  message : String
  fields : List (String × FieldValue)
deriving DecidableEq, Inhabited, Repr

/-- A result and the events that were logged while it was computed, in order. -/
structure Logged (α : Type) where
  value : α
  events : List Event

namespace Logged

instance : Monad Logged where
  pure a := ⟨a, []⟩
  bind x f := ⟨(f x.value).value, x.events ++ (f x.value).events⟩

/-- Logs one event. -/
def event (e : Event) : Logged Unit := ⟨(), [e]⟩

/-- Logs one event with the given parts. -/
def tell (level : Level) (message : String) (fields : List (String × FieldValue)) : Logged Unit :=
  event ⟨level, message, fields⟩

/-- A value alone is the value that is given. -/
@[simp] theorem value_pure {α : Type} (a : α) : (pure a : Logged α).value = a := rfl

/-- A value alone logs nothing. -/
@[simp] theorem events_pure {α : Type} (a : α) : (pure a : Logged α).events = [] := rfl

/-- What goes on from a step gives the value of its last part. -/
@[simp] theorem value_bind {α β : Type} (x : Logged α) (f : α → Logged β) :
    (x >>= f).value = (f x.value).value := rfl

/-- What goes on from a step is logged behind what the step logged. -/
@[simp] theorem events_bind {α β : Type} (x : Logged α) (f : α → Logged β) :
    (x >>= f).events = x.events ++ (f x.value).events := rfl

/-- Telling an event gives nothing. -/
@[simp] theorem value_tell (level : Level) (message : String) (fields : List (String × FieldValue)) :
    (tell level message fields).value = () := rfl

/-- The result of a walk through a list is the walk of the results. -/
theorem value_foldlM {α β : Type} (f : α → β → Logged α) (l : List β) (a : α) :
    (l.foldlM f a).value = l.foldl (fun a x => (f a x).value) a := by
  induction l generalizing a with
  | nil => rfl
  | cons x l ih =>
      rw [List.foldlM_cons, value_bind, ih]
      rfl

/-- Telling an event logs this event alone. -/
@[simp] theorem events_tell (level : Level) (message : String) (fields : List (String × FieldValue)) :
    (tell level message fields).events = [⟨level, message, fields⟩] := rfl

end Logged

end AspectWeaver

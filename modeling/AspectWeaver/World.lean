import AspectWeaver.Event
import AspectWeaver.Failure

/-!
# The world of a call

What methods, advices and interceptors can see and change beside their arguments: the clock, the log,
the count of objects made so far, and whatever the program keeps for them, a state of any type `τ`. An
`Action` is a step over some state that may fail; what it did to the state before it failed stays done.
-/

set_option autoImplicit false

namespace AspectWeaver

/-- A step over a state, which gives a result or fails. -/
abbrev Action (σ α : Type) := ExceptT Failure (StateM σ) α

namespace Action

variable {σ α : Type}

/-- A step from its effect on the state. -/
def of (step : σ → Except Failure α × σ) : Action σ α := ExceptT.mk step

/-- Takes a step from a state: its result and the state after it. -/
def start (x : Action σ α) (s : σ) : Except Failure α × σ := ExceptT.run x s

/-- Takes a step and gives its failure as a result. -/
def attempt (x : Action σ α) : Action σ (Except Failure α) :=
  of fun s => let (result, after) := x.start s; (.ok result, after)

/-- Takes a step on the second part of a state. -/
def onSecond {ρ : Type} (x : Action σ α) : Action (ρ × σ) α :=
  of fun (first, s) => let (result, after) := x.start s; (result, (first, after))

/-- A step made from its effect has this effect. -/
@[simp] theorem start_of (step : σ → Except Failure α × σ) (s : σ) : (of step).start s = step s := rfl

/-- A result alone leaves the state as it is. -/
@[simp] theorem start_pure (a : α) (s : σ) : (pure a : Action σ α).start s = (.ok a, s) := rfl

/-- A failure alone leaves the state as it is. -/
@[simp] theorem start_throw (f : Failure) (s : σ) : (throw f : Action σ α).start s = (.error f, s) := rfl

/-- A step goes on from the state that the one before left, unless that one failed. -/
theorem start_bind {γ : Type} (x : Action σ α) (next : α → Action σ γ) (s : σ) :
    (x >>= next).start s = match x.start s with
      | (.ok a, after) => (next a).start after
      | (.error f, after) => (.error f, after) := by
  show (StateT.bind x (ExceptT.bindCont next)) s = _
  unfold StateT.bind start ExceptT.run
  rcases x s with ⟨a | a, after⟩ <;> rfl

/-- An attempt gives the outcome of its step and leaves the state that the step left. -/
@[simp] theorem start_attempt (x : Action σ α) (s : σ) :
    x.attempt.start s = (.ok (x.start s).1, (x.start s).2) := rfl

end Action

/-- Everything outside the arguments of a call. -/
structure World (τ : Type) where
  /-- Milliseconds since the beginning. -/
  clock : Nat
  /-- How many objects have been made. -/
  objects : Nat
  /-- The log, the newest entry last. -/
  log : List Event
  /-- What the program keeps. -/
  state : τ
deriving Inhabited

namespace World

variable {τ : Type}

def initial (state : τ) : World τ := ⟨0, 0, [], state⟩

def record (events : List Event) (w : World τ) : World τ := { w with log := w.log ++ events }

def update (f : τ → τ) (w : World τ) : World τ := { w with state := f w.state }

def wait (milliseconds : Nat) (w : World τ) : World τ := { w with clock := w.clock + milliseconds }

/-- Appends one event to the log. -/
def tell (level : Level) (message : String) (fields : List (String × FieldValue)) :
    Action (World τ) Unit :=
  Action.of fun w => (.ok (), w.record [⟨level, message, fields⟩])

end World

end AspectWeaver

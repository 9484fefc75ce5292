import AspectWeaver.JoinPoint
import AspectWeaver.World

/-!
# What happens around a call

The course of an around advice or an interceptor, as a tree: at each node it ends, looks at the state,
replaces the state, or lets the call proceed and goes on with the outcome. The tree does not say how the
call proceeds; that is given when the course is run. So letting the call proceed is the only way in
which such code can reach the method.
-/

set_option autoImplicit false

namespace AspectWeaver

/-- The course of an around advice or an interceptor over a state `σ`. -/
inductive Around (σ α : Type) where
  /-- Ends with a result or a failure. -/
  | done (outcome : Except Failure α)
  /-- Looks at the state. -/
  | read (next : σ → Around σ α)
  /-- Replaces the state. -/
  | write (state : σ) (next : Around σ α)
  /-- Lets the call proceed. -/
  | proceed (next : Except Failure (Option Value) → Around σ α)

namespace Around

variable {σ α γ : Type}

/-- Runs a course, given how the call proceeds. -/
def run (call : Action σ (Option Value)) : Around σ α → σ → Except Failure α × σ
  | .done outcome, s => (outcome, s)
  | .read next, s => run call (next s) s
  | .write s next, _ => run call next s
  | .proceed next, s => let (outcome, after) := call.start s; run call (next outcome) after

/-- A course as a step over the state, given how the call proceeds. -/
def toAction (call : Action σ (Option Value)) (x : Around σ α) : Action σ α := Action.of (run call x)

/-- Goes on with the result of a course; a failure ends it. -/
def bind : Around σ α → (α → Around σ γ) → Around σ γ
  | .done (.ok a), f => f a
  | .done (.error e), _ => .done (.error e)
  | .read next, f => .read fun s => bind (next s) f
  | .write s next, f => .write s (bind next f)
  | .proceed next, f => .proceed fun outcome => bind (next outcome) f

instance : Monad (Around σ) where
  pure a := .done (.ok a)
  bind := bind

/-- A course that takes one step and never lets the call proceed. -/
def ofAction (x : Action σ α) : Around σ α :=
  .read fun s => let (outcome, after) := x.start s; .write after (.done outcome)

/-- Ends a course with a failure. -/
def fail (f : Failure) : Around σ α := .done (.error f)

/-- Lets the call proceed and gives its outcome as a result, failures too. -/
def tryProceed : Around σ (Except Failure (Option Value)) := .proceed fun outcome => .done (.ok outcome)

/-- Lets the call proceed and fails when it fails. -/
def proceedOrFail : Around σ (Option Value) := .proceed .done

/-- Letting the call proceed and nothing else is the call itself. -/
@[simp] theorem run_proceedOrFail (call : Action σ (Option Value)) (s : σ) :
    proceedOrFail.run call s = call.start s := rfl

/-- A course that takes one step is that step. -/
@[simp] theorem run_ofAction (call : Action σ (Option Value)) (x : Action σ α) (s : σ) :
    (ofAction x).run call s = x.start s := rfl

end Around

end AspectWeaver

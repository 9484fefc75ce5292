import AspectWeaver.Advice.Registry
import AspectWeaver.Call.Behaviours

/-!
# Dispatching a call

A call of a woven method runs through the advices bound to the method like through the layers of an
onion. First the before advices run, by falling order number; if one fails, the call fails and nothing
else runs. Then comes the guarded part: the around advices by falling number, or the method itself if
there are none, and after them the afterReturning advices by rising number. If the guarded part fails,
the afterThrowing advices run by falling number and take the failure away; without any, the failure
stays. At last the after advices run by rising number, whatever happened before. The call returns the
result of the join point, or the failure that stayed.
-/

set_option autoImplicit false

namespace AspectWeaver

variable {β τ : Type}

namespace AdviceSet

/-- Announces in the log that an advice of a phase comes next. -/
def announce (phase : AdviceKind) (a : Advised β) : Action (JoinPoint × World τ) Unit :=
  Action.onSecond (World.tell .trace phase.name [("advice", .text a.name), ("order", .number a.order)])

/-- Runs one advice of a phase. -/
def runOne (b : Behaviours β τ) (phase : AdviceKind) (a : Advised β) :
    Action (JoinPoint × World τ) Unit := do
  announce phase a
  a.body.run b

/-- Runs one around advice and stores its result. -/
def runAround (b : Behaviours β τ) (m : Method β) (a : Advised β) :
    Action (JoinPoint × World τ) Unit := do
  announce .around a
  let result ← (a.body.course b).toAction (m.proceed b)
  storeResult result

/-- Runs one advice that is told a failure. -/
def runThrowing (b : Behaviours β τ) (f : Failure) (a : Advised β) :
    Action (JoinPoint × World τ) Unit := do
  announce .afterThrowing a
  a.body.runThrowing b f

/-- The core of the guarded part: the around advices, or the method itself if there are none. -/
def runCore (b : Behaviours β τ) (s : AdviceSet β) (m : Method β) :
    Action (JoinPoint × World τ) Unit :=
  match s.around with
  | [] => do
    let result ← m.proceed b
    storeResult result
  | advices => advices.forM (runAround b m)

/-- The guarded part: the core, and then the afterReturning advices. -/
def runGuarded (b : Behaviours β τ) (s : AdviceSet β) (m : Method β) :
    Action (JoinPoint × World τ) Unit := do
  s.runCore b m
  s.afterReturning.reverse.forM (runOne b .afterReturning)

/-- What becomes of the outcome of the guarded part: the failure that stays, if any. -/
def settle (b : Behaviours β τ) (s : AdviceSet β) :
    Except Failure Unit → Action (JoinPoint × World τ) (Option Failure)
  | .ok _ => pure none
  | .error f =>
    match s.afterThrowing with
    | [] => pure (some f)
    | advices => do
      match ← (advices.forM (runThrowing b f)).attempt with
      | .ok _ => pure none
      | .error raised => pure (some raised)

/-- Takes the result away from the join point. -/
def takeResult : Action (JoinPoint × World τ) (Option Value) :=
  Action.of fun (jp, w) => (.ok jp.result, (jp.setResult none, w))

/-- Runs a call through the advices, all on one join point. -/
def runCall (b : Behaviours β τ) (s : AdviceSet β) (m : Method β) :
    Action (JoinPoint × World τ) (Option Value) := do
  s.before.forM (runOne b .before)
  let guarded ← (s.runGuarded b m).attempt
  let pending ← s.settle b guarded
  s.after.reverse.forM (runOne b .after)
  match pending with
  | some f => throw f
  | none => takeResult

end AdviceSet

/-- Takes a step on a new join point, which is dropped at the end. -/
def withJoinPoint {α : Type} (target : Target) (method : MethodDescriptor) (args : List Value)
    (x : Action (JoinPoint × World τ) α) : Action (World τ) α :=
  Action.of fun w =>
    let (outcome, (_, after)) := x.start (JoinPoint.start target method args w.clock, w)
    (outcome, after)

/-- Calls a method through the advices bound to it, or directly if none are. -/
def AdviceRegistry.dispatch (b : Behaviours β τ) (r : AdviceRegistry β) (target : Target) (m : Method β)
    (args : List Value) : Action (World τ) (Option Value) :=
  match r.adviceSet? m.signature with
  | none => m.invoke b target args
  | some set => do
    World.tell .trace "Dispatching through advices"
      [("signature", .text m.signature.text), ("advices", .number set.size)]
    withJoinPoint target m.descriptor args (set.runCall b m)

/-- Calls a method through the interceptor bound to it, or directly if none is. -/
def InterceptorRegistry.dispatch (b : Behaviours β τ) (r : InterceptorRegistry β) (target : Target)
    (m : Method β) (args : List Value) : Action (World τ) (Option Value) :=
  match r.binding? m.signature with
  | none => m.invoke b target args
  | some interceptor => do
    World.tell .trace "Dispatching to interceptor"
      [("signature", .text m.signature.text), ("interceptor", .text interceptor.marker.name)]
    withJoinPoint target m.descriptor args ((b.intercept interceptor).toAction (m.proceed b))

end AspectWeaver

import AspectWeaver.Advice.Set
import AspectWeaver.Call.Around
import AspectWeaver.ErrorInfo
import AspectWeaver.Interceptor

/-!
# Running methods and advices

The library knows code only as values of a type `β`. A program that uses it says in one `Behaviours`
what the code does: as the body of a method, as an advice at a join point, as an advice after a
failure, and around a call. From this follow the call of one method and the run of one advice.
-/

set_option autoImplicit false

namespace AspectWeaver

/-- What code does in each of the places where it can stand. -/
structure Behaviours (β τ : Type) where
  /-- As the body of a method on a target of the right type. -/
  method : β → Target → List Value → Action (World τ) (Option Value)
  /-- As an advice at a join point. -/
  advice : β → Action (JoinPoint × World τ) Unit
  /-- As an advice that is told a failure. -/
  throwing : β → Failure → Action (JoinPoint × World τ) Unit
  /-- As an advice around a call. -/
  around : β → Around (JoinPoint × World τ) (Option Value)
  /-- As the code of an interceptor. -/
  intercept : Interceptor β → Around (JoinPoint × World τ) (Option Value)

variable {β τ : Type}

/-- Calls a method directly. Code runs only on targets of the type that it was written for. -/
def Method.invoke (b : Behaviours β τ) (m : Method β) (target : Target) (args : List Value) :
    Action (World τ) (Option Value) :=
  match m.body with
  | .typed expected code =>
    if target.typeName = expected then b.method code target args
    else throw (Failure.ofWeave (.targetTypeMismatch expected m.signature.text))
  | .missing => throw (Failure.ofText ("'" ++ m.signature.text ++ "' has no implementation"))

/-- Lets the call of a join point proceed: the method runs with the arguments of the moment, and the
join point stays as it is. -/
def Method.proceed (b : Behaviours β τ) (m : Method β) : Action (JoinPoint × World τ) (Option Value) :=
  Action.of fun (jp, w) =>
    let (outcome, after) := (m.invoke b jp.target jp.args).start w
    (outcome, (jp, after))

/-- Appends an event to the log that depends on the join point and the time. -/
def tellAt (event : JoinPoint → Nat → Event) : Action (JoinPoint × World τ) Unit :=
  Action.of fun (jp, w) => (.ok (), (jp, w.record [event jp w.clock]))

/-- Replaces the result of the join point. -/
def storeResult (result : Option Value) : Action (JoinPoint × World τ) Unit :=
  Action.of fun (jp, w) => (.ok (), (jp.setResult result, w))

/-- A span of time in the shortest of the units nanosecond, millisecond and second. -/
def durationText (milliseconds : Nat) : String :=
  if milliseconds = 0 then "0ns"
  else if milliseconds < 1000 then toString milliseconds ++ "ms"
  else
    let fraction := (toString (1000 + milliseconds % 1000)).toList.drop 1
    let digits := (fraction.reverse.dropWhile (· == '0')).reverse
    toString (milliseconds / 1000) ++ (if digits = [] then "" else "." ++ String.ofList digits) ++ "s"

namespace AdviceBody

/-- Logs that a call is entered. -/
def enteringEvent (withArgs : Bool) (jp : JoinPoint) (_ : Nat) : Event :=
  ⟨.info, "→ Entering: " ++ jp.signature.text,
    if withArgs then [("args", .number jp.args.length)] else []⟩

/-- Logs that a call is left, and how long it took. -/
def exitingEvent (jp : JoinPoint) (now : Nat) : Event :=
  ⟨.info, "← Exiting: " ++ jp.signature.text ++ " (took " ++ durationText (now - jp.startedAt) ++ ")", []⟩

/-- Warns that a call took long. -/
def slowEvent (threshold : Nat) (jp : JoinPoint) (now : Nat) : Event :=
  ⟨.warn, "Slow method detected: " ++ jp.signature.text,
    [("elapsed_ms", .number (now - jp.startedAt : Nat)), ("threshold_ms", .number threshold)]⟩

/-- Reports a failure. -/
def failureEvent (f : Failure) (jp : JoinPoint) (_ : Nat) : Event :=
  let info := ErrorInfo.ofFailure f
  ⟨.error, "Exception in " ++ jp.signature.text ++ ": " ++ info.fullDescription,
    [("error_type", .text info.errorType)]⟩

/-- Warns if more than so many milliseconds have passed since the call was intercepted. -/
def warnIfSlow (threshold : Nat) : Action (JoinPoint × World τ) Unit :=
  Action.of fun (jp, w) =>
    if threshold < w.clock - jp.startedAt then
      (.ok (), (jp, w.record [slowEvent threshold jp w.clock]))
    else (.ok (), (jp, w))

/-- Runs an advice at a join point. -/
def run (b : Behaviours β τ) : AdviceBody β → Action (JoinPoint × World τ) Unit
  | .custom code => b.advice code
  | .logEntering withArgs => tellAt (enteringEvent withArgs)
  | .logExiting => tellAt exitingEvent
  | .warnSlow threshold => warnIfSlow threshold
  | .logFailure => pure ()

/-- Runs an advice that is told a failure. -/
def runThrowing (b : Behaviours β τ) (f : Failure) : AdviceBody β → Action (JoinPoint × World τ) Unit
  | .custom code => b.throwing code f
  | .logFailure => tellAt (failureEvent f)
  | body => body.run b

/-- The course of an advice around a call; an observation lets the call proceed. -/
def course (b : Behaviours β τ) : AdviceBody β → Around (JoinPoint × World τ) (Option Value)
  | .custom code => b.around code
  | body => do
    Around.ofAction (body.run b)
    Around.proceedOrFail

end AdviceBody

end AspectWeaver

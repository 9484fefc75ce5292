import AspectWeaver.Script.Eval

/-!
# What scripts and stock code do

The meaning of `Code` in each of the places where it can stand, given how nested calls are made. A
nested call looks up a woven instance on the stage and runs by the same meaning, one level deeper; more
than `maxDepth` levels are refused, which makes every call end.
-/

set_option autoImplicit false

namespace AspectWeaver.Script

variable [RegexEngine]

/-! ## Stock interceptors -/

/-- A 32-bit integer as a result. -/
def number (n : Int32) : Option Value := some (.int32 n)

/-- One more attempt to let the call proceed: a failure is traced and gives none. -/
def tryOnce (attempt : Nat) : Around Scene (Option (Option Value)) := do
  match ← Around.tryProceed with
  | .ok value => pure (some value)
  | .error f => do
    note ("retry " ++ toString attempt ++ ": " ++ f.message)
    pure none

/-- Adds one to a 32-bit integer and leaves other values alone. -/
def raised : Value → Value
  | .int32 n => .int32 (n + 1)
  | v => v

/-- The course of a stock interceptor. -/
def StockInterceptor.course (i : Interceptor Code) : StockInterceptor → Around Scene (Option Value)
  | .double => do
    let value ← Around.proceedOrFail
    pure (number (addend value * 2))
  | .shortCircuit => pure (number (-1))
  | .audit => do
    note (← look fun (jp, _) => "audit " ++ jp.signature.text)
    Around.proceedOrFail
  | .counter => do
    let (count, after) ← look fun (_, w) => w.state.tally i
    changeStage fun _ => after
    pure (number count)
  | .retry => do
    match ← tryOnce 1 with
    | some value => pure value
    | none =>
      match ← tryOnce 2 with
      | some value => pure value
      | none => Around.proceedOrFail
  | .swallow => do
    match ← Around.tryProceed with
    | .ok value => pure value
    | .error f => pure (some (.text ("swallowed: " ++ f.message)))
  | .increment => do
    change fun (jp, w) => ({ jp with args := jp.args.map raised }, w)
    let value ← Around.proceedOrFail
    change fun (jp, w) => (jp.setResult value, w)
    pure value
  | .failFast => Around.fail (Failure.ofText "intercepted")

/-! ## Sample code -/

/-- The result of a sample method. -/
def SampleCode.result (args : List Value) : SampleCode → Except Failure (Option Value)
  | .greet => (argument .text args 0).map fun v => some (.text ("hello, " ++ v.text?.getD ""))
  | .quote => (argument .int32 args 0).map fun v => number (addend (some v) + 100)
  | .free => (argument .int32 args 0).map some
  | .plain | .shout => .ok none

/-- The course of a sample advice. -/
def SampleCode.course : SampleCode → Around Scene (Option Value)
  | .shout => do
    let value ← Around.proceedOrFail
    pure (some (.text ((value.bind Value.text?).getD "").toUpper))
  | _ => Around.proceedOrFail

/-! ## Code in each place -/

/-- Code as the body of a method. A script counts as a call on its target before it runs. -/
def Code.runMethod (call : NestedCall) (code : Code) (target : Target) (args : List Value) :
    Action (World Stage) (Option Value) :=
  match code with
  | .script steps =>
    Action.of fun w =>
      let scene := (JoinPoint.start target default args w.clock, w.update (Stage.countCall target))
      let (outcome, (_, after)) := (runScript call .body steps).run (pure none) scene
      (outcome, after)
  | .sample code => Action.of fun w => (code.result args, w)
  | .stock _ => pure none

/-- Code as an advice that stands at a site; its result is dropped. -/
def Code.runAdvice (call : NestedCall) (site : Site) : Code → Action Scene Unit
  | .script steps => do
    let _ ← (runScript call site steps).toAction (pure none)
    pure ()
  | _ => pure ()

/-- Code as an advice around a call. -/
def Code.course (call : NestedCall) : Code → Around Scene (Option Value)
  | .script steps => runScript call .around steps
  | .sample code => code.course
  | .stock _ => Around.proceedOrFail

/-- Code as that of an interceptor. -/
def interceptorCourse (call : NestedCall) (i : Interceptor Code) : Around Scene (Option Value) :=
  match i.marker.code with
  | .stock interceptor => interceptor.course i
  | code => code.course call

/-- The meaning of code, given how nested calls are made. -/
def behavioursWith (call : NestedCall) : Behaviours Code Stage where
  method := Code.runMethod call
  advice := Code.runAdvice call .advice
  throwing code f := Code.runAdvice call (.throwing f) code
  around := Code.course call
  intercept := interceptorCourse call

/-! ## Nested calls -/

/-- Calls a method of the woven instance that is kept under a name. -/
def callKept (b : Behaviours Code Stage) (name method : String) (params : List String)
    (args : List Value) : Action (World Stage) (Option Value) :=
  Action.of fun w =>
    match w.state.instances.get? name with
    | some kept => (kept.woven.invoke b (w.state.bindingsOf kept.home) method params args).start w
    | none => (.error (Failure.ofText ("driver: no instance '" ++ name ++ "'")), w)

/-- Nested calls that may go so many levels deeper. -/
def nestedCall : Nat → NestedCall
  | 0 => fun _ _ _ _ => throw (Failure.ofText "calls are nested too deeply")
  | depth + 1 => fun name method params args =>
    callKept (behavioursWith (nestedCall depth)) name method params args

/-- How many levels of nested calls are possible. -/
def maxDepth : Nat := 4000

/-- The meaning of code. -/
def behaviours : Behaviours Code Stage := behavioursWith (nestedCall maxDepth)

end AspectWeaver.Script

import AspectWeaver.Call.Argument
import AspectWeaver.Call.Around
import AspectWeaver.ErrorInfo
import AspectWeaver.Script.Stage

/-!
# Running scripts

A script runs as the course of something around a call, on a join point and the world. What its steps
can do depends on where it stands: only around a call can it let the call proceed, only an advice can
touch the join point, and only after a failure is there a failure to show. A body runs on a join point
of its own, which holds the target and the arguments.
-/

set_option autoImplicit false

namespace AspectWeaver.Script

variable [RegexEngine]

/-- Where a script stands. -/
inductive Site where
  /-- It is the body of a method. -/
  | body
  /-- It is an advice that neither runs around the call nor is told a failure. -/
  | advice
  /-- It is an advice that is told a failure. -/
  | throwing (f : Failure)
  /-- It is an advice around a call. -/
  | around
deriving Inhabited, Repr

/-- What a script runs on. -/
abbrev Scene := JoinPoint × World Stage

/-- How a script calls a method of a woven instance: the name of the instance, the name of the method,
its parameter types and the arguments. -/
abbrev NestedCall := String → String → List String → List Value → Action (World Stage) (Option Value)

/-- How far a script has come. -/
inductive Progress where
  /-- It goes on, with this in its register. -/
  | next (last : Option Value)
  /-- It has ended with this result. -/
  | ended (result : Option Value)
deriving Inhabited, Repr

/-! ## Looking and changing -/

/-- Reads something off the scene. -/
def look {α : Type} (view : Scene → α) : Around Scene α := .read fun s => .done (.ok (view s))

/-- Changes the scene. -/
def change (f : Scene → Scene) : Around Scene Unit := .read fun s => .write (f s) (.done (.ok ()))

/-- Changes the stage. -/
def changeStage (f : Stage → Stage) : Around Scene Unit := change fun (jp, w) => (jp, w.update f)

/-- Adds a line to the trace. -/
def note (line : String) : Around Scene Unit := changeStage (Stage.note line)

/-- Changes the join point of an advice; a body has none to change. -/
def changeJoinPoint (site : Site) (f : JoinPoint → JoinPoint) : Around Scene Unit :=
  match site with
  | .body => pure ()
  | _ => change fun (jp, w) => (f jp, w)

/-- The counters of the target, if it has any. -/
def countersHere : Around Scene (Option Counters) :=
  look fun (jp, w) => w.state.countersOf jp.target

/-! ## Expressions -/

/-- The 32-bit integer in a value; anything else counts as zero. -/
def addend : Option Value → Int32
  | some (.int32 n) => n
  | _ => 0

/-- An argument of a given type: a body insists on it, an advice does without. -/
def typedArgument (site : Site) (index : Nat) (type : ValueType) : Around Scene (Option Value) := do
  let found ← look fun (jp, _) => argument type jp.args index
  match site, found with
  | _, .ok value => pure (some value)
  | .body, .error f => Around.fail f
  | _, .error _ => pure none

mutual

/-- The value of an expression. -/
def Expr.eval (site : Site) (last : Option Value) : Expr → Around Scene (Option Value)
  | .constant value => pure value
  | .typedArg index type => typedArgument site index type
  | .anyArg index => look fun (jp, _) => jp.args[index]?
  | .argCount => look fun (jp, _) => some (.int32 (Int32.ofNat jp.args.length))
  | .last => pure last
  | .result => look fun (jp, _) => jp.result
  | .resultAs type => look fun (jp, _) => jp.resultAs? type
  | .takeResult => do
    let value ← look fun (jp, _) => jp.result
    changeJoinPoint site fun jp => jp.setResult none
    pure value
  | .param name => look fun (jp, _) => jp.param? name
  | .paramAs name type => look fun (jp, _) => jp.paramAs? type name
  | .calls => do pure ((← countersHere).map fun c => .int32 c.calls.toInt32)
  | .state => do pure ((← countersHere).map fun c => .int32 c.state.toInt32)
  | .targetIs typeName => look fun (jp, _) => some (.bool (jp.target.typeName == typeName))
  | .sum parts => do pure (some (.int32 ((← evalAll site last parts).foldl (fun n v => n + addend v) 0)))
  | .concat parts => do pure (some (.text (String.join ((← evalAll site last parts).map shown))))

/-- The values of expressions, which are found from left to right. -/
def evalAll (site : Site) (last : Option Value) : List Expr → Around Scene (List (Option Value))
  | [] => pure []
  | e :: rest => do
    let value ← e.eval site last
    let values ← evalAll site last rest
    pure (value :: values)

end

/-! ## Steps -/

/-- Replaces an argument, if there is a value and an argument at the position. -/
def replaceArgument (site : Site) (index : Nat) (value : Option Value) : Around Scene Unit := do
  let count ← look fun (jp, _) => jp.args.length
  match site, value with
  | .body, _ => pure ()
  | _, some v =>
    if index < count then changeJoinPoint site fun jp => { jp with args := jp.args.set index v }
    else note "set_arg: ignored"
  | _, none => note "set_arg: ignored"

/-- The line that says which method is called. -/
def callLine (jp : JoinPoint) : String :=
  " | ".intercalate [jp.signature.text, jp.signature.text, jp.method.owner, jp.method.name,
    ";".intercalate jp.method.params]

/-- The line that describes the join point, as it looks from a site. -/
def descriptionLine (site : Site) (jp : JoinPoint) : String :=
  match site with
  | .body => "body"
  | .around => jp.describeProceeding ++ " / " ++ jp.describe
  | _ => jp.describe

/-- The line that shows a failure, if there is one to show. -/
def failureLine : Site → String
  | .throwing f =>
    let info := ErrorInfo.ofFailure f
    info.display ++ " | " ++ info.fullDescription
  | _ => "no error"

/-- The failure that a site tells with a text before it. -/
def rethrown (start : String) : Site → Failure
  | .throwing f => Failure.ofText (start ++ f.message)
  | _ => Failure.ofText start

/-- Lets the call proceed where that is possible. -/
def proceedHere : Site → Around Scene (Except Failure (Option Value))
  | .around => Around.tryProceed
  | _ => pure (.ok none)

/-- Goes on after a call. -/
def settleCall (guarded : Bool) : Except Failure (Option Value) → Around Scene Progress
  | .ok value => pure (.next value)
  | .error f =>
    if guarded then do
      note ("caught: " ++ f.message)
      pure (.next none)
    else Around.fail f

/-- Registers an aspect with the weaver and traces what came of it. -/
def registerHere (aspect : Aspect Code) : Around Scene Unit := do
  let registered ← look fun (_, w) => w.state.weaver.registerAspect aspect
  let (weaver, outcome) := registered.value
  change fun (jp, w) => (jp, (w.record registered.events).update (Stage.withWeaver weaver))
  match outcome with
  | .ok bound => note ("bound " ++ toString bound)
  | .error e => note ("rejected: " ++ e.message)

mutual

/-- Runs one step. -/
def Step.run (call : NestedCall) (site : Site) (last : Option Value) : Step → Around Scene Progress
  | .log line => do note line; pure (.next last)
  | .display e => do note (shown (← e.eval site last)); pure (.next last)
  | .ret e => do pure (.ended (← e.eval site last))
  | .fail f => Around.fail f
  | .failUntil count f => do
    match ← countersHere with
    | some c => if c.calls.toInt ≤ count then Around.fail f else pure (.next last)
    | none => pure (.next last)
  | .whileCallsBelow count steps => do
    match ← countersHere with
    | some c => if c.calls.toInt < count then runSteps call site last steps else pure (.next last)
    | none => pure (.next last)
  | .addState n => do
    let target ← look fun (jp, _) => jp.target
    changeStage (Stage.count target fun c => { c with state := c.state + n })
    pure (.next last)
  | .sleep milliseconds => do
    change fun (jp, w) => (jp, w.wait milliseconds)
    pure (.next last)
  | .setResult e => do
    let value ← e.eval site last
    changeJoinPoint site fun jp => jp.setResult value
    pure (.next last)
  | .setParam name e => do
    match ← e.eval site last with
    | some value => changeJoinPoint site fun jp => jp.setParam name value
    | none => pure ()
    pure (.next last)
  | .setArg index e => do
    replaceArgument site index (← e.eval site last)
    pure (.next last)
  | .pushArg e => do
    match ← e.eval site last with
    | some value => changeJoinPoint site fun jp => { jp with args := jp.args ++ [value] }
    | none => pure ()
    pure (.next last)
  | .popArg => do
    changeJoinPoint site fun jp => { jp with args := jp.args.dropLast }
    pure (.next last)
  | .clearArgs => do
    changeJoinPoint site fun jp => { jp with args := [] }
    pure (.next last)
  | .showArgs => do
    let args ← look fun (jp, _) => jp.args
    note ("[" ++ " ".intercalate (args.map fun v => shown (some v)) ++ "]")
    pure (.next last)
  | .showCall => do
    let line ← look fun (jp, _) => callLine jp
    match site with
    | .body => pure ()
    | _ => note line
    pure (.next last)
  | .describe => do
    note (← look fun (jp, _) => descriptionLine site jp)
    pure (.next last)
  | .showFailure => do note (failureLine site); pure (.next last)
  | .rethrow start => Around.fail (rethrown start site)
  | .proceed guarded => do settleCall guarded (← proceedHere site)
  | .invoke guarded instanceName method params args => do
    let values ← evalAll site last args
    let step := Action.onSecond (call instanceName method params (values.filterMap id))
    settleCall guarded (← Around.ofAction step.attempt)
  | .register aspect => do registerHere aspect; pure (.next last)

/-- Runs steps one after the other, until one ends the script. -/
def runSteps (call : NestedCall) (site : Site) (last : Option Value) :
    List Step → Around Scene Progress
  | [] => pure (.next last)
  | s :: rest => do
    match ← s.run call site last with
    | .next last => runSteps call site last rest
    | .ended result => pure (.ended result)

end

/-- Runs a script and gives its result; a script that does not say has none. -/
def runScript (call : NestedCall) (site : Site) (steps : List Step) :
    Around Scene (Option Value) := do
  match ← runSteps call site none steps with
  | .next _ => pure none
  | .ended result => pure result

end AspectWeaver.Script

import AspectWeaver.Aspect
import AspectWeaver.Failure
import AspectWeaver.Value

/-!
# Scripts

A small language in which methods, advices and interceptors can be written down as data. A script is a
list of steps over expressions; beside scripts, `Code` has the stock interceptors and the methods of
the sample inventory, which are ready made.
-/

set_option autoImplicit false

namespace AspectWeaver.Script

/-- Something that has a value, or none, where a script runs. -/
inductive Expr where
  | constant (value : Option Value)
  | typedArg (index : Nat) (type : ValueType)
  /-- The argument at a position, whatever its type. -/
  | anyArg (index : Nat)
  | argCount
  /-- The register of the script. -/
  | last
  | result
  | resultAs (type : ValueType)
  /-- The result of the join point, which is taken away. -/
  | takeResult
  | param (name : String)
  | paramAs (name : String) (type : ValueType)
  /-- How often bodies have run on the target. -/
  | calls
  /-- The number that the target keeps. -/
  | state
  | targetIs (typeName : String)
  /-- The sum of the 32-bit integers among some values. -/
  | sum (parts : List Expr)
  /-- The written forms of some values, one after the other. -/
  | concat (parts : List Expr)
deriving Inhabited, Repr

inductive StockInterceptor where
  | double
  /-- Answers without the method. -/
  | shortCircuit
  | audit
  /-- Answers with the number of its own calls. -/
  | counter
  | retry
  /-- Turns a failure into a result. -/
  | swallow
  /-- Adds one to every 32-bit integer argument. -/
  | increment
  /-- Fails at once. -/
  | failFast
deriving DecidableEq, Inhabited, Repr

inductive SampleCode where
  | greet
  | plain
  /-- The argument and a hundred more. -/
  | quote
  | free
  /-- An advice that turns the text of the result into capitals. -/
  | shout
deriving DecidableEq, Inhabited, Repr

mutual

/-- One step of a script. -/
inductive Step where
  | log (line : String)
  | display (e : Expr)
  /-- Ends the script with a value. -/
  | ret (e : Expr)
  | fail (f : Failure)
  /-- Fails as long as bodies have run no more than so often on the target. -/
  | failUntil (count : Int) (f : Failure)
  /-- Runs steps only while bodies have run less often than so on the target. -/
  | whileCallsBelow (count : Int) (steps : List Step)
  | addState (n : Int64)
  | sleep (milliseconds : Nat)
  | setResult (e : Expr)
  | setParam (name : String) (e : Expr)
  | setArg (index : Nat) (e : Expr)
  | pushArg (e : Expr)
  | popArg
  | clearArgs
  | showArgs
  | showCall
  /-- Traces how the join point is described. -/
  | describe
  /-- Traces the failure that the advice is told. -/
  | showFailure
  /-- Fails with the message of the failure that the advice is told. -/
  | rethrow (start : String)
  /-- Lets the call proceed; a failure ends the script, or is only traced if `guarded`. -/
  | proceed (guarded : Bool)
  /-- Calls a woven instance; a failure ends the script, or is only traced if `guarded`. -/
  | invoke (guarded : Bool) (instanceName method : String) (params : List String) (args : List Expr)
  | register (aspect : Aspect Code)

/-- What a method, an advice or an interceptor does. -/
inductive Code where
  | script (steps : List Step)
  | stock (interceptor : StockInterceptor)
  | sample (code : SampleCode)

end

instance : Inhabited Code := ⟨.script []⟩

instance : Inhabited Step := ⟨.log ""⟩

/-- A value as it is shown in traces. -/
def shown : Option Value → String
  | none => "none"
  | some (.int32 n) => "i32:" ++ toString n.toInt
  | some (.int64 n) => "i64:" ++ toString n.toInt
  | some (.word32 n) => "u32:" ++ toString n.toNat
  | some (.word64 n) => "u64:" ++ toString n.toNat
  | some (.bool b) => "bool:" ++ Text.truth b
  | some (.text s) => "str:" ++ s
  | some .unit => "unit:true"

end AspectWeaver.Script

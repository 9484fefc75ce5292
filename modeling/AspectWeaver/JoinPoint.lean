import AspectWeaver.Table
import AspectWeaver.TypeDescriptor
import AspectWeaver.Value

/-!
# Join points

What the advices of one call share: the target, the method, the arguments, the result so far, and
notes under names that they leave for each other. A join point is made when a call is intercepted and
belongs to that call alone.
-/

set_option autoImplicit false

namespace AspectWeaver

/-- One intercepted call. -/
structure JoinPoint where
  target : Target
  method : MethodDescriptor
  args : List Value
  /-- The result so far; none before one has been set. -/
  result : Option Value
  /-- The notes; there is no table before the first note. -/
  params : Option (Table String Value)
  /-- The time at which the call was intercepted, in milliseconds. -/
  startedAt : Nat
deriving Inhabited

namespace JoinPoint

/-- The join point of a call that starts now. -/
def start (target : Target) (method : MethodDescriptor) (args : List Value) (now : Nat) : JoinPoint :=
  ⟨target, method, args, none, none, now⟩

def signature (jp : JoinPoint) : Signature := jp.method.signature

/-- The argument at a position, if it is there and has the given type. -/
def arg? (jp : JoinPoint) (t : ValueType) (index : Nat) : Option Value :=
  (jp.args[index]?).bind (Value.as? t)

/-- The result, if there is one of the given type. -/
def resultAs? (jp : JoinPoint) (t : ValueType) : Option Value := jp.result.bind (Value.as? t)

def setResult (jp : JoinPoint) (result : Option Value) : JoinPoint := { jp with result := result }

def param? (jp : JoinPoint) (name : String) : Option Value := jp.params.bind (·.get? name)

/-- The note of a given name, if it has the given type. -/
def paramAs? (jp : JoinPoint) (t : ValueType) (name : String) : Option Value :=
  (jp.param? name).bind (Value.as? t)

def setParam (jp : JoinPoint) (name : String) (value : Value) : JoinPoint :=
  { jp with params := some ((jp.params.getD Table.empty).insert name value) }

/-- How a join point is described. -/
def describe (jp : JoinPoint) : String :=
  Text.record "JoinPoint"
    [("signature", jp.signature.describe), ("args", toString jp.args.length),
      ("has_result", Text.truth jp.result.isSome),
      ("params", Text.optional (jp.params.map fun t => Text.listed (t.keys.map Text.quoted)))]

/-- How a join point is described to those that may let the call proceed. -/
def describeProceeding (jp : JoinPoint) : String :=
  Text.record "ProceedJoinPoint" [("join_point", jp.describe)]

/-- A note is read back under its name, and no other note changes. -/
@[simp] theorem param?_setParam (jp : JoinPoint) (name name' : String) (value : Value) :
    (jp.setParam name value).param? name' = if name = name' then some value else jp.param? name' := by
  cases h : jp.params <;> simp [setParam, param?, h]

end JoinPoint

end AspectWeaver

import AspectWeaver.Advice.Set
import AspectWeaver.Pointcut

/-!
# The advice registry

The advices bound to each signature, and the names of the types that have a bound method. Binding an
advice once more adds it once more.
-/

set_option autoImplicit false

namespace AspectWeaver

/-- The advices bound so far. -/
structure AdviceRegistry (β : Type) where
  sets : Table Signature (AdviceSet β)
  /-- The types with a bound method, in the order in which they came. -/
  wovenTypes : List String
deriving Inhabited

namespace AdviceRegistry

variable {β : Type}

/-- The registry without advices. -/
def empty : AdviceRegistry β := ⟨Table.empty, []⟩

/-- Adds an advice to the set of one selected method. -/
def bindOne (advice : Advice β) (r : AdviceRegistry β) (matched : MatchedMethod β) :
    Logged (AdviceRegistry β) := do
  let signature := matched.method.signature
  let set := ((r.sets.get? signature).getD AdviceSet.empty).push advice
  Logged.tell .debug "Bound advice"
    [("signature", .text signature.text), ("advice", .text advice.name),
      ("kind", .text advice.kind.name), ("order", .number advice.order)]
  let typeName := matched.declaringType.name
  let wovenTypes := if r.wovenTypes.contains typeName then r.wovenTypes else r.wovenTypes ++ [typeName]
  pure ⟨r.sets.insert signature set, wovenTypes⟩

/-- Binds an advice to every selected method; the number of bindings is the number of methods. -/
def bind (r : AdviceRegistry β) (methods : List (MatchedMethod β)) (advice : Advice β) :
    Logged (AdviceRegistry β) :=
  methods.foldlM (bindOne advice) r

/-- The advices bound to a signature. -/
def adviceSet? (r : AdviceRegistry β) (signature : Signature) : Option (AdviceSet β) :=
  r.sets.get? signature

/-- Whether a type has a bound method. -/
def needsWeaving (r : AdviceRegistry β) (typeName : String) : Bool := r.wovenTypes.contains typeName

/-- The number of signatures with advices. -/
def size (r : AdviceRegistry β) : Nat := r.sets.size

/-- Whether no advice is bound. -/
def isEmpty (r : AdviceRegistry β) : Bool := r.size == 0

end AdviceRegistry

end AspectWeaver

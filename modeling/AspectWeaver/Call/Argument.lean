import AspectWeaver.Failure
import AspectWeaver.Value

/-!
# Arguments

How a method gets at its arguments: by position, insisting on a type.
-/

set_option autoImplicit false

namespace AspectWeaver

/-- The argument at a position; a method that insists on its type fails if it is missing or of another
type. -/
def argument (type : ValueType) (args : List Value) (index : Nat) : Except Failure Value :=
  match (args[index]?).bind (Value.as? type) with
  | some value => .ok value
  | none => .error (Failure.ofWeave (.argumentMismatch index type.name))

/-- An argument is given exactly when it is there and has the type. -/
theorem argument_eq_ok_iff (type : ValueType) (args : List Value) (index : Nat) (value : Value) :
    argument type args index = .ok value ↔ args[index]? = some value ∧ value.type = type := by
  cases h : args[index]? with
  | none => simp [argument, h]
  | some v =>
    by_cases ht : v.type = type
    · simp [argument, h, Value.as?, ht]
      rintro rfl
      exact ht
    · simp only [argument, h, Value.as?, ht, Option.bind_some, if_false, Option.some.injEq, reduceCtorEq,
        false_iff, not_and]
      rintro rfl
      exact ht

end AspectWeaver

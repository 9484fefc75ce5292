/-!
# Errors of the weaver

The causes for which the weaver itself refuses to do something, and the one place where their wording
is written. Errors of woven methods and advices are `Failure`s, which may carry a `WeaveError`.
-/

set_option autoImplicit false

namespace AspectWeaver

/-- Why the weaver refuses. -/
inductive WeaveError where
  /-- A selector does not have the form of one. -/
  | malformedSelector (selector reason : String)
  /-- No type of this name is registered. -/
  | typeNotFound (name : String)
  /-- The type is not concrete, so it has no objects. -/
  | typeNotInstantiable (name : String)
  /-- The type has no method of this signature. -/
  | methodNotFound (typeName signature : String)
  /-- The target of a call is not an object of the type that the method belongs to. -/
  | targetTypeMismatch (expected signature : String)
  /-- An argument is missing or of another type. -/
  | argumentMismatch (index : Nat) (expected : String)
  /-- The configuration cannot be read. -/
  | config (text : String)
  /-- Logging cannot be set up. -/
  | loggingInit (text : String)
deriving DecidableEq, Inhabited, Repr

/-- The wording of an error. -/
def WeaveError.message : WeaveError → String
  | .malformedSelector selector reason => "Malformed selector '" ++ selector ++ "': " ++ reason
  | .typeNotFound name => "Type not found: " ++ name
  | .typeNotInstantiable name => "Type '" ++ name ++ "' cannot be instantiated"
  | .methodNotFound typeName signature =>
    "Method '" ++ signature ++ "' not found on type '" ++ typeName ++ "'"
  | .targetTypeMismatch expected signature =>
    "Target of '" ++ signature ++ "' is not a '" ++ expected ++ "'"
  | .argumentMismatch index expected =>
    "Argument #" ++ toString index ++ " is missing or not a '" ++ expected ++ "'"
  | .config text => "Configuration error: " ++ text
  | .loggingInit text => "Failed to initialize logging: " ++ text

end AspectWeaver

import AspectWeaver.Failure

/-!
# Error reports

A failure as advices and log lines see it: the message, the name of the kind of error, and the
messages of the causes below. A report is made from a failure (`ofFailure`), from an error with its own
causes (`ofError`, which walks from cause to cause), or from a message alone (`simple`).
-/

set_option autoImplicit false

namespace AspectWeaver

/-- A failure laid out for reading. -/
structure ErrorInfo where
  message : String
  errorType : String
  /-- The messages of the causes, outermost first, without `message` itself. -/
  sourceChain : List String
deriving DecidableEq, Inhabited, Repr

namespace ErrorInfo

/-- The name under which a report shows a refusal of the weaver. -/
def weaveErrorType : String := "tapestry_core::error::WeaveError"

/-- The name under which a report shows any other failure. -/
def otherErrorType : String := "anyhow::Error"

/-- The messages met on the walk from an error to its cause, from there to the next, and so on.
A layered error has as many steps below it as it has causes, so `steps` bounds the walk. -/
def walk : Nat → CausedError → List String
  | 0, _ => []
  | steps + 1, error =>
    match error.source? with
    | none => []
    | some cause => cause.message :: walk steps cause

/-- How many steps the walk below an error can take. -/
def depth : CausedError → Nat
  | .weave _ => 0
  | .layered _ _ causes _ => causes.length + 1

/-- The name of the type of an error. -/
def typeOf : CausedError → String
  | .weave _ => weaveErrorType
  | .layered typeName _ _ _ => typeName

/-- The report of an error, made by walking down its causes. -/
def ofError (error : CausedError) : ErrorInfo :=
  ⟨error.message, typeOf error, walk (depth error) error⟩

/-- The report of a failure; its kind is told by the refusal that it carries, if any. -/
def ofFailure (f : Failure) : ErrorInfo :=
  ⟨f.message, if f.weaveError?.isSome then weaveErrorType else otherErrorType, f.sources⟩

/-- The report of a bare message. -/
def simple (message : String) : ErrorInfo := ⟨message, "Unknown", []⟩

/-- The message, followed by one indented line for every cause. -/
def fullDescription (info : ErrorInfo) : String :=
  if info.sourceChain.isEmpty then info.message
  else info.message ++ "\nCaused by:\n  " ++ "\n  ".intercalate info.sourceChain

/-- The kind in brackets, then the message. -/
def display (info : ErrorInfo) : String := "[" ++ info.errorType ++ "] " ++ info.message

end ErrorInfo

end AspectWeaver

import AspectWeaver.Advice.Basic

/-!
# Aspects

An aspect is a name and a list of declarations, each a selector with an advice for the methods that it
selects. An advice is named after its aspect, its kind and its place in the aspect. Three aspects come
with the library: they write log lines and leave calls as they are.
-/

set_option autoImplicit false

namespace AspectWeaver

/-- One declaration of an aspect. -/
structure Declaration (β : Type) where
  selector : String
  advice : Advice β
deriving Inhabited, Repr

/-- A named list of declarations. -/
structure Aspect (β : Type) where
  name : String
  declarations : List (Declaration β)
deriving Inhabited, Repr

namespace Aspect

variable {β : Type}

/-- The aspect without declarations. -/
def empty (name : String) : Aspect β := ⟨name, []⟩

/-- The name of the advice at a place in an aspect. -/
def adviceName (aspect : String) (kind : AdviceKind) (index : Nat) : String :=
  aspect ++ "::" ++ kind.name ++ "#" ++ toString index

/-- Adds a declaration at the end. -/
def declare (a : Aspect β) (kind : AdviceKind) (selector : String) (order : Int)
    (body : AdviceBody β) : Aspect β :=
  let name := adviceName a.name kind a.declarations.length
  { a with declarations := a.declarations ++ [⟨selector, ⟨name, order, kind, body⟩⟩] }

/-- The number of declarations. -/
def size (a : Aspect β) : Nat := a.declarations.length

/-- Logs when the selected methods are entered and left. -/
def logging (selector : String) (order : Int) (withArgs : Bool) : Aspect β :=
  ((empty "LoggingAspect").declare .before selector order (.logEntering withArgs)).declare
    .after selector order .logExiting

/-- The smallest order number: the first to run when calls are left. -/
def lowestOrder : Int := -2147483648

/-- Warns about calls of the selected methods that take more than so many milliseconds. -/
def performance (threshold : Nat) (selector : String) : Aspect β :=
  (empty "PerformanceAspect").declare .after selector lowestOrder (.warnSlow threshold)

/-- Logs the failures of the selected methods, which end there. -/
def errorLogging (selector : String) : Aspect β :=
  (empty "ErrorLoggingAspect").declare .afterThrowing selector 0 .logFailure

end Aspect

end AspectWeaver

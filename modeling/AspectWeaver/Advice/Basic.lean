import AspectWeaver.Text.Quoted

/-!
# Advices

An advice is something to do at a call: its kind says when, its order number says before or after
which other advices of the same kind. What it does is either given code, or one of the observations
that the library itself offers.
-/

set_option autoImplicit false

namespace AspectWeaver

/-- When an advice runs. -/
inductive AdviceKind where
  | before
  | after
  /-- In place of the method, which it may let proceed. -/
  | around
  | afterReturning
  | afterThrowing
deriving DecidableEq, Inhabited, Repr

def AdviceKind.name : AdviceKind → String
  | .before => "before"
  | .after => "after"
  | .around => "around"
  | .afterReturning => "afterReturning"
  | .afterThrowing => "afterThrowing"

/-- The name of a kind in descriptions. -/
def AdviceKind.label : AdviceKind → String
  | .before => "Before"
  | .after => "After"
  | .around => "Around"
  | .afterReturning => "AfterReturning"
  | .afterThrowing => "AfterThrowing"

/-- What an advice does. -/
inductive AdviceBody (β : Type) where
  /-- Runs code. -/
  | custom (code : β)
  /-- Logs that the call is entered, perhaps with the number of arguments. -/
  | logEntering (withArgs : Bool)
  /-- Logs that the call is left. -/
  | logExiting
  /-- Warns when more than so many milliseconds have passed since the call was entered. -/
  | warnSlow (threshold : Nat)
  /-- Logs the failure of the method. -/
  | logFailure
deriving Inhabited, Repr

/-- An advice with its name and order number. -/
structure Advice (β : Type) where
  name : String
  order : Int
  kind : AdviceKind
  body : AdviceBody β
deriving Inhabited, Repr

/-- How an advice is described. -/
def Advice.describe {β : Type} (a : Advice β) : String :=
  Text.record "Advice"
    [("name", Text.quoted a.name), ("kind", a.kind.label), ("order", toString a.order)]

end AspectWeaver

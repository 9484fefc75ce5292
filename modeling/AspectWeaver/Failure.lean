import AspectWeaver.Error

/-!
# Failures

What a method or an advice fails with. A failure has a root (a plain message, a refusal of the weaver,
or an error with causes of its own) and any number of contexts wrapped around it. `links` is the
whole story, outermost text first: the contexts, then the root, then the root's causes. A failure
carries a `WeaveError` when its root or a context is one; an error that is merely a cause of the root
does not count (`weaveError?`).
-/

set_option autoImplicit false

namespace AspectWeaver

/-- An error that has its own chain of causes, outermost first. -/
inductive CausedError where
  /-- A refusal of the weaver, which has no cause. -/
  | weave (error : WeaveError)
  /-- An error of the type `typeName` with the message `message`. Below it lie causes of the same type
  with the messages `causes`, and below the last of them perhaps a refusal of the weaver. -/
  | layered (typeName message : String) (causes : List String) (bottom : Option WeaveError)
deriving DecidableEq, Inhabited, Repr

namespace CausedError

def message : CausedError → String
  | .weave error => error.message
  | .layered _ message _ _ => message

def causes : CausedError → List String
  | .weave _ => []
  | .layered _ _ causes bottom => causes ++ (bottom.map WeaveError.message).toList

/-- The cause directly below an error, if there is one. -/
def source? : CausedError → Option CausedError
  | .weave _ => none
  | .layered _ _ [] bottom => bottom.map .weave
  | .layered typeName _ (cause :: rest) bottom => some (.layered typeName cause rest bottom)

end CausedError

/-- Where a failure started. -/
inductive FailureRoot where
  | text (message : String)
  | caused (error : CausedError)
deriving DecidableEq, Inhabited, Repr

/-- What has been wrapped around a failure on its way out. -/
inductive FailureContext where
  | text (message : String)
  | weave (error : WeaveError)
deriving DecidableEq, Inhabited, Repr

def FailureContext.message : FailureContext → String
  | .text message => message
  | .weave error => error.message

/-- The refusal of the weaver that a context is, if it is one. -/
def FailureContext.weaveError? : FailureContext → Option WeaveError
  | .text _ => none
  | .weave error => some error

/-- The messages of a root and of its causes, outermost first. -/
def FailureRoot.messages : FailureRoot → List String
  | .text message => [message]
  | .caused error => error.message :: error.causes

/-- The refusal of the weaver that a root is, if it is one. -/
def FailureRoot.weaveError? : FailureRoot → Option WeaveError
  | .caused (.weave error) => some error
  | _ => none

/-- What a method, an advice or an interceptor fails with. -/
structure Failure where
  /-- The contexts around the root, outermost first. -/
  contexts : List FailureContext
  root : FailureRoot
deriving DecidableEq, Inhabited, Repr

namespace Failure

def ofText (message : String) : Failure := ⟨[], .text message⟩

/-- A failure that is a refusal of the weaver. -/
def ofWeave (error : WeaveError) : Failure := ⟨[], .caused (.weave error)⟩

/-- A failure that is an error with its own causes. -/
def ofError (error : CausedError) : Failure := ⟨[], .caused error⟩

/-- A failure with one more context around it. -/
def wrap (context : FailureContext) (f : Failure) : Failure := ⟨context :: f.contexts, f.root⟩

/-- All messages of a failure, outermost first; there is always one. -/
def links (f : Failure) : List String := f.contexts.map FailureContext.message ++ f.root.messages

def message (f : Failure) : String := f.links.headD ""

/-- The messages below the outermost one, in order. -/
def sources (f : Failure) : List String := f.links.drop 1

def oneLine (f : Failure) : String := ": ".intercalate f.links

/-- The refusal of the weaver that a failure carries: the outermost context that is one, or else the
root. -/
def weaveError? (f : Failure) : Option WeaveError :=
  (f.contexts.findSome? FailureContext.weaveError?).or f.root.weaveError?

/-- A failure has at least the message of its root. -/
theorem links_ne_nil (f : Failure) : f.links ≠ [] := by
  cases f with
  | mk contexts root => cases root <;> simp [links, FailureRoot.messages]

/-- The outermost message and the messages below it are all messages. -/
theorem message_cons_sources (f : Failure) : f.message :: f.sources = f.links := by
  cases h : f.links with
  | nil => exact absurd h f.links_ne_nil
  | cons m ms => simp [message, sources, h]

/-- A failure made from a text shows this text. -/
@[simp] theorem message_ofText (m : String) : (ofText m).message = m := rfl

/-- A failure made from an error of the library is recognised as this error. -/
@[simp] theorem weaveError?_ofWeave (e : WeaveError) : (ofWeave e).weaveError? = some e := rfl

end Failure

end AspectWeaver

import AspectWeaver.Call.Dispatch
import AspectWeaver.Weaver

/-!
# Woven instances

An object behind a weaver: calls on it are dispatched in the way in which its type was woven when the
instance was made. The bindings are those of the moment of the call, so that advices registered later
run too; the methods are those of the type at the time when the instance was made.
-/

set_option autoImplicit false

namespace AspectWeaver

variable {β τ : Type}

/-- Handles a call of a method with the bindings of the moment. -/
def Dispatcher.dispatch (b : Behaviours β τ) (bindings : Bindings β) (d : Dispatcher) (target : Target)
    (m : Method β) (args : List Value) : Action (World τ) (Option Value) :=
  match d with
  | .advices => bindings.advices.dispatch b target m args
  | .interceptors => bindings.interceptors.dispatch b target m args

/-- An object whose calls are dispatched. -/
structure WovenInstance (β : Type) where
  descriptor : TypeDescriptor β
  target : Target
  dispatcher : Dispatcher
deriving Inhabited

namespace WovenInstance

/-- Calls the method of a signature. -/
def invokeSignature (b : Behaviours β τ) (bindings : Bindings β) (i : WovenInstance β)
    (signature : Signature) (args : List Value) : Action (World τ) (Option Value) :=
  match i.descriptor.methodBySignature? signature with
  | none => throw (Failure.ofWeave (.methodNotFound i.descriptor.name signature.text))
  | some m => i.dispatcher.dispatch b bindings i.target m args

/-- Calls the method of a name with parameter types. -/
def invoke (b : Behaviours β τ) (bindings : Bindings β) (i : WovenInstance β) (name : String)
    (params : List String) (args : List Value) : Action (World τ) (Option Value) :=
  i.invokeSignature b bindings (Signature.make i.descriptor.name name params) args

/-- How a woven instance is described. -/
def describe (i : WovenInstance β) : String :=
  Text.record "WovenInstance" [("type", Text.quoted i.descriptor.name)]

end WovenInstance

/-- Makes an object of a type. -/
def World.newTarget (typeName : String) (w : World τ) : Target × World τ :=
  (⟨typeName, w.objects⟩, { w with objects := w.objects + 1 })

/-- Makes an object of a concrete type; other types have none. -/
def TypeDescriptor.instantiate (t : TypeDescriptor β) (w : World τ) :
    Except WeaveError Target × World τ :=
  match t.kind with
  | .concrete => let (target, after) := w.newTarget t.targetType; (.ok target, after)
  | _ => (.error (.typeNotInstantiable t.name), w)

/-- Weaves an object. -/
def Registration.weave (r : Registration β) (target : Target) : WovenInstance β :=
  ⟨r.descriptor, target, r.dispatcher⟩

/-- Makes an object and weaves it. -/
def Registration.create (r : Registration β) (w : World τ) :
    Except WeaveError (WovenInstance β) × World τ :=
  let (target, after) := r.descriptor.instantiate w
  (target.map r.weave, after)

namespace Weaver

/-- Makes a woven object of a type; types that are not woven give none. -/
def createWovenInstance (weaver : Weaver β) (typeName : String) (w : World τ) :
    Except WeaveError (Option (WovenInstance β)) × World τ :=
  match weaver.registration? typeName with
  | none => (.ok none, w)
  | some r => let (made, after) := r.create w; (made.map some, after)

/-- A woven type gives an instance with the methods and the dispatcher of its registration, if it is
concrete. -/
theorem createWovenInstance_of_registration {weaver : Weaver β} {typeName : String} {r : Registration β}
    (h : weaver.registration? typeName = some r) (w : World τ) :
    (weaver.createWovenInstance typeName w).1 =
      if r.descriptor.isConcrete then .ok (some (r.weave ⟨r.descriptor.targetType, w.objects⟩))
      else .error (.typeNotInstantiable r.descriptor.name) := by
  unfold createWovenInstance
  rw [h]
  dsimp only
  unfold Registration.create TypeDescriptor.instantiate TypeDescriptor.isConcrete
  cases r.descriptor.kind <;> rfl

/-- Weaves an object that is there; types that are not woven give none. -/
def weaveInstance (weaver : Weaver β) (typeName : String) (target : Target) :
    Option (WovenInstance β) :=
  (weaver.registration? typeName).map fun r => r.weave target

end Weaver

end AspectWeaver

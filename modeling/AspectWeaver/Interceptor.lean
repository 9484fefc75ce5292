import AspectWeaver.Table
import AspectWeaver.TypeDescriptor

/-!
# Interceptors

A registry makes one interceptor for each kind of interceptor, when it is first needed, and keeps it. The
kind is that of the type of the interceptor, whatever the name of the type. A method is bound to the one
interceptor of its kind; binding it again replaces the binding.
-/

set_option autoImplicit false

namespace AspectWeaver

/-- An interceptor that was made. -/
structure Interceptor (β : Type) where
  /-- The registry that made it. -/
  registry : String
  /-- How many interceptors this registry had made before. -/
  number : Nat
  /-- The marker that it was made from. -/
  marker : InterceptorMarker β
deriving Inhabited, Repr

/-- Two interceptors are one and the same. -/
def Interceptor.same {β : Type} (a b : Interceptor β) : Bool :=
  a.registry = b.registry && a.number = b.number

/-- The interceptors made so far, and the methods bound to them. -/
structure InterceptorRegistry (β : Type) where
  /-- A name that tells this registry from others. -/
  name : String
  /-- How many interceptors the registry has made. -/
  made : Nat
  /-- The interceptor of each kind, in the order in which they were made. -/
  singletons : Table TypeId (Interceptor β)
  /-- The interceptor that each signature is bound to. -/
  bindings : Table Signature (Interceptor β)
deriving Inhabited

namespace InterceptorRegistry

variable {β : Type}

def empty (name : String) : InterceptorRegistry β := ⟨name, 0, Table.empty, Table.empty⟩

/-- The interceptor of a kind, which is made if it is not there. -/
def fetch (r : InterceptorRegistry β) (marker : InterceptorMarker β) :
    Logged (InterceptorRegistry β × Interceptor β) :=
  match r.singletons.get? marker.typeId with
  | some interceptor => pure (r, interceptor)
  | none => do
    Logged.tell .debug "Created interceptor singleton" [("interceptor", .text marker.typeName)]
    let interceptor := ⟨r.name, r.made, marker⟩
    let singletons := r.singletons.insert marker.typeId interceptor
    pure ({ r with made := r.made + 1, singletons := singletons }, interceptor)

/-- Binds a method to the interceptor of a kind. -/
def bind (r : InterceptorRegistry β) (signature : Signature) (marker : InterceptorMarker β) :
    Logged (InterceptorRegistry β) := do
  let (r, interceptor) ← r.fetch marker
  Logged.tell .debug "Bound interceptor"
    [("signature", .text signature.text), ("interceptor", .text marker.typeName)]
  pure { r with bindings := r.bindings.insert signature interceptor }

def binding? (r : InterceptorRegistry β) (signature : Signature) : Option (Interceptor β) :=
  r.bindings.get? signature

def singletonCount (r : InterceptorRegistry β) : Nat := r.singletons.size

end InterceptorRegistry

end AspectWeaver

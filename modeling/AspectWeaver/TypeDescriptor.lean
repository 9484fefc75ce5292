import AspectWeaver.Event
import AspectWeaver.Signature
import AspectWeaver.Text.Quoted
import AspectWeaver.Text.Segments

/-!
# Types and their methods

A type that can be woven publishes its methods. The table of a type is built step by step: a
constructor for the kind of type, then one call for every method, each perhaps followed by the
interceptor that is to handle it. What a method or an interceptor does is a piece of `code` of any type
`β`; the library never looks inside.
-/

set_option autoImplicit false

namespace AspectWeaver

/-- An object that methods are called on: the name of its type, and which object of all it is. -/
structure Target where
  typeName : String
  id : Nat
deriving DecidableEq, Inhabited, Repr

/-- The name of the type of the value without content, which every abstract type and every interface
has as the type of its targets. -/
def unitTypeName : String := "()"

/-- What tells a type from all others; its name does not, as there may be others of the same name. -/
structure TypeId where
  token : String
deriving DecidableEq, Inhabited, Repr

/-- A type of interceptors. -/
structure InterceptorType where
  id : TypeId
  name : String
deriving DecidableEq, Inhabited, Repr

/-- The type of a name that no other type has. -/
def InterceptorType.named (name : String) : InterceptorType := ⟨⟨name⟩, name⟩

instance : Coe String InterceptorType := ⟨InterceptorType.named⟩

/-- A kind of interceptor, as it stands in the method table. Two markers of the same type belong to the
same kind of interceptor. -/
structure InterceptorMarker (β : Type) where
  type : InterceptorType
  /-- The name that an interceptor of this kind gives itself. -/
  name : String
  code : β
deriving Inhabited, Repr

namespace InterceptorMarker

variable {β : Type}

def typeId (marker : InterceptorMarker β) : TypeId := marker.type.id

def typeName (marker : InterceptorMarker β) : String := marker.type.name

/-- How a marker is described. -/
def describe (marker : InterceptorMarker β) : String := Text.tagged "InterceptorMarker" marker.typeName

end InterceptorMarker

/-- What stands behind a method. -/
inductive MethodBody (β : Type) where
  /-- Code for targets of the type `expected`. -/
  | typed (expected : String) (code : β)
  /-- Nothing, as in an interface. -/
  | missing
deriving Inhabited, Repr

/-- One entry of a method table. -/
structure Method (β : Type) where
  descriptor : MethodDescriptor
  body : MethodBody β
  interceptor : Option (InterceptorMarker β)
deriving Inhabited, Repr

namespace Method

variable {β : Type}

def signature (m : Method β) : Signature := m.descriptor.signature

/-- How a method is described. -/
def describe (m : Method β) : String :=
  Text.record "MethodHandle"
    [("signature", m.signature.describe),
      ("interceptor", Text.optional (m.interceptor.map fun marker => Text.quoted marker.typeName))]

end Method

/-- The kinds of types; only concrete ones have objects. -/
inductive TypeKind where
  | concrete
  | abstractType
  | interface
deriving DecidableEq, Inhabited, Repr

def TypeKind.name : TypeKind → String
  | .concrete => "Concrete"
  | .abstractType => "Abstract"
  | .interface => "Interface"

/-- A type with its method table. -/
structure TypeDescriptor (β : Type) where
  name : String
  kind : TypeKind
  /-- The name of the type that the objects of this type have. -/
  targetType : String
  methods : List (Method β)
deriving Inhabited, Repr

namespace TypeDescriptor

variable {β : Type}

/-- A concrete type, still without methods, whose objects have the type `targetType`. -/
def concrete (name targetType : String) : TypeDescriptor β := ⟨name, .concrete, targetType, []⟩

/-- An abstract type, still without methods. -/
def abstractType (name : String) : TypeDescriptor β := ⟨name, .abstractType, unitTypeName, []⟩

/-- An interface, still without methods. -/
def interface (name : String) : TypeDescriptor β := ⟨name, .interface, unitTypeName, []⟩

/-- Adds an entry at the end of the method table. -/
def add (t : TypeDescriptor β) (name : String) (params : List String) (body : MethodBody β) :
    TypeDescriptor β :=
  { t with methods := t.methods ++ [⟨MethodDescriptor.make t.name name params, body, none⟩] }

/-- Adds a method with its code. -/
def method (t : TypeDescriptor β) (name : String) (params : List String) (code : β) :
    TypeDescriptor β :=
  t.add name params (.typed t.targetType code)

def declare (t : TypeDescriptor β) (name : String) (params : List String) : TypeDescriptor β :=
  t.add name params .missing

/-- Gives the last method to an interceptor. Before any method there is nothing to give, which is
worth a warning. -/
def interceptedBy (t : TypeDescriptor β) (marker : InterceptorMarker β) : Logged (TypeDescriptor β) :=
  match t.methods.getLast? with
  | some last =>
    pure { t with methods := t.methods.dropLast ++ [{ last with interceptor := some marker }] }
  | none => do
    Logged.tell .warn "intercepted_by called before any method was declared"
      [("owner", .text t.name), ("interceptor", .text marker.typeName)]
    pure t

/-- The namespace in which a type lies. -/
def namespaceName (t : TypeDescriptor β) : String := Text.namespaceOf t.name

def isConcrete (t : TypeDescriptor β) : Bool := t.kind = .concrete

/-- The first method of a given signature. -/
def methodBySignature? (t : TypeDescriptor β) (signature : Signature) : Option (Method β) :=
  t.methods.find? fun m => m.signature = signature

/-- The first method of a given name with given parameter types. -/
def method? (t : TypeDescriptor β) (name : String) (params : List String) : Option (Method β) :=
  t.methodBySignature? (Signature.make t.name name params)

/-- How a type is described. -/
def describe (t : TypeDescriptor β) : String :=
  Text.record "TypeDescriptor"
    [("name", Text.quoted t.name), ("kind", t.kind.name), ("methods", toString t.methods.length)]

end TypeDescriptor

end AspectWeaver

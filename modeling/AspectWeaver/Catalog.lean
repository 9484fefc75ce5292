import AspectWeaver.Table
import AspectWeaver.TypeDescriptor

/-!
# The type catalog

The registered types in two indexes, one for each question that selectors ask: every type under its full
name, and for every namespace the types that lie directly in it, in the order in which their names were
first registered. Registering a name again replaces the type in both, where it stands.
-/

set_option autoImplicit false

namespace AspectWeaver

/-- The registered types. -/
structure Catalog (β : Type) where
  byName : Table String (TypeDescriptor β)
  byNamespace : Table String (List (TypeDescriptor β))
deriving Inhabited

namespace Catalog

variable {β : Type}

def empty : Catalog β := ⟨Table.empty, Table.empty⟩

/-- The type of a given name. -/
def resolve? (c : Catalog β) (name : String) : Option (TypeDescriptor β) := c.byName.get? name

/-- The types that lie directly in a namespace, in the order of first registration. -/
def scan (c : Catalog β) (namespaceName : String) : List (TypeDescriptor β) :=
  (c.byNamespace.get? namespaceName).getD []

def contains (c : Catalog β) (name : String) : Bool := c.byName.contains name

def size (c : Catalog β) : Nat := c.byName.size

/-- Puts a type in the place of the one that has its name, or at the end. -/
def place (t : TypeDescriptor β) : List (TypeDescriptor β) → List (TypeDescriptor β)
  | [] => [t]
  | u :: rest => if u.name = t.name then t :: rest else u :: place t rest

/-- Registers a type under its name. -/
def register (c : Catalog β) (t : TypeDescriptor β) : Logged (Catalog β) := do
  Logged.tell .debug "Registered type"
    [("type_name", .text t.name), ("methods", .number t.methods.length),
      ("replaced", .flag (c.contains t.name))]
  pure ⟨c.byName.insert t.name t,
    c.byNamespace.insert t.namespaceName (place t (c.scan t.namespaceName))⟩

end Catalog

end AspectWeaver

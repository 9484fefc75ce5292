import AspectWeaver.Inventory
import AspectWeaver.Script.Behaviours

/-!
# The sample inventory

Two types and an aspect to load: a price list whose quotes an interceptor doubles, and a greeter whose
greetings the aspect turns into capitals.
-/

set_option autoImplicit false

namespace AspectWeaver.Script

/-- The greeter. -/
def greeter (targetType : String) : TypeDescriptor Code :=
  ((TypeDescriptor.concrete "reg.a.Greeter" targetType).method "greet" ["String"]
    (.sample .greet)).method "plain" [] (.sample .plain)

/-- The price list. -/
def pricing (targetType : String) (doubling : InterceptorMarker Code) : TypeDescriptor Code :=
  let quoting := (TypeDescriptor.concrete "reg.b.Pricing" targetType).method "quote" ["i32"]
    (.sample .quote)
  (quoting.interceptedBy doubling).value.method "free" ["i32"] (.sample .free)

/-- The aspect for the greeter. -/
def shouting : Aspect Code :=
  (Aspect.empty "Shouting").declare .around "reg.a.*.greet(...)" 0 (.custom (.sample .shout))

/-- The sample inventory, with the name of the type of its objects and the marker of the interceptor
for the quotes. -/
def sampleInventory (targetType : String) (doubling : InterceptorMarker Code) : Inventory Code where
  types := [("reg.b.Pricing", pricing targetType doubling), ("reg.a.Greeter", greeter targetType)]
  aspects := [("Shouting", shouting)]

end AspectWeaver.Script

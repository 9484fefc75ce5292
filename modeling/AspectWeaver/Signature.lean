import AspectWeaver.Text.Blank

/-!
# Method signatures

A method is known by one text: the name of the type that declares it, its own name, and the names of
its parameter types in order. Two methods are the same exactly when these texts are equal. Blank
characters inside a parameter type do not count.
-/

set_option autoImplicit false

namespace AspectWeaver

/-- The text by which a method is known, such as `a.b.C.foo(int,text)`. -/
structure Signature where
  text : String
deriving DecidableEq, Inhabited, Repr

namespace Signature

/-- The signature of the method `name` that the type `owner` declares with the given parameter types. -/
def make (owner name : String) (params : List String) : Signature :=
  ⟨owner ++ "." ++ name ++ "(" ++ ",".intercalate (params.map Text.compact) ++ ")"⟩

/-- How a signature is shown when a value that holds it is described. -/
def describe (s : Signature) : String := "MethodSignature(" ++ s.text ++ ")"

/-- Signatures in the order of their texts, character by character. -/
def sorted (signatures : List Signature) : List Signature :=
  signatures.mergeSort fun a b => decide (a.text ≤ b.text)

end Signature

/-- A method as its type declares it. -/
structure MethodDescriptor where
  /-- The full name of the declaring type. -/
  owner : String
  name : String
  /-- The parameter types without blank characters. -/
  params : List String
deriving DecidableEq, Inhabited, Repr

namespace MethodDescriptor

/-- The descriptor of a declaration; blank characters in parameter types are dropped. -/
def make (owner name : String) (params : List String) : MethodDescriptor :=
  ⟨owner, name, params.map Text.compact⟩

/-- The signature of the declared method. -/
def signature (m : MethodDescriptor) : Signature := Signature.make m.owner m.name m.params

end MethodDescriptor

end AspectWeaver

import AspectWeaver.Catalog
import AspectWeaver.Pointcut.Locator
import AspectWeaver.Pointcut.Pattern
import AspectWeaver.Pointcut.Selector
import AspectWeaver.Regex.Engine

/-!
# Pointcuts

A pointcut is a selector ready for use: where its types are, what it says about parameters, and the
pattern that the signature of a selected method matches. `compile` makes one from the text of a selector
or says why the text is none; an engine for regular expressions makes the pattern ready, or refuses it, and
matches signatures against it. `select` finds the methods in a catalog: of the candidate types those that
are concrete, and of each of them, in the order of its table, the methods whose signature matches.
-/

set_option autoImplicit false

namespace AspectWeaver

/-- A selector ready for use. -/
structure Pointcut where
  /-- The text that the pointcut was made from. -/
  selector : String
  locator : TypeLocator
  params : ParamSpec
  /-- The name of the type, a dot and the name of the method, with `*` for any characters. -/
  head : List Char
deriving DecidableEq, Inhabited, Repr

/-- A method that a pointcut selects, with the type that declares it. -/
structure MatchedMethod (β : Type) where
  declaringType : TypeDescriptor β
  method : Method β
deriving Inhabited

namespace Pointcut

/-- The pattern of the parameter list in a signature, parentheses included. -/
def paramsPattern : ParamSpec → Pattern
  | .any => .char '(' :: .run :: [.char ')']
  | .empty => [.char '(', .char ')']
  | .exact types => .char '(' :: Pattern.ofLiteral (",".intercalate types).toList ++ [.char ')']

/-- The pattern of the signatures that a pointcut selects. -/
def pattern (p : Pointcut) : Pattern := Pattern.ofWildcards p.head ++ paramsPattern p.params

/-- The pointcut of a selector that has been read. -/
def ofParts (selector : String) (parts : SelectorParts) : Pointcut :=
  let typeSegments := TypeLocator.collapseWildcards parts.typeSegments
  ⟨selector, .ofSegments typeSegments, parts.params,
    Text.join '.' typeSegments ++ '.' :: parts.method⟩

variable [RegexEngine]

/-- Has the engine make the pattern of a pointcut ready for use. -/
def built (p : Pointcut) : Except WeaveError Pointcut :=
  match RegexEngine.build p.pattern.render with
  | .ok () => .ok p
  | .error fault => .error (.malformedSelector p.selector fault.message)

/-- Makes a pointcut from the text of a selector. -/
def compile (selector : String) : Except WeaveError Pointcut :=
  match SelectorParts.parse selector with
  | .ok parts => (ofParts selector parts).built
  | .error fault => .error (.malformedSelector selector fault.message)

/-- Whether a signature is one of those that a pointcut selects. -/
def accepts (p : Pointcut) (signature : Signature) : Bool :=
  RegexEngine.isMatch p.pattern.render signature.text.toList

variable {β : Type}

/-- The concrete types among which a pointcut looks. -/
def candidateTypes (p : Pointcut) (catalog : Catalog β) : List (TypeDescriptor β) :=
  let found := match p.locator with
    | .named name => (catalog.resolve? name).toList
    | .inNamespace name => catalog.scan name
  found.filter (·.isConcrete)

/-- The selected methods, type by type. -/
def select (p : Pointcut) (catalog : Catalog β) : List (MatchedMethod β) :=
  (p.candidateTypes catalog).flatMap fun t =>
    (t.methods.filter fun m => p.accepts m.signature).map fun m => ⟨t, m⟩

/-- How a locator is described. -/
def describeLocator : TypeLocator → String
  | .named name => Text.tagged "Named" (Text.quoted name)
  | .inNamespace name => Text.tagged "Namespace" (Text.quoted name)

/-- How a parameter list is described. -/
def describeParams : ParamSpec → String
  | .any => "Any"
  | .empty => "Empty"
  | .exact types => Text.tagged "Exact" (Text.listed (types.map Text.quoted))

/-- How a pointcut is described. -/
def describe (p : Pointcut) : String :=
  Text.record "Pointcut"
    [("selector", Text.quoted p.selector), ("locator", describeLocator p.locator),
      ("params", describeParams p.params),
      ("pattern", Text.quoted (String.ofList p.pattern.render))]

end Pointcut

end AspectWeaver

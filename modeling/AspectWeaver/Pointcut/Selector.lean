import AspectWeaver.Text.Blank
import AspectWeaver.Text.Segments
import AspectWeaver.Error

/-!
# Selectors

A selector names methods: `a.b.C.foo(...)`, `a.b.*.get*()`, `a.b.C.foo(int,text)`. This module reads
the text of a selector into its parts: the segments of the type, the name of the method and what is said
about the parameters. Blank characters do not count. Each way in which a text can fail to be a selector
is a `SelectorFault`.
-/

set_option autoImplicit false

namespace AspectWeaver

/-- Why a text is not a selector. -/
inductive SelectorFault where
  | empty
  | noParameterList
  | parameterListNotLast
  | strayCharacter
  | unbalancedParentheses
  | noMethod
  | emptyName
  | emptySegment
  | emptyParameter
  | mixedEllipsis
deriving DecidableEq, Inhabited, Repr

/-- The wording of a fault. -/
def SelectorFault.message : SelectorFault → String
  | .empty => "selector is empty"
  | .noParameterList => "missing parameter list"
  | .parameterListNotLast => "parameter list must close the selector"
  | .strayCharacter => "unexpected character before the parameter list"
  | .unbalancedParentheses => "unbalanced parentheses"
  | .noMethod => "expected '<type>.<method>(<params>)'"
  | .emptyName => "type and method name must not be empty"
  | .emptySegment => "empty segment in type name"
  | .emptyParameter => "empty parameter type"
  | .mixedEllipsis => "'...' cannot be combined with explicit parameter types"

/-- What a selector says about parameters. -/
inductive ParamSpec where
  /-- Any parameters, written `...`. -/
  | any
  /-- No parameters. -/
  | empty
  /-- Exactly these parameter types. -/
  | exact (types : List String)
deriving DecidableEq, Inhabited, Repr

namespace ParamSpec

/-- The text that stands for any parameters. -/
def ellipsis : List Char := ['.', '.', '.']

/-- The number of open brackets after a character; a surplus closing bracket leaves none open. -/
def depthAfter (depth : Nat) (c : Char) : Nat :=
  if c = '<' ∨ c = '[' then depth + 1
  else if c = '>' ∨ c = ']' then depth - 1
  else depth

/-- The pieces of a parameter list between the commas that stand outside all brackets. -/
def splitTypes : Nat → List Char → List (List Char)
  | _, [] => [[]]
  | depth, c :: cs =>
    if c = ',' ∧ depth = 0 then [] :: splitTypes depth cs
    else match splitTypes (depthAfter depth c) cs with
      | [] => [[c]]
      | piece :: pieces => (c :: piece) :: pieces

/-- Reads what stands between the parentheses. -/
def parse (raw : List Char) : Except SelectorFault ParamSpec :=
  if raw = [] then .ok .empty
  else if raw = ellipsis then .ok .any
  else
    let types := splitTypes 0 raw
    if types.any (·.isEmpty) then .error .emptyParameter
    else if types.contains ellipsis then .error .mixedEllipsis
    else .ok (.exact (types.map String.ofList))

end ParamSpec

/-- The parts of a selector. -/
structure SelectorParts where
  /-- The segments of the type, in order. -/
  typeSegments : List (List Char)
  method : List Char
  params : ParamSpec
deriving DecidableEq, Inhabited, Repr

namespace SelectorParts

/-- Splits what stands before the parameter list into type and method. -/
def splitHead (head : List Char) : Except SelectorFault (List (List Char) × List Char) :=
  let pieces := Text.split '.' head
  let typeSegments := pieces.dropLast
  let method := pieces.getLastD []
  if typeSegments.isEmpty then .error .noMethod
  else if Text.join '.' typeSegments = [] ∨ method = [] then .error .emptyName
  else if typeSegments.any (·.isEmpty) then .error .emptySegment
  else .ok (typeSegments, method)

/-- Reads a text without blank characters. -/
def parseCompact (cs : List Char) : Except SelectorFault SelectorParts :=
  if cs = [] then .error .empty
  else
    let head := cs.takeWhile (· != '(')
    match cs.dropWhile (· != '(') with
    | [] => .error .noParameterList
    | _ :: tail =>
      if tail.getLast? ≠ some ')' then .error .parameterListNotLast
      else if head.any fun c => c == ')' || c == ',' then .error .strayCharacter
      else
        let raw := tail.dropLast
        if raw.any fun c => c == '(' || c == ')' then .error .unbalancedParentheses
        else do
          let (typeSegments, method) ← splitHead head
          let params ← ParamSpec.parse raw
          pure ⟨typeSegments, method, params⟩

/-- Reads the text of a selector. -/
def parse (selector : String) : Except SelectorFault SelectorParts :=
  parseCompact (Text.compactChars selector.toList)

end SelectorParts

end AspectWeaver

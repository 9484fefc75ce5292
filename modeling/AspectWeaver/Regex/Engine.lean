import AspectWeaver.Regex.Expression

/-!
# Engines for regular expressions

Which methods a selector selects is decided by an engine for regular expressions, which is not part of this
library. `RegexEngine` is what is documented of it: it makes an expression ready for use unless what it would
make takes more than so many bytes, and an expression that is ready is found in the texts in which the rules
find it. What an engine does with other texts is left open.
-/

set_option autoImplicit false

namespace AspectWeaver

/-- Why an engine does not make a text ready for use. -/
inductive RegexFault where
  /-- The text is no expression; the engine says why. -/
  | malformed (text : String)
  /-- What the engine would make takes more than so many bytes. -/
  | tooLarge (limit : Nat)
deriving DecidableEq, Inhabited, Repr

/-- The wording of a fault. -/
def RegexFault.message : RegexFault → String
  | .malformed text => text
  | .tooLarge limit => s!"Compiled regex exceeds size limit of {limit} bytes."

/-- An engine for regular expressions, with what is documented of it. -/
class RegexEngine where
  /-- The bytes that the engine counts for what it makes of a text. -/
  size : List Char → Nat
  /-- The most bytes that the engine makes of a text. -/
  sizeLimit : Nat
  /-- Makes a text ready for use. -/
  build : List Char → Except RegexFault Unit
  /-- Whether the expression of a text that is ready for use is found in another text. -/
  isMatch : List Char → List Char → Bool
  /-- An expression is made ready if it is not too large, and refused for its size if it is. -/
  build_eq {text : List Char} {e : Expression} : Expression.read? text = some e →
    build text = if size text ≤ sizeLimit then .ok () else .error (.tooLarge sizeLimit)
  /-- An expression that is ready is found where the rules find it. -/
  isMatch_iff {text : List Char} {e : Expression} : Expression.read? text = some e → build text = .ok () →
    ∀ xs, isMatch text xs = true ↔ e.FoundIn xs

end AspectWeaver

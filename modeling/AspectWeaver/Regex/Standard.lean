import AspectWeaver.Regex.Engine
import AspectWeaver.Regex.Search

/-!
# The engine of the running program

The program searches for expressions by rows (`Expression.search`). The size that it counts for an expression is that
of an automaton which reads texts byte by byte in UTF-8: 32 bytes for each byte of a character, and about a thousand
for a sign that stands for any character. Like other engines it refuses what takes more than ten mebibytes.
-/

set_option autoImplicit false

namespace AspectWeaver

namespace StandardEngine

/-- The bytes counted for a character. -/
def charSize (c : Char) : Nat := 32 * c.utf8Size

/-- The bytes counted for any character. -/
def anySize : Nat := 1000

/-- The bytes counted for a star. -/
def starSize : Nat := 40

/-- The bytes counted for a text, sign by sign, with those that were counted before. -/
def sizeFrom (counted : Nat) : List Char → Nat
  | [] => counted
  | '\\' :: c :: cs => sizeFrom (counted + charSize c) cs
  | '.' :: cs => sizeFrom (counted + anySize) cs
  | '*' :: cs => sizeFrom (counted + starSize) cs
  | c :: cs => sizeFrom (counted + charSize c) cs

/-- The most bytes of an expression, ten mebibytes. -/
def sizeLimit : Nat := 10 * 1024 * 1024

/-- Makes a text ready for use. The size is counted first: it takes one pass and no reading. -/
def build (text : List Char) : Except RegexFault Unit :=
  if sizeFrom 0 text ≤ sizeLimit then
    if (Expression.read? text).isSome then .ok () else .error (.malformed "regex parse error")
  else .error (.tooLarge sizeLimit)

/-- Whether the expression of a text is found in another text. -/
def isMatch (text xs : List Char) : Bool :=
  match Expression.read? text with
  | some e => e.search xs
  | none => false

/-- An expression is made ready unless it is too large. -/
theorem build_eq {text : List Char} {e : Expression} (h : Expression.read? text = some e) :
    build text = if sizeFrom 0 text ≤ sizeLimit then .ok () else .error (.tooLarge sizeLimit) := by
  rw [build, h, Option.isSome_some, if_pos rfl]

/-- The search decides what the rules say. -/
theorem isMatch_iff {text : List Char} {e : Expression} (h : Expression.read? text = some e) (xs : List Char) :
    isMatch text xs = true ↔ e.FoundIn xs := by
  rw [isMatch, h]
  exact e.search_iff xs

end StandardEngine

/-- The engine that the program runs with. -/
instance RegexEngine.standard : RegexEngine where
  size := StandardEngine.sizeFrom 0
  sizeLimit := StandardEngine.sizeLimit
  build := StandardEngine.build
  isMatch := StandardEngine.isMatch
  build_eq := StandardEngine.build_eq
  isMatch_iff h _ := StandardEngine.isMatch_iff h

end AspectWeaver

import AspectWeaver.Regex.Expression

/-!
# Patterns

A pattern is a list of pieces, each a character that stands for itself or a run that stands for any
characters except line feeds. `Matches` says which texts a pattern stands for. `render` writes a pattern
in the notation of regular expressions, anchored at both ends, with a backslash before every character
that has a meaning there.
-/

set_option autoImplicit false

namespace AspectWeaver

/-- One piece of a pattern. -/
inductive Piece where
  /-- A character that stands for itself. -/
  | char (c : Char)
  /-- Any characters, but no line feed. -/
  | run
deriving DecidableEq, Inhabited, Repr

/-- A pattern is a list of pieces. -/
abbrev Pattern := List Piece

namespace Pattern

/-- The texts that a pattern stands for. -/
inductive Matches : Pattern → List Char → Prop where
  | nil : Matches [] []
  | char (c : Char) {p : Pattern} {xs : List Char} : Matches p xs → Matches (.char c :: p) (c :: xs)
  | skip {p : Pattern} {xs : List Char} : Matches p xs → Matches (.run :: p) xs
  | take {p : Pattern} {x : Char} {xs : List Char} :
      x ≠ '\n' → Matches (.run :: p) xs → Matches (.run :: p) (x :: xs)

/-- The pattern of a text in which `*` stands for a run. -/
def ofWildcards (cs : List Char) : Pattern := cs.map fun c => if c = '*' then .run else .char c

/-- The pattern that stands for one text alone. -/
def ofLiteral (cs : List Char) : Pattern := cs.map .char

/-- A character as a regular expression that stands for it alone. -/
def escape (c : Char) : List Char := if Expression.special.contains c then ['\\', c] else [c]

/-- A piece as a regular expression. -/
def renderPiece : Piece → List Char
  | .char c => escape c
  | .run => ['.', '*']

/-- A pattern as a regular expression for whole texts. -/
def render (p : Pattern) : List Char := '^' :: p.flatMap renderPiece ++ ['$']

end Pattern

end AspectWeaver

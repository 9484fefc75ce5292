import AspectWeaver.Text.Blank
import AspectWeaver.Text.Digits

/-!
# Single parts of patterns for values

The parts of a pattern that hold no other parts: characters, escapes and places. In which modes a part is
read decides whether it may stand where it does; `Part.fits` says so outside of brackets and
`Part.fitsBrackets` inside.
-/

set_option autoImplicit false

namespace AspectWeaver.ValuePattern

/-- How the next parts of a pattern are read; groups and flags change it on the way. -/
structure Modes where
  /-- Parts stand for characters, not for bytes. -/
  unicode : Bool
  /-- Blanks and comments may stand between the parts. -/
  spaced : Bool
deriving DecidableEq, Inhabited, Repr

/-- The modes at the beginning of a pattern. -/
def Modes.initial : Modes := ⟨true, false⟩

/-! ## Blanks and comments -/

/-- What stands behind blanks and comments; a comment runs from a number sign to the end of its line. -/
def behindBlanks (inComment : Bool) : List Char → List Char
  | [] => []
  | c :: cs =>
    if inComment then behindBlanks (c != '\n') cs
    else if Text.isBlank c then behindBlanks false cs
    else if c = '#' then behindBlanks true cs
    else c :: cs

/-- What stands behind the blanks and comments that the modes allow. -/
def Modes.skip (m : Modes) (cs : List Char) : List Char :=
  if m.spaced then behindBlanks false cs else cs

/-- The character that decides whether a hyphen makes a range: the next one, or where blanks are allowed
the next one that is neither a blank nor the sign of a comment. -/
def Modes.ahead? (m : Modes) (cs : List Char) : Option Char :=
  if m.spaced then
    match cs.dropWhile Text.isBlank with
    | '#' :: comment => (comment.dropWhile Text.isBlank).head?
    | rest => rest.head?
  else cs.head?

/-! ## Single parts -/

/-- A part of a pattern that has no parts of its own. -/
inductive Part where
  /-- A character; `asByte` if it is written by the two digits of a byte. -/
  | literal (c : Char) (asByte : Bool)
  /-- Any character. -/
  | any
  /-- Digits, blanks or word characters, or all others if `complement`. -/
  | kind (complement : Bool)
  /-- The characters of a general category. -/
  | category
  /-- A place between characters, at the edge of a word or of the text. -/
  | edge (ofWord : Bool)
deriving DecidableEq, Inhabited, Repr

/-- Whether a part may stand outside of brackets. Without Unicode, all is refused that could match
something else than text; with Unicode, edges of words are. -/
def Part.fits (m : Modes) : Part → Bool
  | .literal c asByte => m.unicode || c.toNat < 0x80 || !asByte
  | .any => m.unicode
  | .kind complement => m.unicode || !complement
  | .category => m.unicode
  | .edge ofWord => !(ofWord && m.unicode)

/-- Whether a part may stand in brackets. -/
def Part.fitsBrackets (m : Modes) : Part → Bool
  | .literal c _ => m.unicode || c.toNat < 0x80
  | .kind complement => m.unicode || !complement
  | .category => m.unicode
  | .any => false
  | .edge _ => false

/-- Reads a number of hexadecimal digits onto a number. -/
def hexNumber? (m : Modes) : Nat → Nat → List Char → Option (Nat × List Char)
  | 0, n, cs => some (n, m.skip cs)
  | digits + 1, n, cs =>
    match m.skip cs with
    | [] => none
    | c :: rest =>
      if Text.isHexDigit c then hexNumber? m digits (n * 16 + Text.digitValue c) rest else none

/-- Reads a character written by its number. -/
def hexLiteral? (m : Modes) (digits : Nat) (cs : List Char) : Option (Part × List Char) := do
  let (n, rest) ← hexNumber? m digits 0 cs
  if n.isValidChar then some (.literal (Char.ofNat n) (digits == 2), rest) else none

/-- Reads the letter of a general category. -/
def category? (m : Modes) (cs : List Char) : Option (Part × List Char) :=
  match m.skip cs with
  | [] => none
  | c :: rest => if "clmnpsz".contains c.toLower then some (.category, m.skip rest) else none

/-- What a backslash before a character means, when nothing else has to be read for it. -/
def escapeOf? (c : Char) : Option Part :=
  match c with
  | 'd' | 's' | 'w' => some (.kind false)
  | 'D' | 'S' | 'W' => some (.kind true)
  | 'a' => some (.literal '\x07' false)
  | 'f' => some (.literal '\x0c' false)
  | 't' => some (.literal '\t' false)
  | 'n' => some (.literal '\n' false)
  | 'r' => some (.literal '\r' false)
  | 'v' => some (.literal '\x0b' false)
  | 'A' | 'z' => some (.edge false)
  | 'b' | 'B' | '<' | '>' => some (.edge true)
  | c => if c.toNat < 0x80 && !c.isAlphanum then some (.literal c false) else none

/-- Reads what stands behind a backslash. -/
def escape? (m : Modes) : List Char → Option (Part × List Char)
  | [] => none
  | 'x' :: rest => hexLiteral? m 2 rest
  | 'u' :: rest => hexLiteral? m 4 rest
  | 'U' :: rest => hexLiteral? m 8 rest
  | 'p' :: rest => category? m rest
  | 'P' :: rest => category? m rest
  | c :: rest => (escapeOf? c).map fun part => (part, rest)

end AspectWeaver.ValuePattern

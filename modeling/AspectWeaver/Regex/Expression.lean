/-!
# Regular expressions

The regular expressions that are needed for whole texts with wildcards: anchors, characters, `.` for any
character but a line feed, and `*` for any number of what stands before it. `Expression.read?` reads the
text of one, `Expression.FoundIn` says in which texts it is found. A backslash takes its meaning from a
character that has one; texts with other signs are not read.
-/

set_option autoImplicit false

namespace AspectWeaver

/-- What stands for one character. -/
inductive Atom where
  /-- A character that stands for itself. -/
  | char (c : Char)
  /-- Any character but a line feed. -/
  | any
deriving DecidableEq, Repr

/-- Whether an atom stands for a character. -/
def Atom.standsFor : Atom → Char → Prop
  | .char c, x => x = c
  | .any, x => x ≠ '\n'

/-- The signs of which an expression is written. -/
inductive Sign where
  | start
  | stop
  | atom (a : Atom)
  | star
deriving DecidableEq, Repr

/-- One thing that an expression asks for. -/
inductive Clause where
  /-- To be at the beginning of the text. -/
  | start
  /-- To be at the end of the text. -/
  | stop
  /-- One character for the atom. -/
  | once (a : Atom)
  /-- Any number of characters for the atom. -/
  | many (a : Atom)
deriving DecidableEq, Repr

/-- What an expression asks for, one after the other. -/
abbrev Expression := List Clause

namespace Expression

/-- The characters that have a meaning in regular expressions. -/
def special : List Char :=
  ['\\', '.', '+', '*', '?', '(', ')', '|', '[', ']', '{', '}', '^', '$', '#', '&', '-', '~']

/-- Reads the signs of a text: a backslash takes the meaning from the character behind it, and characters with
other meanings than those here are not read. -/
def signs? : List Char → Option (List Sign)
  | [] => some []
  | '\\' :: [] => none
  | '\\' :: c :: cs => if special.contains c then (signs? cs).map (.atom (.char c) :: ·) else none
  | '^' :: cs => (signs? cs).map (.start :: ·)
  | '$' :: cs => (signs? cs).map (.stop :: ·)
  | '.' :: cs => (signs? cs).map (.atom .any :: ·)
  | '*' :: cs => (signs? cs).map (.star :: ·)
  | c :: cs => if special.contains c then none else (signs? cs).map (.atom (.char c) :: ·)

/-- Joins each star to the atom before it; no other sign can be repeated. -/
def ofSigns? : List Sign → Option Expression
  | [] => some []
  | .start :: rest => (ofSigns? rest).map (.start :: ·)
  | .stop :: rest => (ofSigns? rest).map (.stop :: ·)
  | .atom a :: .star :: rest => (ofSigns? rest).map (.many a :: ·)
  | .atom a :: rest => (ofSigns? rest).map (.once a :: ·)
  | .star :: _ => none

/-- Reads the text of an expression. -/
def read? (cs : List Char) : Option Expression := (signs? cs).bind ofSigns?

/-- An expression is found at a place of a text, between what stands before the place and what stands behind it. -/
inductive FoundAt : Expression → List Char → List Char → Prop where
  | nil {before after : List Char} : FoundAt [] before after
  | start {e : Expression} {after : List Char} : FoundAt e [] after → FoundAt (.start :: e) [] after
  | stop {e : Expression} {before : List Char} : FoundAt e before [] → FoundAt (.stop :: e) before []
  | once {a : Atom} {e : Expression} {before after : List Char} {x : Char} :
    a.standsFor x → FoundAt e (before ++ [x]) after → FoundAt (.once a :: e) before (x :: after)
  | skip {a : Atom} {e : Expression} {before after : List Char} :
    FoundAt e before after → FoundAt (.many a :: e) before after
  | take {a : Atom} {e : Expression} {before after : List Char} {x : Char} :
    a.standsFor x → FoundAt (.many a :: e) (before ++ [x]) after → FoundAt (.many a :: e) before (x :: after)

/-- An expression is found somewhere in a text. -/
def FoundIn (e : Expression) (text : List Char) : Prop :=
  ∃ before after, text = before ++ after ∧ e.FoundAt before after

end Expression

end AspectWeaver

/-!
# Reading characters

A reader takes something off the front of a list of characters, or fails. Repetition stops where the
reader fails, so whatever follows decides whether that is an error.
-/

set_option autoImplicit false

namespace AspectWeaver.Toml

/-- Takes something off the front of the remaining characters, or fails. -/
abbrev Reader (α : Type) := StateT (List Char) Option α

namespace Reader

variable {α β : Type}

/-- The next character, if it is one of those asked for. -/
def satisfy (accept : Char → Bool) : Reader Char := fun
  | c :: rest => if accept c then some (c, rest) else none
  | [] => none

/-- The given character. -/
def char (c : Char) : Reader Unit := do let _ ← satisfy (· == c)

/-- The given characters. -/
def chars : List Char → Reader Unit
  | [] => pure ()
  | c :: rest => do char c; chars rest

/-- The given word. -/
def word (s : String) : Reader Unit := chars s.toList

/-- The end of the text. -/
def atEnd : Reader Unit := fun
  | [] => some ((), [])
  | _ => none

/-- Something that may be missing. -/
def maybe (p : Reader α) : Reader (Option α) := (some <$> p) <|> pure none

/-- As many in a row as there are, and what remains behind them. -/
def takeAll (p : Reader α) (text : List Char) : List α × List Char :=
  match p text with
  | none => ([], text)
  | some (a, rest) =>
    if rest.length < text.length then
      let (more, remaining) := takeAll p rest
      (a :: more, remaining)
    else ([a], rest)
termination_by text.length

/-- As many in a row as there are. -/
def many (p : Reader α) : Reader (List α) := fun text => some (takeAll p text)

/-- As many in a row as there are, but at least one. -/
def many1 (p : Reader α) : Reader (List α) := do
  let first ← p
  let rest ← many p
  pure (first :: rest)

/-- At least one, with a separator between each two. -/
def separated (p : Reader α) (separator : Reader Unit) : Reader (List α) := do
  let first ← p
  let rest ← many (do separator; p)
  pure (first :: rest)

/-- The value of a reader that takes the whole text. -/
def readAll (p : Reader α) (text : List Char) : Option α :=
  match p text with
  | some (a, []) => some a
  | _ => none

end Reader

end AspectWeaver.Toml

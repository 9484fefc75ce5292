import AspectWeaver.Toml.Reader

/-!
# Blanks, line ends and comments in TOML

Only spaces and tabs are blank. A line ends with a line feed, perhaps after a carriage return. Comments
and strings hold no control characters but the tab.
-/

set_option autoImplicit false

namespace AspectWeaver.Toml

open Reader

/-- A space or a tab. -/
def isBlank (c : Char) : Bool := c == ' ' || c == '\t'

/-- A character that may stand in comments and strings: no control character but the tab. -/
def isPlain (c : Char) : Bool := c == '\t' || (' ' ≤ c && c ≤ '~') || '\x80' ≤ c

/-- Any number of blanks. -/
def blanks : Reader Unit := do let _ ← many (satisfy isBlank)

/-- The end of a line. -/
def newline : Reader Unit := char '\n' <|> chars ['\r', '\n']

/-- The end of a line or of the text. -/
def lineEnd : Reader Unit := newline <|> atEnd

/-- A comment up to the end of its line. -/
def comment : Reader Unit := do
  char '#'
  let _ ← many (satisfy isPlain)

/-- What may follow on the line behind an entry or a header. -/
def trailing : Reader Unit := do
  blanks
  let _ ← maybe comment
  lineEnd

/-- Blanks, comments and line ends in any number. -/
def gap : Reader Unit := do
  let _ ← many ((do let _ ← satisfy isBlank) <|> newline <|> do comment; newline)

end AspectWeaver.Toml

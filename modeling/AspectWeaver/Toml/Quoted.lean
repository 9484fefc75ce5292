import AspectWeaver.Text.Digits
import AspectWeaver.Toml.Blank

/-!
# TOML strings

Four ways to write a text: between double quotes with escapes or between single quotes without, on one
line or, with three quotes, on many. On many lines a line end right behind the opening quotes does not
count, every other one is read as a line feed, and up to two quotes may stand anywhere, even just before
the closing ones.
-/

set_option autoImplicit false

namespace AspectWeaver.Toml

open Reader

/-- So many hexadecimal digits, as a number behind the digits before. -/
def hexDigits : Nat → Nat → Reader Nat
  | 0, value => pure value
  | count + 1, value => do
    let c ← satisfy Text.isHexDigit
    hexDigits count (value * 16 + Text.digitValue c)

/-- The character of a code point, if there is one. -/
def charOf (code : Nat) : Reader Char :=
  if code.isValidChar then pure (Char.ofNat code) else failure

/-- What stands for a character behind a backslash. -/
def escaped : Reader Char := do
  match ← satisfy fun _ => true with
  | 'b' => pure '\x08'
  | 't' => pure '\t'
  | 'n' => pure '\n'
  | 'f' => pure '\x0c'
  | 'r' => pure '\r'
  | '"' => pure '"'
  | '\\' => pure '\\'
  | 'u' => do charOf (← hexDigits 4 0)
  | 'U' => do charOf (← hexDigits 8 0)
  | _ => failure

/-- An escape. -/
def escape : Reader Char := do
  char '\\'
  escaped

/-- A character that stands for itself between double quotes. -/
def isBasic (c : Char) : Bool := isPlain c && c != '"' && c != '\\'

/-- A character that stands for itself between single quotes. -/
def isLiteral (c : Char) : Bool := isPlain c && c != '\''

/-- A text between double quotes on one line. -/
def basicText : Reader String := do
  char '"'
  let content ← many (satisfy isBasic <|> escape)
  char '"'
  pure (String.ofList content)

/-- A text between single quotes on one line. -/
def literalText : Reader String := do
  char '\''
  let content ← many (satisfy isLiteral)
  char '\''
  pure (String.ofList content)

/-- One or two quotes within a text. -/
def innerQuotes (quote : Char) : Reader (List Char) := do
  let run ← many1 (satisfy (· == quote))
  if run.length < 3 then pure run else failure

/-- The three quotes that close a text, and up to two before them that belong to it. -/
def closingQuotes (quote : Char) : Reader (List Char) := do
  let run ← many1 (satisfy (· == quote))
  if 3 ≤ run.length && run.length ≤ 5 then pure (run.drop 3) else failure

/-- A line end within a text. -/
def innerNewline : Reader (List Char) := do
  newline
  pure ['\n']

/-- A backslash at the end of a line, which takes away the line end and all blanks behind it. -/
def continuation : Reader (List Char) := do
  char '\\'
  blanks
  newline
  let _ ← many ((do let _ ← satisfy isBlank) <|> newline)
  pure []

/-- A text between three quotes on each side, given what it is made of beside quotes and line ends. -/
def longText (quote : Char) (piece : Reader (List Char)) : Reader String := do
  chars [quote, quote, quote]
  let _ ← maybe newline
  let content ← many (piece <|> innerNewline <|> innerQuotes quote)
  let last ← closingQuotes quote
  pure (String.ofList (content.flatten ++ last))

/-- A piece of a long text between double quotes. -/
def basicPiece : Reader (List Char) :=
  (do pure [← satisfy isBasic]) <|> continuation <|> (do pure [← escape])

/-- A piece of a long text between single quotes. -/
def literalPiece : Reader (List Char) := do pure [← satisfy isLiteral]

/-- Whether three quotes come next. -/
def opensLong (quote : Char) (text : List Char) : Bool := text.take 3 == [quote, quote, quote]

/-- A text as a value, in any of the four ways. -/
def quotedText : Reader String := fun text =>
  if opensLong '"' text then longText '"' basicPiece text
  else if opensLong '\'' text then longText '\'' literalPiece text
  else (basicText <|> literalText) text

end AspectWeaver.Toml

import AspectWeaver.Text.Unprintable

/-!
# Quoted texts and described values

How values are shown in descriptions: texts in double quotes with escapes, lists in brackets, records as
a name with its fields in braces, and a value that may be absent as `Some(..)` or `None`.
-/

set_option autoImplicit false

namespace AspectWeaver.Text

/-- The lower-case hexadecimal digits of a number. -/
def hex (n : Nat) : List Char := Nat.toDigits 16 n

/-- One character inside quotes. Quotes, backslashes and the usual controls have short escapes, other
characters that cannot be shown alone are written by their number. -/
def quoteChar (c : Char) : List Char :=
  if c = '"' then ['\\', '"']
  else if c = '\\' then ['\\', '\\']
  else if c = '\n' then ['\\', 'n']
  else if c = '\r' then ['\\', 'r']
  else if c = '\t' then ['\\', 't']
  else if c = '\x00' then ['\\', '0']
  else if isUnprintable c then ['\\', 'u', '{'] ++ hex c.toNat ++ ['}']
  else [c]

/-- A text in double quotes. -/
def quoted (s : String) : String :=
  String.ofList ('"' :: s.toList.flatMap quoteChar ++ ['"'])

/-- Described values in brackets. -/
def listed (items : List String) : String := "[" ++ ", ".intercalate items ++ "]"

/-- A name with described fields. -/
def record (name : String) (fields : List (String × String)) : String :=
  name ++ " \x7b " ++ ", ".intercalate (fields.map fun (field, value) => field ++ ": " ++ value) ++ " \x7d"

/-- A name around one described value. -/
def tagged (name value : String) : String := name ++ "(" ++ value ++ ")"

/-- A value that may be absent. -/
def optional : Option String → String
  | none => "None"
  | some value => tagged "Some" value

/-- A truth value. -/
def truth (b : Bool) : String := if b then "true" else "false"

end AspectWeaver.Text

import AspectWeaver.Toml.Moment
import AspectWeaver.Toml.Table

/-!
# TOML documents

A document is a list of lines: entries, headers of tables, and headers that add to a list of tables. The
lines are read first and then put together into one table. Arrays and inline tables may be nested in
each other, and keys may be dotted, but fewer than `nestingLimit` deep.
-/

set_option autoImplicit false

namespace AspectWeaver.Toml

open Reader

/-- What keys and values must stay below in depth. -/
def nestingLimit : Nat := 80

/-! ## Keys -/

/-- Whether a character may stand in a key without quotes. -/
def isBareKey (c : Char) : Bool := c.isAlphanum || c == '-' || c == '_'

/-- One part of a key. -/
def keyPart : Reader String :=
  (do pure (String.ofList (← many1 (satisfy isBareKey)))) <|> basicText <|> literalText

/-- A key, which may be dotted. -/
def keyPath : Reader (List String) := do
  let parts ← separated (do blanks; let part ← keyPart; blanks; pure part) (char '.')
  if parts.length < nestingLimit then pure parts else failure

/-! ## Values -/

/-- A truth value. -/
def truth : Reader Item :=
  (do word "true"; pure (.bool true)) <|> (do word "false"; pure (.bool false))

/-- A value without parts. -/
def scalar : Reader Item :=
  (do pure (.text (← quotedText))) <|> truth <|> moment <|> finiteFloat <|> specialFloat <|> integer

/-- An array, given how to read its items. A comma may follow the last item. -/
def array (value : Reader Item) : Reader Item := do
  char '['
  let items ← maybe (do
    let items ← separated (do gap; let item ← value; gap; pure item) (char ',')
    let _ ← maybe (char ',')
    pure items)
  gap
  char ']'
  pure (.array (items.getD []))

/-- An entry, given how to read its value. -/
def entry (value : Reader Item) : Reader (List String × Item) := do
  let path ← keyPath
  char '='
  blanks
  pure (path, ← value)

/-- Puts the entries of an inline table together. -/
def gather (entries : List (List String × Item)) : Reader Item :=
  match entries.foldlM (fun t (path, item) => Entries.add t path item) [] with
  | some t => pure (.inlineTable t)
  | none => failure

/-- An inline table, given how to read its values. No comma may follow the last entry. -/
def inlineTable (value : Reader Item) : Reader Item := do
  char '{'
  blanks
  let entries ← maybe (separated (do let e ← entry value; blanks; pure e) (char ','))
  blanks
  char '}'
  gather (entries.getD [])

/-- A value in which arrays and inline tables are nested at most so deep. -/
def value : Nat → Reader Item
  | 0 => scalar
  | depth + 1 => array (value depth) <|> inlineTable (value depth) <|> scalar

/-! ## Lines -/

/-- A line that says something. -/
inductive Line where
  | entry (path : List String) (item : Item)
  | table (path : List String)
  | tables (path : List String)
deriving Inhabited, Repr

/-- A header that adds to a list of tables. -/
def tablesHeader : Reader Line := do
  chars ['[', '[']
  let path ← keyPath
  chars [']', ']']
  pure (.tables path)

/-- A header of a table. -/
def tableHeader : Reader Line := do
  char '['
  let path ← keyPath
  char ']'
  pure (.table path)

/-- A line with an entry. -/
def entryLine : Reader Line := do
  let (path, item) ← entry (value (nestingLimit - 1))
  pure (.entry path item)

/-- A line of a document, if it says something. Only the last line may have no end. -/
def line : Reader (Option Line) := do
  let said ← (some <$> (tablesHeader <|> tableHeader <|> entryLine) <* trailing)
    <|> ((do comment; lineEnd; pure none) <|> (do newline; pure none))
  blanks
  pure said

/-- The lines of a document that say something. -/
def lines : Reader (List Line) := do
  let _ ← maybe (char '\uFEFF')
  blanks
  let all ← many line
  pure (all.filterMap id)

/-! ## The whole document -/

/-- A document as far as it is put together, and the path of the table that entries go into. -/
structure Draft where
  root : Entries
  path : List String
deriving Inhabited

/-- Puts one more line into a document. -/
def Draft.extend (d : Draft) : Line → Option Draft
  | .entry path item => do
    let root ← Entries.changeAt (fun t => Entries.add t path item) d.path d.root
    pure { d with root := root }
  | .table path => do pure ⟨← Entries.atHeader Entries.openTable path d.root, path⟩
  | .tables path => do pure ⟨← Entries.atHeader Entries.openTables path d.root, path⟩

/-- The table that a text stands for, if it is a TOML document. -/
def parse (text : String) : Option Entries := do
  let all ← lines.readAll text.toList
  let d ← all.foldlM Draft.extend ⟨[], []⟩
  pure d.root

end AspectWeaver.Toml

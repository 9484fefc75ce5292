import AspectWeaver.Config.Weaver
import AspectWeaver.Error
import AspectWeaver.Logging.Config
import AspectWeaver.Text.Blank
import AspectWeaver.Toml.Document

/-!
# Loading a configuration

A configuration has two parts, for the weaver and for logging. In a TOML document each is a table whose
keys are the settings; keys that are no settings are ignored, and settings that are missing keep their
defaults. A part may also be an array that gives its settings in their order, and a date stands for no
settings at all. A setting of the wrong type spoils the whole configuration.
-/

set_option autoImplicit false

namespace AspectWeaver

/-- The configuration of a program. -/
structure Configuration where
  weaver : WeaverConfig := {}
  logging : LoggingConfig := {}
deriving DecidableEq, Inhabited, Repr

namespace Configuration

open Toml (Entries Item)

/-- Finds the item for a setting, by its name and its position. -/
abbrev Settings := String → Nat → Option Item

/-- The settings in an item, if it can hold any. -/
def settings? : Item → Option Settings
  | .table _ entries | .inlineTable entries => some fun name _ => Entries.get? name entries
  | .array items => some fun _ position => items[position]?
  | .tables tables => some fun _ position => (tables[position]?).map (.table .header)
  | .moment _ => some fun _ _ => none
  | _ => none

/-- A setting that is missing has its default; one that is there must be read. -/
def setting {α : Type} (read : Item → Option α) (default : α) : Option Item → Option α
  | none => some default
  | some item => read item

/-- A truth value. -/
def bool? : Item → Option Bool
  | .bool b => some b
  | _ => none

/-- A text. -/
def text? : Item → Option String
  | .text s => some s
  | _ => none

/-- A list of texts. -/
def texts? : Item → Option (List String)
  | .array items => items.mapM text?
  | _ => none

/-- Whether an item is a table or an array that holds nothing. -/
def holdsNothing : Item → Bool
  | .table _ [] | .inlineTable [] | .array [] => true
  | _ => false

/-- What a word stands for, which is written as a text or as the only key of a table with nothing
below it. -/
def word? {α : Type} (meaning : String → Option α) : Item → Option α
  | .text s => meaning s
  | .table _ [(key, item)] | .inlineTable [(key, item)] =>
    if holdsNothing item then meaning key else none
  | _ => none

/-- The part for the weaver. -/
def weaver? (item : Item) : Option WeaverConfig := do
  let find ← settings? item
  let c : WeaverConfig := {}
  pure {
    excludedNamespaces :=
      ← setting texts? c.excludedNamespaces (find "excluded_namespaces" 0)
    warnUnmatchedSelectors :=
      ← setting bool? c.warnUnmatchedSelectors (find "warn_unmatched_selectors" 1)
    autoLoad := ← setting bool? c.autoLoad (find "auto_load" 2) }

/-- The part for logging. -/
def logging? (item : Item) : Option LoggingConfig := do
  let find ← settings? item
  let c : LoggingConfig := {}
  pure {
    level := ← setting (word? Level.ofWord?) c.level (find "level" 0)
    format := ← setting (word? LogFormat.ofWord?) c.format (find "format" 1)
    showTarget := ← setting bool? c.showTarget (find "show_target" 2)
    showThreadIds := ← setting bool? c.showThreadIds (find "show_thread_ids" 3)
    filter := ← setting (fun i => some <$> text? i) c.filter (find "filter" 4) }

/-- The configuration in a table. -/
def ofTable (entries : Entries) : Option Configuration := do
  let weaver ← setting weaver? {} (Entries.get? "weaver" entries)
  let logging ← setting logging? {} (Entries.get? "logging" entries)
  pure ⟨weaver, logging⟩

/-- The configuration in a text. -/
def parse (text : String) : Except WeaveError Configuration :=
  match Toml.parse text with
  | none => .error (.config "the text is not a TOML document")
  | some entries =>
    match ofTable entries with
    | none => .error (.config "a setting has the wrong type")
    | some c => .ok c

/-- The configuration in a file, given the bytes of the file if it can be read. -/
def ofFile (path : String) : Option ByteArray → Except WeaveError Configuration
  | none => .error (.config ("cannot read '" ++ path ++ "'"))
  | some bytes =>
    match String.fromUTF8? bytes with
    | none => .error (.config ("cannot read '" ++ path ++ "': it is not UTF-8 text"))
    | some text => parse text

/-- The name of the file that a setting of the environment asks for; a blank setting asks for none. -/
def requestedFile? (value : Option String) : Option String :=
  match value.map Text.trim with
  | some path => if path.isEmpty then none else some path
  | none => none

/-- The configuration that a setting of the environment asks for: that of the file which it names, or
the defaults if it names none. -/
def ofEnvironment (value : Option String) (file : String → Option ByteArray) :
    Except WeaveError Configuration :=
  match requestedFile? value with
  | some path => ofFile path (file path)
  | none => .ok {}

end Configuration

end AspectWeaver

import AspectWeaver.Event
import AspectWeaver.Text.Blank
import AspectWeaver.Text.LowerCase

/-!
# Logging configuration

From which level on events are written, in which format, and with what beside the message. Words for
levels and formats may be written in any case and with blank characters around them.
-/

set_option autoImplicit false

namespace AspectWeaver

/-- The layouts of log lines. -/
inductive LogFormat where
  | compact | full | json | pretty
deriving DecidableEq, Inhabited, Repr

/-- The name of a layout in descriptions. -/
def LogFormat.label : LogFormat → String
  | .compact => "Compact"
  | .full => "Full"
  | .json => "Json"
  | .pretty => "Pretty"

/-- The name of a level in descriptions. -/
def Level.label : Level → String
  | .error => "Error"
  | .warn => "Warn"
  | .info => "Info"
  | .debug => "Debug"
  | .trace => "Trace"

/-- The level that a word in lower case stands for. -/
def Level.ofWord? : String → Option Level
  | "trace" => some .trace
  | "debug" => some .debug
  | "info" => some .info
  | "warn" => some .warn
  | "warning" => some .warn
  | "error" => some .error
  | _ => none

/-- The layout that a word in lower case stands for. -/
def LogFormat.ofWord? : String → Option LogFormat
  | "compact" => some .compact
  | "full" => some .full
  | "json" => some .json
  | "pretty" => some .pretty
  | _ => none

/-- Reads a level, or says which word is none. -/
def Level.parse (text : String) : Except String Level :=
  let word := Text.lower (Text.trim text)
  match Level.ofWord? word with
  | some level => .ok level
  | none => .error ("Invalid log level: " ++ word)

/-- Reads a layout, or says which word is none. -/
def LogFormat.parse (text : String) : Except String LogFormat :=
  let word := Text.lower (Text.trim text)
  match LogFormat.ofWord? word with
  | some format => .ok format
  | none => .error ("Invalid log format: " ++ word)

/-- How the log is to be written. -/
structure LoggingConfig where
  level : Level := .info
  format : LogFormat := .compact
  showTarget : Bool := false
  showThreadIds : Bool := false
  /-- A filter that goes before `level`. -/
  filter : Option String := none
deriving DecidableEq, Inhabited, Repr

/-- What the environment says about logging; each part may be missing. -/
structure LoggingEnvironment where
  filter : Option String := none
  level : Option String := none
  format : Option String := none
deriving DecidableEq, Inhabited, Repr

/-- A configuration with the parts replaced that the environment gives; a word that cannot be read
replaces nothing. -/
def LoggingConfig.override (c : LoggingConfig) (env : LoggingEnvironment) : LoggingConfig :=
  { c with
    filter := env.filter.or c.filter
    level := (env.level.bind fun text => (Level.parse text).toOption).getD c.level
    format := (env.format.bind fun text => (LogFormat.parse text).toOption).getD c.format }

/-- Every level is read back from its name. -/
theorem Level.parse_name (level : Level) : Level.parse level.name = .ok level := by
  cases level <;> rfl

end AspectWeaver

import AspectWeaver.Error
import AspectWeaver.Logging.Config
import AspectWeaver.Logging.Directive

/-!
# Log filters

A filter is a list of directives with commas between them. `Filter.parse?` reads one, and
`Filter.enables` tells whether events of a given target and level pass: of the rules for the target the
one with most to say decides, and without any the events are dropped. The question is asked before there
is an event, so a field that a rule names counts as present. A setup holds the filter in force; it can be
made only once.
-/

set_option autoImplicit false

namespace AspectWeaver

/-- Whether a rule says less than another one about the same events: its target is shorter, or the
targets are equally long and its field is missing or comes earlier in the order of names. -/
def EventRule.givesWayTo (rule other : EventRule) : Bool :=
  rule.target.length < other.target.length ||
    rule.target.length == other.target.length &&
      match rule.field, other.field with
      | _, none => false
      | none, some _ => true
      | some name, some name' => name < name'

/-- A filter is a list of directives. -/
abbrev Filter := List Directive

namespace Filter

/-- Reads a filter; one directive that cannot be read spoils all. -/
def parse? (text : String) : Option Filter :=
  ((Text.split ',' text.toList).filter (· ≠ [])).mapM Directive.parse?

/-- The rule for events of a target that decides so far, after one more directive: the later one unless
it gives way. -/
def deciding (target : List Char) (best : Option EventRule) : Directive → Option EventRule
  | .inSpan => best
  | .events rule =>
    if rule.target.isPrefixOf target && !best.any rule.givesWayTo then some rule else best

/-- Whether events of a target and a level pass. -/
def enables (f : Filter) (target : List Char) (level : Level) : Bool :=
  (f.foldl (deciding target) none).any (level.verbosity ≤ ·.limit)

end Filter

/-- The filter that a configuration asks for; a text that is no filter counts as none. -/
def LoggingConfig.toFilter (c : LoggingConfig) : Filter :=
  match c.filter.bind Filter.parse? with
  | some filter => filter
  | none => [.events ⟨[], none, c.level.verbosity⟩]

/-- The log of a program: none before the first setup, then the filter in force. -/
abbrev LogSetup := Option Filter

/-- Sets up the log; it can be done only once. -/
def LoggingConfig.init (c : LoggingConfig) (setup : LogSetup) : Except WeaveError Unit × LogSetup :=
  match setup with
  | none => (.ok (), some c.toFilter)
  | some _ =>
    (.error (.loggingInit "a global default trace dispatcher has already been set"), setup)

/-- The levels at which events of a target are written. -/
def LogSetup.enabled (setup : LogSetup) (target : String) : List Level :=
  match setup with
  | none => []
  | some filter => Level.all.filter (filter.enables target.toList)

end AspectWeaver

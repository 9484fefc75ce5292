import AspectWeaver.Logging.ValuePattern
import AspectWeaver.Text.Bytes
import AspectWeaver.Text.Digits
import AspectWeaver.Text.Segments

/-!
# Directives of log filters

A directive gives a level for everything, or a target with the level for what lies below it. In brackets
it may name a span, and in braces in them a field, with or without a pattern for its value.
`Directive.parse?` reads one. A directive that names a span or asks for a value concerns spans alone.

What a directive consists of is seen in its text without the blanks around it, but its words are taken
from the text as it stands, at the same positions. So blanks in front shift every word: behind one blank,
a lone level is read as a target that begins with a blank.
-/

set_option autoImplicit false

namespace AspectWeaver

/-- Which events pass, as far as their target and level tell: those below `target` up to `limit`, a
verbosity; 0 lets none pass. -/
structure EventRule where
  target : List Char
  /-- A field that the events are to have. -/
  field : Option (List Char)
  limit : Nat
deriving DecidableEq, Inhabited, Repr

/-- One directive. -/
inductive Directive where
  | events (rule : EventRule)
  /-- Something about spans, which does not concern events outside of them. -/
  | inSpan
deriving DecidableEq, Inhabited, Repr

namespace Directive

/-! ## Words -/

/-- A number in decimal digits, perhaps with a plus sign before it. -/
def number? (cs : List Char) : Option Nat :=
  let digits := match cs with
    | '+' :: rest => rest
    | _ => cs
  if digits ≠ [] ∧ digits.all Char.isDigit then
    some (Text.numberOf 10 digits)
  else none

/-- The verbosity that a word stands for, in any case of its letters; `off` lets nothing pass. -/
def limit? (cs : List Char) : Option Nat :=
  let byWord : Option Nat := match String.ofList (cs.map Char.toLower) with
    | "error" => some 1
    | "warn" => some 2
    | "info" => some 3
    | "debug" => some 4
    | "trace" => some 5
    | "off" => some 0
    | _ => none
  match number? cs with
  | some n => if n ≤ 5 then some n else byWord
  | none => byWord

/-- The verbosity that lets everything pass, for directives without a level. -/
def unlimited : Nat := 5

/-- The verbosity after an equals sign; nothing there lets everything pass. -/
def limitAfter? (cs : List Char) : Option Nat := if cs = [] then some unlimited else limit? cs

/-- What a word alone says: a level for everything, or a target. -/
def ofWord (cs : List Char) : Directive :=
  match limit? cs with
  | some limit => .events ⟨[], none, limit⟩
  | none => .events ⟨cs, none, unlimited⟩

/-- Whether a target may start with a character. -/
def startsTarget (c : Char) : Bool := c == '-' || c == ':' || c == '_' || Text.isAlphanumeric c

/-- What a directive says about a field. -/
structure FieldDemand where
  name : List Char
  /-- Whether there is a pattern for its value. -/
  valued : Bool
deriving DecidableEq, Inhabited, Repr

/-- Reads what stands in braces: a name, and behind an equals sign a pattern, which has to be readable.
Any text but the empty one may be a name. -/
def FieldDemand.parse? (cs : List Char) : Option FieldDemand :=
  if cs = [] then none
  else match Text.split '=' cs with
    | name :: value :: _ => if ValuePattern.isReadable value then some ⟨name, true⟩ else none
    | _ => some ⟨cs, false⟩

/-! ## Reading -/

/-- What is being read, with the position where it began. -/
inductive Stage where
  | start
  | word (first : Nat)
  | span (first : Nat)
  | field (first : Nat)
  | behindFields
  | behindSpan
  | level (first : Nat)
deriving DecidableEq, Inhabited, Repr

/-- How far a directive has been read. -/
structure Reading where
  stage : Stage
  target : List Char
  /-- The name of the field, if there was one. -/
  field : Option (List Char)
  /-- Whether there was the name of a span or a pattern for a value. -/
  inSpan : Bool
deriving DecidableEq, Inhabited, Repr

namespace Reading

/-- Nothing read yet. -/
def initial : Reading := ⟨.start, [], none, false⟩

/-- Reads the character at a position; the words are taken from `text`. Brackets without braces name a
span, even if nothing stands in them; behind an opening brace nothing is no name. -/
def step? (text : List Char) (position : Nat) (r : Reading) (c : Char) : Option Reading :=
  match r.stage with
  | .start =>
    if c = '[' then some { r with stage := .span (position + 1) }
    else if startsTarget c then some { r with stage := .word position }
    else none
  | .word first =>
    if c = '=' then
      (Text.sliceBytes? first position text).map ({ r with stage := .level (position + 1), target := · })
    else if c = '[' then
      (Text.sliceBytes? first position text).map ({ r with stage := .span (position + 1), target := · })
    else some r
  | .span first =>
    if c = ']' then
      (Text.sliceBytes? first position text).map fun _ => { r with stage := .behindSpan, inSpan := true }
    else if c = '{' then
      (Text.sliceBytes? first position text).map fun name =>
        { r with stage := .field (position + 1), inSpan := name != [] }
    else some r
  | .field first =>
    if c = '}' then do
      let demand ← FieldDemand.parse? (← Text.sliceBytes? first position text)
      pure { r with
        stage := .behindFields, field := some demand.name, inSpan := r.inSpan || demand.valued }
    else some r
  | .behindFields => if c = ']' then some { r with stage := .behindSpan } else none
  | .behindSpan => if c = '=' then some { r with stage := .level (position + 1) } else none
  | .level _ => some r

/-- Reads characters that begin at a position. -/
def run? (text : List Char) (position : Nat) (r : Reading) : List Char → Option Reading
  | [] => some r
  | c :: cs => (r.step? text position c).bind fun r => run? text (position + c.utf8Size) r cs

/-- The directive that has been read, with a limit. -/
def withLimit (r : Reading) (limit : Nat) : Directive :=
  if r.inSpan then .inSpan else .events ⟨r.target, r.field, limit⟩

/-- The directive that has been read, if it is complete. -/
def directive? (text : List Char) (r : Reading) : Option Directive :=
  match r.stage with
  | .word first => (Text.dropBytes? first text).map ofWord
  | .behindSpan => some (r.withLimit unlimited)
  | .level first => do
    let limit ← limitAfter? (← Text.dropBytes? first text)
    pure (r.withLimit limit)
  | _ => none

end Reading

/-- Reads one directive. -/
def parse? (text : List Char) : Option Directive :=
  (Reading.initial.run? text 0 (Text.trim (String.ofList text)).toList).bind (Reading.directive? text)

end Directive

end AspectWeaver

import AspectWeaver.Logging.ValuePattern.Brackets
import AspectWeaver.Text.Letters

/-!
# Patterns for values

A directive of a log filter may ask for the value of a field, by a number or by a regular expression that
the whole value has to match. Such a directive concerns spans alone, so what the pattern matches does not
matter here, but a pattern that cannot be read spoils the filter. `ValuePattern.isReadable` tells which
ones can be read: those whose parts are well formed, and which are not higher than `heightLimit`.

The text of a pattern has no comma, equals sign or closing brace in it, since a directive ends its values
there. So everything that needs a closing brace is refused: counted repetitions, and the forms of an
escape with braces.
-/

set_option autoImplicit false

namespace AspectWeaver.ValuePattern

/-! ## Groups -/

/-- Whether letters are flags: each known, none twice, and the sign of negation not at the end. -/
def areFlags (cs : List Char) : Bool :=
  cs.all (fun c => "imsUuRx-".contains c) && cs.eraseDups.length == cs.length &&
    cs.getLast? != some '-'

/-- What flags say about one of them: on, off, or nothing. -/
def flag? (f : Char) (flags : List Char) : Option Bool :=
  if (flags.takeWhile (· != '-')).contains f then some true
  else if flags.contains f then some false
  else none

/-- The modes after flags. -/
def Modes.change (m : Modes) (flags : List Char) : Modes where
  unicode := (flag? 'u' flags).getD m.unicode
  spaced := (flag? 'x' flags).getD m.spaced

/-- Whether a text can name a group. -/
def isGroupName : List Char → Bool
  | [] => false
  | c :: cs =>
    (c == '_' || Text.isLetter c) &&
      cs.all fun c => c == '_' || c == '.' || c == '[' || c == ']' || Text.isAlphanumeric c

/-- How far a pattern has been read. -/
structure Progress where
  modes : Modes
  /-- What has been read of the innermost open group. -/
  body : Body
  /-- The modes outside of each open group and what has been read there, the innermost first. -/
  outside : List (Modes × Body)
  /-- The names of groups so far. -/
  names : List (List Char)
  /-- Whether there is something to repeat. -/
  repeatable : Bool
deriving DecidableEq, Inhabited, Repr

namespace Progress

/-- Nothing read yet. -/
def initial : Progress := ⟨.initial, .empty, [], [], false⟩

/-- After a part of a height, which can be repeated. -/
def afterPart (p : Progress) (height : Nat) : Progress :=
  { p with body := p.body.add height, repeatable := true }

/-- Opens a group that is read in the given modes. -/
def openGroup (p : Progress) (modes : Modes) : Progress :=
  { p with modes, body := .empty, outside := (p.modes, p.body) :: p.outside, repeatable := false }

/-- Reads the name of a group up to the bracket behind it. -/
def openNamed? (p : Progress) (cs : List Char) : Option (Progress × List Char) :=
  let name := cs.takeWhile (· != '>')
  match cs.dropWhile (· != '>') with
  | [] => none
  | _ :: rest =>
    if isGroupName name && !p.names.contains name then
      some ({ p.openGroup p.modes with names := name :: p.names }, rest)
    else none

/-- Reads flags, for a group or for what follows. -/
def openFlagged? (p : Progress) (cs : List Char) : Option (Progress × List Char) :=
  let flags := cs.takeWhile fun c => c != ':' && c != ')'
  if !areFlags flags then none
  else match cs.dropWhile fun c => c != ':' && c != ')' with
    | ':' :: rest => some (p.openGroup (p.modes.change flags), rest)
    | ')' :: rest =>
      if flags = [] then none
      else
        some ({ p with modes := p.modes.change flags, body := p.body.add 0, repeatable := false }, rest)
    | _ => none

/-- Reads what stands behind an opening parenthesis; looking ahead or behind is refused. -/
def open? (p : Progress) (cs : List Char) : Option (Progress × List Char) :=
  match p.modes.skip cs with
  | '?' :: '!' :: _ => none
  | '?' :: '<' :: '!' :: _ => none
  | '?' :: 'P' :: '<' :: rest => p.openNamed? rest
  | '?' :: '<' :: rest => p.openNamed? rest
  | '?' :: rest => p.openFlagged? rest
  | rest => some (p.openGroup p.modes, rest)

/-- Closes the innermost group. -/
def close? (p : Progress) : Option Progress :=
  match p.outside with
  | [] => none
  | (modes, body) :: outside => some ({ p with modes, body, outside }.afterPart (1 + p.body.height))

/-- Reads a part outside of brackets. -/
def part? (p : Progress) (part : Option (Part × List Char)) : Option (Progress × List Char) := do
  let (part, rest) ← part
  if part.fits p.modes then some (p.afterPart 0, rest) else none

/-- Reads what begins with a character. -/
def step? (p : Progress) (c : Char) (rest : List Char) : Option (Progress × List Char) :=
  match c with
  | '(' => p.open? rest
  | ')' => p.close?.map (·, rest)
  | '|' => some ({ p with body := p.body.branch, repeatable := false }, rest)
  | '[' => (set? p.modes rest).map fun (height, behind) => (p.afterPart height, behind)
  | '?' | '*' | '+' =>
    if p.repeatable then
      some ({ p with body := p.body.repeatLast }, if rest.head? = some '?' then rest.drop 1 else rest)
    else none
  | '{' => none
  | '\\' => p.part? (escape? p.modes rest)
  | '.' => p.part? (some (.any, rest))
  | '^' | '$' => p.part? (some (.edge false, rest))
  | c => p.part? (some (.literal c false, rest))

/-- Whether all can be read to the end and is not too high. Every step reads a character, so their
number bounds the steps. -/
def finishes : Nat → Progress → List Char → Bool
  | 0, _, _ => false
  | steps + 1, p, cs =>
    match p.modes.skip cs with
    | [] => p.outside.isEmpty && p.body.height ≤ heightLimit
    | c :: rest =>
      match p.step? c rest with
      | none => false
      | some (p, rest) => finishes steps p rest

end Progress

/-- Whether a text is a regular expression. -/
def isExpression (cs : List Char) : Bool := Progress.initial.finishes (cs.length + 1) cs

/-! ## Numbers -/

/-- Whether a text is empty or an exponent of ten. -/
def isExponent : List Char → Bool
  | [] => true
  | e :: rest =>
    let digits := match rest with
      | '+' :: digits => digits
      | '-' :: digits => digits
      | digits => digits
    e.toLower == 'e' && digits != [] && digits.all Char.isDigit

/-- Whether a text is a number without a sign: a word for one, or digits with a point and an exponent. -/
def isUnsigned (cs : List Char) : Bool :=
  let whole := cs.takeWhile Char.isDigit
  let (fraction, rest) := match cs.dropWhile Char.isDigit with
    | '.' :: rest => (rest.takeWhile Char.isDigit, rest.dropWhile Char.isDigit)
    | rest => ([], rest)
  ["inf", "infinity", "nan"].contains (String.ofList (cs.map Char.toLower)) ||
    ((whole != [] || fraction != []) && isExponent rest)

/-- Whether a text is a number. -/
def isNumber : List Char → Bool
  | '+' :: rest => isUnsigned rest
  | '-' :: rest => isUnsigned rest
  | cs => isUnsigned cs

/-- Whether a pattern for values can be read. -/
def isReadable (cs : List Char) : Bool := isNumber cs || isExpression cs

end AspectWeaver.ValuePattern

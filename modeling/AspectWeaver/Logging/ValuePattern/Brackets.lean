import AspectWeaver.Logging.ValuePattern.Height
import AspectWeaver.Logging.ValuePattern.Part

/-!
# Sets of characters in patterns for values

A set stands in brackets: characters, ranges, named sets and other sets, with operators between them.
`set?` reads one, and tells how high it is.
-/

set_option autoImplicit false

namespace AspectWeaver.ValuePattern

/-- The names of sets of basic characters, as in `[:alpha:]`. -/
def setNames : List String :=
  ["alnum", "alpha", "ascii", "blank", "cntrl", "digit", "graph", "lower", "print", "punct", "space",
    "upper", "word", "xdigit"]

/-- Reads a named set behind its opening bracket, and tells whether it stands for all other characters. -/
def namedSet? : List Char → Option (Bool × List Char)
  | ':' :: rest =>
    let complement := rest.head? == some '^'
    let word := if complement then rest.drop 1 else rest
    match word.dropWhile (· != ':') with
    | ':' :: ']' :: behind =>
      if setNames.contains (String.ofList (word.takeWhile (· != ':'))) then some (complement, behind)
      else none
    | _ => none
  | _ => none

/-- Reads one character in brackets, or an escape. -/
def member? (m : Modes) : List Char → Option (Part × List Char)
  | [] => none
  | '\\' :: rest => escape? m rest
  | c :: rest => some (.literal c false, rest)

/-- Whether two parts are the ends of a range. -/
def isRange (m : Modes) : Part → Part → Bool
  | .literal c asByte, .literal d asByte' =>
    c ≤ d && (Part.literal c asByte).fitsBrackets m && (Part.literal d asByte').fitsBrackets m
  | _, _ => false

/-- Reads a member of a set, or a range of them. -/
def members? (m : Modes) (cs : List Char) : Option (List Char) := do
  let (first, rest) ← member? m cs
  let single := if first.fitsBrackets m then some (m.skip rest) else none
  match m.skip rest with
  | '-' :: behind =>
    if m.ahead? behind = some ']' ∨ m.ahead? behind = some '-' then single
    else do
      let (last, rest) ← member? m (m.skip behind)
      if isRange m first last then some rest else none
  | _ => single

/-- Where in brackets something stands: right behind the opening bracket, behind hyphens there, or
further on. -/
inductive Place where
  | first | afterHyphen | inside
deriving DecidableEq, Inhabited, Repr

/-- Reads the sign for all other characters, if it stands behind an opening bracket. -/
def opening? (m : Modes) (cs : List Char) : Option (List Char) :=
  match m.skip cs with
  | '^' :: rest => if m.unicode then some rest else none
  | rest => some rest

/-- A set whose closing bracket has not been read. -/
structure OpenSet where
  /-- The height of all before the last operator, if there is one. -/
  left : Option Nat
  /-- The heights of the members behind it, the last one first. -/
  members : List Nat
deriving DecidableEq, Inhabited, Repr

namespace OpenSet

/-- Nothing read yet. -/
def empty : OpenSet := ⟨none, []⟩

/-- Behind one more member. -/
def add (s : OpenSet) (height : Nat) : OpenSet := { s with members := height :: s.members }

/-- The height of what has been read; an operator is one level above its two sides. -/
def height (s : OpenSet) : Nat :=
  match s.left with
  | none => rowHeight s.members
  | some left => 1 + max left (rowHeight s.members)

/-- Behind an operator. -/
def operate (s : OpenSet) : OpenSet := ⟨some s.height, []⟩

end OpenSet

/-- Reads to the bracket that closes the outermost set, and gives the height of that set. `s` is the
innermost set, `outer` are those around it, the nearest first. Every step reads a character, so their
number bounds the steps. -/
def brackets? (m : Modes) : Nat → OpenSet → List OpenSet → Place → List Char → Option (Nat × List Char)
  | 0, _, _, _, _ => none
  | steps + 1, s, outer, place, cs =>
    match m.skip cs with
    | [] => none
    | c :: rest =>
      if c = '-' ∧ place ≠ .inside then brackets? m steps (s.add 0) outer .afterHyphen rest
      else if c = ']' ∧ place = .first then brackets? m steps (s.add 0) outer .inside rest
      else if c = ']' then
        match outer with
        | [] => some (1 + s.height, rest)
        | around :: outer => brackets? m steps (around.add (1 + s.height)) outer .inside rest
      else if c = '[' then
        match namedSet? rest with
        | some (complement, behind) =>
          if m.unicode || !complement then brackets? m steps (s.add 0) outer .inside behind else none
        | none => (opening? m rest).bind fun behind => brackets? m steps .empty (s :: outer) .first behind
      else if (c = '&' ∨ c = '-' ∨ c = '~') ∧ rest.head? = some c then
        brackets? m steps s.operate outer .inside (rest.drop 1)
      else
        (members? m (c :: rest)).bind fun behind => brackets? m steps (s.add 0) outer .inside behind

/-- Reads a set behind its opening bracket, and gives its height. -/
def set? (m : Modes) (cs : List Char) : Option (Nat × List Char) :=
  (opening? m cs).bind fun rest => brackets? m (rest.length + 1) .empty [] .first rest

end AspectWeaver.ValuePattern

/-!
# Heights of patterns for values

A pattern can be read only if its groups, repetitions, sets and alternatives are not nested too deep. The
height of a part is the number of levels in it: single characters have none, a group, a repetition or a
set is one level above what it holds, and so is a row of several parts. `rowHeight` measures a row, and
`Body` what is known of a group while its end has not been read.
-/

set_option autoImplicit false

namespace AspectWeaver.ValuePattern

/-- The greatest height of a pattern that can be read. -/
def heightLimit : Nat := 250

/-- The height of a row of parts with the given heights; one part alone is no level of its own. -/
def rowHeight : List Nat → Nat
  | [] => 0
  | [height] => height
  | heights => 1 + heights.max?.getD 0

/-- What has been read of a group, or of a whole pattern: branches with bars between them. -/
structure Body where
  /-- The heights of the branches before the last bar. -/
  branches : List Nat
  /-- The heights of the parts behind the last bar, the last part first. -/
  row : List Nat
deriving DecidableEq, Inhabited, Repr

namespace Body

/-- Nothing read yet. -/
def empty : Body := ⟨[], []⟩

/-- Behind one more part. -/
def add (b : Body) (height : Nat) : Body := { b with row := height :: b.row }

/-- Behind a bar. -/
def branch (b : Body) : Body := ⟨rowHeight b.row :: b.branches, []⟩

/-- With a repetition in place of the last part. -/
def repeatLast (b : Body) : Body :=
  match b.row with
  | [] => b
  | height :: others => { b with row := (height + 1) :: others }

/-- The height of what has been read. -/
def height (b : Body) : Nat := rowHeight (rowHeight b.row :: b.branches)

end Body

end AspectWeaver.ValuePattern

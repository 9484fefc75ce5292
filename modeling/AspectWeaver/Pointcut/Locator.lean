import AspectWeaver.Text.Segments

/-!
# Where a selector looks for types

A selector whose last type segment holds no `*` names one type. Any other selector looks through one
namespace: the segments before the wildcards at the end. Several wildcard segments at the end mean the
same as one of them (`collapseWildcards`).
-/

set_option autoImplicit false

namespace AspectWeaver

/-- Where the candidate types of a selector are. -/
inductive TypeLocator where
  /-- The type of this full name. -/
  | named (name : String)
  /-- The types directly inside this namespace. -/
  | inNamespace (name : String)
deriving DecidableEq, Inhabited, Repr

namespace TypeLocator

/-- The segment that stands for any segment. -/
def wildcard : List Char := ['*']

/-- Leaves one of the wildcard segments that stand at the front of a reversed name. -/
def collapseReversed : List (List Char) → List (List Char)
  | first :: second :: rest =>
    if first = wildcard ∧ second = wildcard then collapseReversed (second :: rest)
    else first :: second :: rest
  | few => few

/-- Leaves one of the wildcard segments at the end of a type name. -/
def collapseWildcards (segments : List (List Char)) : List (List Char) :=
  (collapseReversed segments.reverse).reverse

/-- Drops the wildcard segments at the front of a reversed name, but not the last segment left. -/
def dropReversed : List (List Char) → List (List Char)
  | first :: second :: rest =>
    if first = wildcard then dropReversed (second :: rest) else first :: second :: rest
  | few => few

/-- The segments of the namespace that a type name with a wildcard in its last segment looks through,
reversed. -/
def namespaceReversed (reversed : List (List Char)) : List (List Char) :=
  match dropReversed reversed with
  | [] => []
  | last :: rest => if last.contains '*' then rest else last :: rest

/-- Where the types of a selector with these type segments are. -/
def ofSegments (segments : List (List Char)) : TypeLocator :=
  if (segments.getLastD []).contains '*' then
    .inNamespace (Text.dotted (namespaceReversed segments.reverse).reverse)
  else .named (Text.dotted segments)

end TypeLocator

end AspectWeaver

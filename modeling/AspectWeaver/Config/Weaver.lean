import AspectWeaver.Text.Segments

/-!
# Weaver configuration

Which namespaces are never woven, and how talkative and how eager the weaver is. A namespace excludes
the type of its own name and everything below: the name of the type must go on with a dot, so that
`a.b` excludes `a.b.C` but not `a.bc.D`.
-/

set_option autoImplicit false

namespace AspectWeaver

/-- How a weaver behaves. -/
structure WeaverConfig where
  /-- The namespaces whose types are never woven. -/
  excludedNamespaces : List String := ["tapestry"]
  /-- Whether a selector that selects nothing is worth a warning. -/
  warnUnmatchedSelectors : Bool := true
  /-- Whether the types and aspects of the inventory are loaded when the weaver is made. -/
  autoLoad : Bool := true
deriving DecidableEq, Inhabited, Repr

namespace WeaverConfig

/-- What follows a beginning of a text, if it is one. -/
def stripStart : List Char → List Char → Option (List Char)
  | [], text => some text
  | c :: start, x :: text => if c = x then stripStart start text else none
  | _ :: _, [] => none

/-- A start is taken off exactly the texts that begin with it, and what follows it remains. -/
theorem stripStart_eq_some_iff {start text rest : List Char} :
    stripStart start text = some rest ↔ text = start ++ rest := by
  induction start generalizing text with
  | nil => simp [stripStart]
  | cons c start ih =>
    cases text with
    | nil => simp [stripStart]
    | cons x text =>
      rw [stripStart, List.cons_append, List.cons.injEq]
      split
      next hsame => rw [ih, hsame, and_iff_right rfl]
      next hother => simp [Ne.symm hother]

/-- Whether a namespace covers a type: after the namespace the name of the type ends or goes on with a
dot. -/
def covers (excluded typeName : List Char) : Bool :=
  match stripStart excluded typeName with
  | some [] => true
  | some (c :: _) => c == '.'
  | none => false

/-- A namespace covers its own name and what stands below it behind a dot. -/
theorem covers_iff {excluded typeName : List Char} :
    covers excluded typeName = true ↔ typeName = excluded ∨ ∃ below, typeName = excluded ++ '.' :: below := by
  constructor
  · intro h
    rw [covers] at h
    split at h
    next hrest =>
      left
      rw [stripStart_eq_some_iff.mp hrest, List.append_nil]
    next c below hrest =>
      right
      rw [eq_of_beq h] at hrest
      exact ⟨below, stripStart_eq_some_iff.mp hrest⟩
    next => cases h
  · rintro (rfl | ⟨below, rfl⟩)
    · rw [covers, stripStart_eq_some_iff.mpr (List.append_nil _).symm]
    · rw [covers, stripStart_eq_some_iff.mpr rfl]
      rfl

/-- Whether a type must not be woven. -/
def isExcluded (c : WeaverConfig) (typeName : String) : Bool :=
  c.excludedNamespaces.any fun excluded => covers excluded.toList typeName.toList

end WeaverConfig

end AspectWeaver

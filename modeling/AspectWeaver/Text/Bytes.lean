/-!
# Positions counted in bytes

A text can be cut at a position that counts the bytes of its characters in UTF-8. A position inside a
character, or behind the end, cuts nothing off and gives `none`.
-/

set_option autoImplicit false

namespace AspectWeaver.Text

/-- What remains of a text behind its first `n` bytes. -/
def dropBytes? (n : Nat) : List Char → Option (List Char)
  | [] => if n = 0 then some [] else none
  | c :: cs =>
    if n = 0 then some (c :: cs)
    else if c.utf8Size ≤ n then dropBytes? (n - c.utf8Size) cs
    else none

/-- The first `n` bytes of a text. -/
def takeBytes? (n : Nat) : List Char → Option (List Char)
  | [] => if n = 0 then some [] else none
  | c :: cs =>
    if n = 0 then some []
    else if c.utf8Size ≤ n then (takeBytes? (n - c.utf8Size) cs).map (c :: ·)
    else none

/-- The bytes of a text from position `first` to before position `last`. -/
def sliceBytes? (first last : Nat) (cs : List Char) : Option (List Char) := do
  takeBytes? (last - first) (← dropBytes? first cs)

/-- The number of bytes of a text. -/
def byteLength : List Char → Nat
  | [] => 0
  | c :: cs => c.utf8Size + byteLength cs

/-- The empty text has no bytes. -/
@[simp] theorem byteLength_nil : byteLength [] = 0 := rfl

/-- A text has the bytes of its first character and those of the rest. -/
@[simp] theorem byteLength_cons (c : Char) (cs : List Char) :
    byteLength (c :: cs) = c.utf8Size + byteLength cs := rfl

/-- Two texts, one behind the other, have the bytes of both. -/
@[simp] theorem byteLength_append (front rest : List Char) :
    byteLength (front ++ rest) = byteLength front + byteLength rest := by
  induction front with
  | nil => simp
  | cons c front ih => rw [List.cons_append, byteLength_cons, byteLength_cons, ih, Nat.add_assoc]

/-- Dropping as many bytes as the front has leaves the rest. -/
theorem dropBytes?_append (front rest : List Char) :
    dropBytes? (byteLength front) (front ++ rest) = some rest := by
  induction front with
  | nil => cases rest <;> simp [dropBytes?]
  | cons c front ih =>
    have hpos := c.utf8Size_pos
    have hne : c.utf8Size + byteLength front ≠ 0 := by omega
    rw [List.cons_append, byteLength_cons, dropBytes?, if_neg hne, if_pos (Nat.le_add_right _ _),
      Nat.add_sub_cancel_left, ih]

/-- Taking as many bytes as the front has gives the front. -/
theorem takeBytes?_append (front rest : List Char) :
    takeBytes? (byteLength front) (front ++ rest) = some front := by
  induction front with
  | nil => cases rest <;> simp [takeBytes?]
  | cons c front ih =>
    have hpos := c.utf8Size_pos
    have hne : c.utf8Size + byteLength front ≠ 0 := by omega
    rw [List.cons_append, byteLength_cons, takeBytes?, if_neg hne, if_pos (Nat.le_add_right _ _),
      Nat.add_sub_cancel_left, ih, Option.map_some]

end AspectWeaver.Text

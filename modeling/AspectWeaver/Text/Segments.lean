/-!
# Segments

A dotted name is the list of its segments joined by dots. `split` cuts a text at every separator, so
it has one piece more than the text has separators, and `join` puts the pieces together again
(`join_split`). The namespace of a dotted name is all of it before the last dot.
-/

set_option autoImplicit false

namespace AspectWeaver.Text

/-- The pieces between the separators of a text; a text without a separator is one piece. -/
def split (sep : Char) : List Char → List (List Char)
  | [] => [[]]
  | c :: cs =>
    if c = sep then [] :: split sep cs
    else match split sep cs with
      | [] => [[c]]
      | piece :: pieces => (c :: piece) :: pieces

/-- The pieces with a separator between each two of them. -/
def join (sep : Char) : List (List Char) → List Char
  | [] => []
  | [piece] => piece
  | piece :: next :: pieces => piece ++ sep :: join sep (next :: pieces)

/-- A text has at least one piece. -/
theorem split_ne_nil (sep : Char) (cs : List Char) : split sep cs ≠ [] := by
  cases cs with
  | nil => simp [split]
  | cons c cs =>
    simp only [split]
    split
    · simp
    · split <;> simp

/-- Joining the pieces of a text gives the text back. -/
@[simp] theorem join_split (sep : Char) (cs : List Char) : join sep (split sep cs) = cs := by
  induction cs with
  | nil => rfl
  | cons c cs ih =>
    simp only [split]
    split
    next h =>
      subst h
      cases hs : split c cs with
      | nil => exact absurd hs (split_ne_nil _ _)
      | cons piece pieces => rw [hs] at ih; simp [join, ih]
    next h =>
      cases hs : split sep cs with
      | nil => exact absurd hs (split_ne_nil _ _)
      | cons piece pieces =>
        rw [hs] at ih
        cases pieces with
        | nil => simpa [join] using ih
        | cons next rest => simpa [join] using ih

/-- No piece holds the separator. -/
theorem not_mem_of_mem_split {sep : Char} {cs piece : List Char} (h : piece ∈ split sep cs) :
    sep ∉ piece := by
  induction cs generalizing piece with
  | nil =>
    rw [split, List.mem_singleton] at h
    simp [h]
  | cons c cs ih =>
    simp only [split] at h
    split at h
    next =>
      rcases List.mem_cons.mp h with rfl | h
      · simp
      · exact ih h
    next hc =>
      cases hs : split sep cs with
      | nil => exact absurd hs (split_ne_nil _ _)
      | cons first pieces =>
        rw [hs] at h ih
        rcases List.mem_cons.mp h with rfl | h
        · have hfirst : sep ∉ first := ih List.mem_cons_self
          simp [hfirst, Ne.symm hc]
        · exact ih (List.mem_cons_of_mem _ h)

/-- A text without the separator is one piece. -/
theorem split_of_not_mem {sep : Char} {cs : List Char} (h : sep ∉ cs) : split sep cs = [cs] := by
  induction cs with
  | nil => rfl
  | cons c cs ih =>
    obtain ⟨hc, hcs⟩ := not_or.mp (mt List.mem_cons.mpr h)
    rw [split, if_neg (Ne.symm hc), ih hcs]

/-- A separator cuts where it stands, whatever is in front of it and behind it. -/
theorem split_append_sep (sep : Char) (front rest : List Char) :
    split sep (front ++ sep :: rest) = split sep front ++ split sep rest := by
  induction front with
  | nil => simp [split]
  | cons c front ih =>
    rw [List.cons_append, split, split, ih]
    split
    next => rfl
    next =>
      obtain ⟨piece, pieces, hpieces⟩ := List.exists_cons_of_ne_nil (split_ne_nil sep front)
      rw [hpieces]
      rfl

/-- The first piece ends at the first separator. -/
theorem split_append_cons {sep : Char} {piece : List Char} (h : sep ∉ piece) (rest : List Char) :
    split sep (piece ++ sep :: rest) = piece :: split sep rest := by
  rw [split_append_sep, split_of_not_mem h, List.singleton_append]

/-- Pieces without the separator are the pieces of their joined text. -/
theorem split_join {sep : Char} {pieces : List (List Char)} (hne : pieces ≠ [])
    (h : ∀ piece ∈ pieces, sep ∉ piece) : split sep (join sep pieces) = pieces := by
  induction pieces with
  | nil => exact absurd rfl hne
  | cons piece pieces ih =>
    have hpiece : sep ∉ piece := h piece List.mem_cons_self
    cases pieces with
    | nil => exact split_of_not_mem hpiece
    | cons next rest =>
      have hrest := ih (List.cons_ne_nil next rest) fun x hx => h x (List.mem_cons_of_mem piece hx)
      rw [join, split_append_cons hpiece, hrest]

/-- Pieces without the separator, of which there is at least one, are read back from the text that joins them. -/
theorem split_join_concat {sep : Char} {pieces : List (List Char)} {last : List Char}
    (h : ∀ piece ∈ pieces, sep ∉ piece) (hlast : sep ∉ last) :
    split sep (join sep (pieces ++ [last])) = pieces ++ [last] := by
  apply split_join (List.append_ne_nil_of_right_ne_nil _ (List.cons_ne_nil _ _))
  intro piece hpiece
  rcases List.mem_append.mp hpiece with hpiece | hpiece
  · exact h piece hpiece
  · rwa [List.mem_singleton.mp hpiece]

/-- Two rows of pieces are joined with one separator between them. -/
theorem join_append {sep : Char} {front rest : List (List Char)} (hfront : front ≠ []) (hrest : rest ≠ []) :
    join sep (front ++ rest) = join sep front ++ sep :: join sep rest := by
  induction front with
  | nil => exact absurd rfl hfront
  | cons piece front ih =>
    cases front with
    | nil =>
      obtain ⟨next, later, rfl⟩ := List.exists_cons_of_ne_nil hrest
      rfl
    | cons second front =>
      have htail := ih (List.cons_ne_nil second front)
      rw [List.cons_append] at htail
      rw [List.cons_append, List.cons_append, join, htail, join, List.append_assoc, List.cons_append]

/-- A last piece is joined behind one more separator. -/
theorem join_concat {sep : Char} {pieces : List (List Char)} (hne : pieces ≠ []) (last : List Char) :
    join sep (pieces ++ [last]) = join sep pieces ++ sep :: last :=
  join_append hne (List.cons_ne_nil last [])

/-- The pieces of one text are the first pieces of another exactly if the other is the same text or goes on with a
separator behind it. -/
theorem split_prefix_split_iff {sep : Char} {front text : List Char} :
    split sep front <+: split sep text ↔ text = front ∨ ∃ rest, text = front ++ sep :: rest := by
  constructor
  · rintro ⟨pieces, hpieces⟩
    have htext : text = join sep (split sep front ++ pieces) := by rw [hpieces, join_split]
    by_cases hnone : pieces = []
    · left
      rw [htext, hnone, List.append_nil, join_split]
    · right
      refine ⟨join sep pieces, ?_⟩
      rw [htext, join_append (split_ne_nil sep front) hnone, join_split]
  · rintro (rfl | ⟨rest, rfl⟩)
    · exact List.prefix_refl _
    · rw [split_append_sep]
      exact List.prefix_append _ _

/-- Each character of a piece is in the text that joins the pieces. -/
theorem mem_join_of_mem {sep : Char} {pieces : List (List Char)} {piece : List Char} {c : Char}
    (hpiece : piece ∈ pieces) (hc : c ∈ piece) : c ∈ join sep pieces := by
  induction pieces with
  | nil => cases hpiece
  | cons first pieces ih =>
    cases pieces with
    | nil => rwa [join, ← List.mem_singleton.mp hpiece]
    | cons next rest =>
      rw [join, List.mem_append]
      rcases List.mem_cons.mp hpiece with rfl | hpiece
      · exact Or.inl hc
      · exact Or.inr (List.mem_cons_of_mem sep (ih hpiece))

/-- Each character of the text that joins pieces is a separator or comes from a piece. -/
theorem of_mem_join {sep : Char} {pieces : List (List Char)} {c : Char} (h : c ∈ join sep pieces) :
    c = sep ∨ ∃ piece ∈ pieces, c ∈ piece := by
  induction pieces with
  | nil => cases h
  | cons first pieces ih =>
    cases pieces with
    | nil => exact Or.inr ⟨first, List.mem_cons_self, h⟩
    | cons next rest =>
      rw [join, List.mem_append, List.mem_cons] at h
      rcases h with h | rfl | h
      · exact Or.inr ⟨first, List.mem_cons_self, h⟩
      · exact Or.inl rfl
      · obtain hsep | ⟨piece, hpiece, hc⟩ := ih h
        · exact Or.inl hsep
        · exact Or.inr ⟨piece, List.mem_cons_of_mem first hpiece, hc⟩

/-- At least one piece, and characters in each, make a text with characters in it. -/
theorem join_ne_nil {sep : Char} {pieces : List (List Char)} (hne : pieces ≠ []) (h : ∀ x ∈ pieces, x ≠ []) :
    join sep pieces ≠ [] := by
  obtain ⟨first, rest, rfl⟩ := List.exists_cons_of_ne_nil hne
  obtain ⟨c, cs, rfl⟩ := List.exists_cons_of_ne_nil (h first List.mem_cons_self)
  have hmem : c ∈ join sep ((c :: cs) :: rest) := mem_join_of_mem List.mem_cons_self List.mem_cons_self
  exact List.ne_nil_of_mem hmem

/-- Joining pieces is putting the separator between them. -/
theorem join_eq_intercalate (sep : Char) (pieces : List (List Char)) :
    join sep pieces = [sep].intercalate pieces := by
  induction pieces with
  | nil => rfl
  | cons piece pieces ih =>
    cases pieces with
    | nil => simp [join]
    | cons next rest => simp [join, ih, List.intercalate_cons_cons]

/-- Texts with a comma between each two of them, character by character. -/
theorem toList_intercalate_comma (pieces : List String) :
    (",".intercalate pieces).toList = join ',' (pieces.map String.toList) := by
  rw [String.toList_intercalate, join_eq_intercalate]
  rfl

/-- The segments of a dotted name. -/
def segments (name : String) : List (List Char) := split '.' name.toList

/-- A name behind another one with a dot between has the segments of both. -/
theorem segments_append_dot (front rest : String) :
    segments (front ++ "." ++ rest) = segments front ++ segments rest := by
  have htext : (front ++ "." ++ rest).toList = front.toList ++ '.' :: rest.toList := by
    simp [String.toList_append]
  rw [segments, htext, split_append_sep, segments, segments]

/-- The dotted name with the given segments. -/
def dotted (pieces : List (List Char)) : String := String.ofList (join '.' pieces)

/-- What stands before the last dot of a dotted name; the empty text if there is no dot. -/
def namespaceOf (name : String) : String := dotted (segments name).dropLast

end AspectWeaver.Text

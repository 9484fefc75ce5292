import AspectWeaver.Regex.Expression

/-!
# Searching for an expression

`Expression.search` decides where an expression is found in a text. For every end of the text it keeps whether the
rest of the expression is found there (`Expression.row`), so its work is the product of the two lengths. A row says
what the rules say (`found_iff`), and the search finds what they find (`search_iff`).
-/

set_option autoImplicit false

namespace AspectWeaver

/-- Decides whether an atom stands for a character. -/
def Atom.takes : Atom → Char → Bool
  | .char c, x => x == c
  | .any, x => x != '\n'

/-- An atom takes the characters that it stands for. -/
theorem Atom.takes_iff (a : Atom) (x : Char) : a.takes x = true ↔ a.standsFor x := by
  cases a with
  | char c => exact beq_iff_eq
  | any => exact bne_iff_ne

namespace Expression

/-- The row of an expression that asks for the beginning of the text, from the row of the rest: `first` tells
whether the longest end is the whole text. -/
def startRow (first : Bool) : List Bool → List Bool
  | here :: later => (first && here) :: later.map fun _ => false
  | [] => []

/-- The row of an expression that asks for the end of the text, from the row of the rest. -/
def stopRow : List Char → List Bool → List Bool
  | _ :: xs, _ :: row => false :: stopRow xs row
  | _, row => [row.headD false]

/-- The row of an expression that asks for one character, from the row of the rest. -/
def onceRow (a : Atom) : List Char → List Bool → List Bool
  | x :: xs, _ :: row => (a.takes x && row.headD false) :: onceRow a xs row
  | _, _ => [false]

/-- The row of an expression that asks for any number of characters, from the row of the rest. -/
def manyRow (a : Atom) : List Char → List Bool → List Bool
  | x :: xs, here :: row =>
    let later := manyRow a xs row
    (here || (a.takes x && later.headD false)) :: later
  | _, row => [row.headD false]

/-- For every end of a text, the longest first, whether an expression is found at its beginning: `first` tells
whether the longest end is the whole text. -/
def row : Expression → Bool → List Char → List Bool
  | [], _, xs => true :: xs.map fun _ => true
  | .start :: e, first, xs => startRow first (row e first xs)
  | .stop :: e, first, xs => stopRow xs (row e first xs)
  | .once a :: e, first, xs => onceRow a xs (row e first xs)
  | .many a :: e, first, xs => manyRow a xs (row e first xs)

/-- Whether an expression is found at the beginning of a text or of its end. -/
def found (e : Expression) (first : Bool) (xs : List Char) : Bool := (row e first xs).headD false

/-- Whether an expression is found somewhere in a text. -/
def search (e : Expression) (text : List Char) : Bool := (row e true text).any id

/-! ## What the rows say -/

/-- The row of a text goes on with the row of what is behind its first character. -/
theorem row_cons (e : Expression) (first : Bool) (x : Char) (xs : List Char) :
    row e first (x :: xs) = found e first (x :: xs) :: row e false xs := by
  induction e generalizing first with
  | nil => rfl
  | cons clause e ih =>
    unfold found
    cases clause with
    | start =>
      have hlater : (row e false xs).map (fun _ => false) = startRow false (row e false xs) := by
        cases row e false xs <;> rfl
      simp only [row, ih, startRow, List.headD_cons, hlater]
    | stop => simp only [row, ih, stopRow, List.headD_cons]
    | once a => simp only [row, ih, onceRow, List.headD_cons]
    | many a => simp only [row, ih, manyRow, List.headD_cons]

/-- At the last end of a text the row has this one entry. -/
theorem row_nil (e : Expression) (first : Bool) : row e first [] = [found e first []] := by
  unfold found
  induction e generalizing first with
  | nil => rfl
  | cons clause e ih =>
    cases clause with
    | start =>
      rw [row, ih]
      rfl
    | stop | once a | many a => rfl

/-- A sign for the start is found only at the start. -/
theorem found_start (e : Expression) (first : Bool) (xs : List Char) :
    found (.start :: e) first xs = (first && found e first xs) := by
  cases xs with
  | nil => rw [found, row, row_nil, startRow, List.headD_cons]
  | cons x xs => rw [found, row, row_cons, startRow, List.headD_cons]

/-- A sign for the end is found at the end. -/
theorem found_stop_nil (e : Expression) (first : Bool) : found (.stop :: e) first [] = found e first [] := rfl

/-- A sign for the end is found nowhere before the end. -/
theorem found_stop_cons (e : Expression) (first : Bool) (x : Char) (xs : List Char) :
    found (.stop :: e) first (x :: xs) = false := by
  rw [found, row, row_cons, stopRow, List.headD_cons]

/-- No character is found at the end. -/
theorem found_once_nil (a : Atom) (e : Expression) (first : Bool) : found (.once a :: e) first [] = false := rfl

/-- A character is found where the atom takes the next one, and the search goes on behind it. -/
theorem found_once_cons (a : Atom) (e : Expression) (first : Bool) (x : Char) (xs : List Char) :
    found (.once a :: e) first (x :: xs) = (a.takes x && found e false xs) := by
  rw [found, row, row_cons, onceRow, List.headD_cons, found]

/-- At the end a repetition takes nothing. -/
theorem found_many_nil (a : Atom) (e : Expression) (first : Bool) :
    found (.many a :: e) first [] = found e first [] := rfl

/-- A repetition stops here, or its atom takes the next character and it goes on. -/
theorem found_many_cons (a : Atom) (e : Expression) (first : Bool) (x : Char) (xs : List Char) :
    found (.many a :: e) first (x :: xs) =
      (found e first (x :: xs) || (a.takes x && found (.many a :: e) false xs)) := by
  rw [found, row, row_cons, manyRow, List.headD_cons]
  rfl

/-- A row says what the rules say: `first` holds where nothing stands before the place. -/
theorem found_iff (e : Expression) (before after : List Char) :
    found e before.isEmpty after = true ↔ e.FoundAt before after := by
  induction e generalizing before after with
  | nil => exact ⟨fun _ => .nil, fun _ => rfl⟩
  | cons clause e ih =>
    cases clause with
    | start =>
      rw [found_start, Bool.and_eq_true, ih, List.isEmpty_iff]
      constructor
      · rintro ⟨rfl, h⟩
        exact .start h
      · rintro ⟨⟩
        exact ⟨rfl, ‹_›⟩
    | stop =>
      cases after with
      | nil =>
        rw [found_stop_nil, ih]
        constructor
        · exact .stop
        · rintro ⟨⟩
          assumption
      | cons x after =>
        rw [found_stop_cons]
        constructor
        · exact fun h => absurd h Bool.false_ne_true
        · rintro ⟨⟩
    | once a =>
      cases after with
      | nil =>
        rw [found_once_nil]
        constructor
        · exact fun h => absurd h Bool.false_ne_true
        · rintro ⟨⟩
      | cons x after =>
        have hmore : (before ++ [x]).isEmpty = false := by simp
        rw [found_once_cons, Bool.and_eq_true, Atom.takes_iff, ← hmore, ih]
        constructor
        · rintro ⟨hx, h⟩
          exact .once hx h
        · rintro ⟨⟩
          exact ⟨‹_›, ‹_›⟩
    | many a =>
      -- the characters of the run are taken one by one, each of them standing before the rest
      induction after generalizing before with
      | nil =>
        rw [found_many_nil, ih]
        constructor
        · exact .skip
        · rintro ⟨⟩
          assumption
      | cons x after ihafter =>
        have hmore : (before ++ [x]).isEmpty = false := by simp
        have hrest := ihafter (before ++ [x])
        rw [hmore] at hrest
        rw [found_many_cons, Bool.or_eq_true, Bool.and_eq_true, Atom.takes_iff, ih, hrest]
        constructor
        · rintro (h | ⟨hx, h⟩)
          · exact .skip h
          · exact .take hx h
        · intro h
          cases h with
          | skip h => exact Or.inl h
          | take hx h => exact Or.inr ⟨hx, h⟩

/-- Some entry of a row holds exactly if the expression is found somewhere behind the place. -/
theorem any_row_iff (e : Expression) (before xs : List Char) :
    (row e before.isEmpty xs).any id = true ↔
      ∃ skipped after, xs = skipped ++ after ∧ e.FoundAt (before ++ skipped) after := by
  induction xs generalizing before with
  | nil =>
    rw [row_nil, List.any_cons, List.any_nil, Bool.or_false, id_eq, found_iff]
    constructor
    · intro h
      exact ⟨[], [], rfl, (List.append_nil before).symm ▸ h⟩
    · rintro ⟨skipped, after, hnil, h⟩
      obtain ⟨rfl, rfl⟩ := List.append_eq_nil_iff.mp hnil.symm
      rwa [List.append_nil] at h
  | cons x xs ih =>
    have hmore : (before ++ [x]).isEmpty = false := by simp
    have hrest := ih (before ++ [x])
    rw [hmore] at hrest
    rw [row_cons, List.any_cons, Bool.or_eq_true, id_eq, found_iff, hrest]
    constructor
    · rintro (h | ⟨skipped, after, rfl, h⟩)
      · exact ⟨[], x :: xs, rfl, (List.append_nil before).symm ▸ h⟩
      · refine ⟨x :: skipped, after, rfl, ?_⟩
        rwa [List.append_assoc] at h
    · rintro ⟨skipped, after, htext, h⟩
      cases skipped with
      | nil =>
        rw [List.nil_append] at htext
        rw [List.append_nil, ← htext] at h
        exact Or.inl h
      | cons y skipped =>
        obtain ⟨rfl, rfl⟩ := List.cons.inj htext
        refine Or.inr ⟨skipped, after, rfl, ?_⟩
        rwa [List.append_assoc]

/-- The search finds an expression exactly in the texts in which the rules find it. -/
theorem search_iff (e : Expression) (text : List Char) : e.search text = true ↔ e.FoundIn text :=
  any_row_iff e [] text

end Expression

end AspectWeaver

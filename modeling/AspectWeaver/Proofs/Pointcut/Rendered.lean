import AspectWeaver.Pointcut.Pattern
import AspectWeaver.Regex.Engine

/-!
# The text of a pattern

A pattern is rendered as the text of a regular expression. Read by the rules for them, the text is an expression
(`Expression.read?_render`) that is found in exactly the texts for which the pattern stands
(`Expression.foundIn_ofPattern_iff`). So every engine makes a pattern ready unless it is too large
(`Pattern.build_render`), and what is ready matches what the pattern stands for (`Pattern.isMatch_render_iff`).
-/

set_option autoImplicit false

namespace AspectWeaver

namespace Expression

def ofPiece : Piece → Clause
  | .char c => .once (.char c)
  | .run => .many .any

/-- The expression for a pattern, which asks for the whole text. -/
def ofPattern (p : Pattern) : Expression := .start :: (p.map ofPiece ++ [.stop])

def signsOf : Piece → List Sign
  | .char c => [.atom (.char c)]
  | .run => [.atom .any, .star]

/-- An escaped character is read as the sign for it. -/
theorem signs?_escape (c : Char) (cs : List Char) :
    signs? (Pattern.escape c ++ cs) = (signs? cs).map (.atom (.char c) :: ·) := by
  unfold Pattern.escape
  split
  next hspecial =>
    rw [List.cons_append, List.cons_append, List.nil_append, signs?, if_pos hspecial]
  next hplain =>
    have hne (d : Char) (hd : special.contains d = true) : c ≠ d := by
      rintro rfl
      exact hplain hd
    rw [List.cons_append, List.nil_append, signs?, if_neg hplain]
    · exact fun h _ => hne '\\' (by decide) h
    · exact fun _ _ h _ => hne '\\' (by decide) h
    · exact hne '^' (by decide)
    · exact hne '$' (by decide)
    · exact hne '.' (by decide)
    · exact hne '*' (by decide)

/-- The text of a pattern is read as the signs of its pieces, between those for the start and the end. -/
theorem signs?_render (p : Pattern) :
    signs? p.render = some (.start :: (p.flatMap signsOf ++ [.stop])) := by
  have hrest : signs? (p.flatMap Pattern.renderPiece ++ ['$']) = some (p.flatMap signsOf ++ [.stop]) := by
    induction p with
    | nil => rfl
    | cons piece p ih =>
      rw [List.flatMap_cons, List.append_assoc, List.flatMap_cons, List.append_assoc]
      cases piece with
      | char c =>
        rw [Pattern.renderPiece, signs?_escape, ih]
        rfl
      | run =>
        show ((signs? (p.flatMap Pattern.renderPiece ++ ['$'])).map _).map _ = _
        rw [ih]
        rfl
  show (signs? (p.flatMap Pattern.renderPiece ++ ['$'])).map _ = _
  rw [hrest]
  rfl

/-- The signs of pieces are put together to their parts of an expression. -/
theorem ofSigns?_signsOf (p : Pattern) :
    ofSigns? (p.flatMap signsOf ++ [.stop]) = some (p.map ofPiece ++ [.stop]) := by
  induction p with
  | nil => rfl
  | cons piece p ih =>
    rw [List.flatMap_cons, List.append_assoc, List.map_cons, List.cons_append]
    cases piece with
    | char c =>
      -- behind a character there is no star: a piece begins with an atom, and the last sign is the end
      have hnostar (rest : List Sign) : p.flatMap signsOf ++ [.stop] ≠ .star :: rest := by
        cases p with
        | nil => simp
        | cons next p => cases next <;> simp [signsOf]
      show ofSigns? (.atom (.char c) :: (p.flatMap signsOf ++ [.stop])) = _
      rw [ofSigns?, ih]
      · rfl
      · exact hnostar
    | run =>
      show (ofSigns? (p.flatMap signsOf ++ [.stop])).map _ = _
      rw [ih]
      rfl

/-- The text of a pattern is read as its expression. -/
theorem read?_render (p : Pattern) : read? p.render = some (ofPattern p) := by
  rw [read?, signs?_render, Option.bind_some]
  show (ofSigns? (p.flatMap signsOf ++ [.stop])).map _ = _
  rw [ofSigns?_signsOf]
  rfl

/-- At a place, the expression of a pattern is found exactly if the pattern matches all that follows. -/
theorem foundAt_pieces_iff (p : Pattern) (before after : List Char) :
    FoundAt (p.map ofPiece ++ [.stop]) before after ↔ p.Matches after := by
  constructor
  · intro h
    generalize he : p.map ofPiece ++ [.stop] = e at h
    -- the induction is on how the expression is found: its first clause tells the first piece
    induction h generalizing p with
    | nil => simp at he
    | start _ _ =>
      rcases p with _ | ⟨_ | _, p⟩ <;> simp [ofPiece] at he
    | stop _ _ =>
      rcases p with _ | ⟨_ | _, p⟩
      · exact .nil
      · simp [ofPiece] at he
      · simp [ofPiece] at he
    | once hx _ ih =>
      rcases p with _ | ⟨_ | _, p⟩
      · simp at he
      · obtain ⟨hatom, hrest⟩ := List.cons.inj he
        cases hatom
        cases (show _ = _ from hx)
        exact .char _ (ih p hrest)
      · simp [ofPiece] at he
    | skip _ ih =>
      rcases p with _ | ⟨_ | _, p⟩
      · simp at he
      · simp [ofPiece] at he
      · exact .skip (ih p (List.cons.inj he).2)
    | take hx _ ih =>
      rcases p with _ | ⟨_ | _, p⟩
      · simp at he
      · simp [ofPiece] at he
      · cases (List.cons.inj he).1
        exact .take hx (ih _ he)
  · intro h
    induction h generalizing before with
    | nil => exact .stop .nil
    | char c _ ih => exact .once rfl (ih _)
    | skip _ ih => exact .skip (ih _)
    | take hx _ ih => exact .take hx (ih _)

/-- The expression of a pattern is found in the texts that the pattern matches. -/
theorem foundIn_ofPattern_iff (p : Pattern) (text : List Char) : (ofPattern p).FoundIn text ↔ p.Matches text := by
  constructor
  · rintro ⟨before, after, rfl, h⟩
    cases h with
    | start h => exact (foundAt_pieces_iff p [] after).mp h
  · intro h
    exact ⟨[], text, rfl, .start ((foundAt_pieces_iff p [] text).mpr h)⟩

end Expression

/-! ## What engines do with it -/

namespace Pattern

variable [RegexEngine]

/-- The text of a pattern is never faulty; it is refused if it is too large. -/
theorem build_render (p : Pattern) :
    RegexEngine.build p.render = if RegexEngine.size p.render ≤ RegexEngine.sizeLimit then .ok ()
      else .error (.tooLarge RegexEngine.sizeLimit) :=
  RegexEngine.build_eq (Expression.read?_render p)

/-- A pattern that is ready matches the texts for which it stands. -/
theorem isMatch_render_iff {p : Pattern} (h : RegexEngine.size p.render ≤ RegexEngine.sizeLimit) (xs : List Char) :
    RegexEngine.isMatch p.render xs = true ↔ Matches p xs := by
  have hready : RegexEngine.build p.render = .ok () := by rw [build_render, if_pos h]
  rw [RegexEngine.isMatch_iff (Expression.read?_render p) hready, Expression.foundIn_ofPattern_iff]

end Pattern

end AspectWeaver

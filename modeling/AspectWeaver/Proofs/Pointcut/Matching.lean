import AspectWeaver.Pointcut
import AspectWeaver.Proofs.Pointcut.Rendered
import Mathlib.Data.List.Basic
import Mathlib.Data.List.Infix

/-!
# What a pointcut matches

An engine makes the pattern of a pointcut ready unless it is too large (`Pointcut.WithinLimit`), and then a signature
is accepted exactly if the pattern stands for its text (`Pointcut.accepts_iff_matches`). On a text without line feeds
the head of a pointcut matches what it fits when `*` stands for any characters (`Text.fits`). The top is
`Pointcut.accepts_iff`: a signature is accepted exactly if it is a text that the head fits, followed by
parentheses around what is said about parameters.
-/

set_option autoImplicit false

namespace AspectWeaver

/-! ## Texts that fit a name with wildcards -/

namespace Text

/-- Whether a text fits a name in which `*` stands for any characters. -/
def fits : List Char → List Char → Bool
  | [], text => text.isEmpty
  | c :: name, text =>
    if c = '*' then text.tails.any (fits name)
    else match text with
      | [] => false
      | x :: rest => x == c && fits name rest

/-- A star fits any beginning of a text. -/
theorem fits_star_iff (name text : List Char) :
    fits ('*' :: name) text = true ↔ ∃ before after, text = before ++ after ∧ fits name after = true := by
  rw [fits.eq_def]
  dsimp only
  rw [if_pos rfl, List.any_eq_true]
  constructor
  · rintro ⟨after, hafter, h⟩
    obtain ⟨before, rfl⟩ := (List.mem_tails _ _).mp hafter
    exact ⟨before, after, rfl, h⟩
  · rintro ⟨before, after, rfl, h⟩
    exact ⟨after, (List.mem_tails _ _).mpr (List.suffix_append before after), h⟩

/-- A character other than a star fits itself alone. -/
theorem fits_cons_iff {c : Char} (hc : c ≠ '*') (name text : List Char) :
    fits (c :: name) text = true ↔ ∃ rest, text = c :: rest ∧ fits name rest = true := by
  rw [fits.eq_def]
  dsimp only
  rw [if_neg hc]
  cases text with
  | nil => simp
  | cons x rest =>
    dsimp only
    rw [Bool.and_eq_true, beq_iff_eq]
    constructor
    · rintro ⟨rfl, h⟩
      exact ⟨rest, rfl, h⟩
    · rintro ⟨_, hrest, h⟩
      cases hrest
      exact ⟨rfl, h⟩

/-- A text fits two names in a row if it is cut into texts that fit them. -/
theorem fits_append_iff (name name' text : List Char) :
    fits (name ++ name') text = true ↔
      ∃ before after, text = before ++ after ∧ fits name before = true ∧ fits name' after = true := by
  induction name generalizing text with
  | nil =>
    constructor
    · intro h
      exact ⟨[], text, rfl, rfl, h⟩
    · rintro ⟨before, after, rfl, hbefore, hafter⟩
      rw [List.isEmpty_iff.mp hbefore]
      exact hafter
  | cons c name ih =>
    rw [List.cons_append]
    by_cases hc : c = '*'
    · subst hc
      rw [fits_star_iff]
      constructor
      · rintro ⟨skipped, rest, rfl, h⟩
        obtain ⟨before, after, rfl, hbefore, hafter⟩ := (ih rest).mp h
        exact ⟨skipped ++ before, after, (List.append_assoc _ _ _).symm,
          (fits_star_iff _ _).mpr ⟨skipped, before, rfl, hbefore⟩, hafter⟩
      · rintro ⟨before, after, rfl, hbefore, hafter⟩
        obtain ⟨skipped, rest, rfl, hrest⟩ := (fits_star_iff _ _).mp hbefore
        exact ⟨skipped, rest ++ after, List.append_assoc _ _ _, (ih _).mpr ⟨rest, after, rfl, hrest, hafter⟩⟩
    · rw [fits_cons_iff hc]
      constructor
      · rintro ⟨rest, rfl, h⟩
        obtain ⟨before, after, rfl, hbefore, hafter⟩ := (ih rest).mp h
        exact ⟨c :: before, after, rfl, (fits_cons_iff hc _ _).mpr ⟨before, rfl, hbefore⟩, hafter⟩
      · rintro ⟨before, after, rfl, hbefore, hafter⟩
        obtain ⟨rest, rfl, hrest⟩ := (fits_cons_iff hc _ _).mp hbefore
        exact ⟨rest ++ after, rfl, (ih _).mpr ⟨rest, after, rfl, hrest, hafter⟩⟩

/-- A name without wildcards fits itself alone. -/
theorem fits_iff_eq {name : List Char} (h : '*' ∉ name) (text : List Char) :
    fits name text = true ↔ text = name := by
  induction name generalizing text with
  | nil => rw [fits, List.isEmpty_iff]
  | cons c name ih =>
    obtain ⟨hc, hname⟩ := not_or.mp (mt List.mem_cons.mpr h)
    rw [fits_cons_iff (Ne.symm hc)]
    constructor
    · rintro ⟨rest, rfl, hrest⟩
      rw [(ih hname rest).mp hrest]
    · rintro rfl
      exact ⟨name, rfl, (ih hname name).mpr rfl⟩

end Text

/-! ## Patterns -/

namespace Pattern

/-- A run matches any beginning of a text that holds no line feed. -/
theorem matches_run_iff (p : Pattern) (xs : List Char) :
    Matches (.run :: p) xs ↔ ∃ before after, xs = before ++ after ∧ '\n' ∉ before ∧ Matches p after := by
  constructor
  · intro h
    induction xs with
    | nil =>
      cases h with
      | skip h => exact ⟨[], [], rfl, List.not_mem_nil, h⟩
    | cons x xs ih =>
      cases h with
      | skip h => exact ⟨[], x :: xs, rfl, List.not_mem_nil, h⟩
      | take hx h =>
        obtain ⟨before, after, rfl, hbefore, hafter⟩ := ih h
        refine ⟨x :: before, after, rfl, ?_, hafter⟩
        rw [List.mem_cons, not_or]
        exact ⟨Ne.symm hx, hbefore⟩
  · rintro ⟨before, after, rfl, hbefore, hafter⟩
    induction before with
    | nil => exact .skip hafter
    | cons x before ih =>
      obtain ⟨hx, hbefore⟩ := not_or.mp (mt List.mem_cons.mpr hbefore)
      exact .take (Ne.symm hx) (ih hbefore)

/-- A character matches itself alone. -/
theorem matches_char_iff (c : Char) (p : Pattern) (xs : List Char) :
    Matches (.char c :: p) xs ↔ ∃ rest, xs = c :: rest ∧ Matches p rest := by
  constructor
  · rintro ⟨⟩
    exact ⟨_, rfl, ‹_›⟩
  · rintro ⟨rest, rfl, h⟩
    exact .char c h

/-- Two patterns, one behind the other, match two texts, one behind the other. -/
theorem matches_append_iff (p q : Pattern) (xs : List Char) :
    Matches (p ++ q) xs ↔ ∃ before after, xs = before ++ after ∧ Matches p before ∧ Matches q after := by
  induction p generalizing xs with
  | nil =>
    constructor
    · intro h
      exact ⟨[], xs, rfl, .nil, h⟩
    · rintro ⟨before, after, rfl, ⟨⟩, hafter⟩
      exact hafter
  | cons piece p ih =>
    rw [List.cons_append]
    cases piece with
    | char c =>
      simp only [matches_char_iff, ih]
      constructor
      · rintro ⟨rest, rfl, before, after, rfl, hbefore, hafter⟩
        exact ⟨c :: before, after, rfl, ⟨before, rfl, hbefore⟩, hafter⟩
      · rintro ⟨before, after, rfl, ⟨rest, rfl, hrest⟩, hafter⟩
        exact ⟨rest ++ after, rfl, rest, after, rfl, hrest, hafter⟩
    | run =>
      simp only [matches_run_iff, ih]
      constructor
      · rintro ⟨skipped, rest, rfl, hskipped, before, after, rfl, hbefore, hafter⟩
        exact ⟨skipped ++ before, after, (List.append_assoc _ _ _).symm, ⟨skipped, before, rfl, hskipped, hbefore⟩,
          hafter⟩
      · rintro ⟨before, after, rfl, ⟨skipped, rest, rfl, hskipped, hrest⟩, hafter⟩
        exact ⟨skipped, rest ++ after, List.append_assoc _ _ _, hskipped, rest, after, rfl, hrest, hafter⟩

/-- A literal text matches itself alone. -/
theorem matches_ofLiteral_iff (cs xs : List Char) : Matches (ofLiteral cs) xs ↔ xs = cs := by
  induction cs generalizing xs with
  | nil =>
    constructor
    · rintro ⟨⟩
      rfl
    · rintro rfl
      exact .nil
  | cons c cs ih =>
    show Matches (.char c :: ofLiteral cs) xs ↔ _
    rw [matches_char_iff]
    simp only [ih, exists_eq_right]

/-- Without wildcards every character stands for itself. -/
theorem ofWildcards_of_not_mem {cs : List Char} (h : '*' ∉ cs) : ofWildcards cs = ofLiteral cs := by
  apply List.map_congr_left
  intro c hc
  rw [if_neg]
  rintro rfl
  exact h hc

/-- On texts without line feeds the wildcards of a pattern stand for any characters. -/
theorem matches_ofWildcards_iff (name : List Char) {xs : List Char} (h : '\n' ∉ xs) :
    Matches (ofWildcards name) xs ↔ Text.fits name xs = true := by
  induction name generalizing xs with
  | nil =>
    rw [Text.fits, List.isEmpty_iff]
    constructor
    · rintro ⟨⟩
      rfl
    · rintro rfl
      exact .nil
  | cons c name ih =>
    rw [ofWildcards, List.map_cons, ← ofWildcards]
    by_cases hc : c = '*'
    · subst hc
      rw [if_pos rfl, matches_run_iff, Text.fits_star_iff]
      constructor
      · rintro ⟨before, after, rfl, -, hafter⟩
        exact ⟨before, after, rfl, (ih fun hmem => h (List.mem_append_right _ hmem)).mp hafter⟩
      · rintro ⟨before, after, rfl, hafter⟩
        exact ⟨before, after, rfl, fun hmem => h (List.mem_append_left _ hmem),
          (ih fun hmem => h (List.mem_append_right _ hmem)).mpr hafter⟩
    · rw [if_neg hc, matches_char_iff, Text.fits_cons_iff hc]
      constructor
      · rintro ⟨rest, rfl, hrest⟩
        exact ⟨rest, rfl, (ih fun hmem => h (List.mem_cons_of_mem _ hmem)).mp hrest⟩
      · rintro ⟨rest, rfl, hrest⟩
        exact ⟨rest, rfl, (ih fun hmem => h (List.mem_cons_of_mem _ hmem)).mpr hrest⟩

end Pattern

/-! ## Pointcuts -/

/-- The parameter types that a selector asks for, if it does not take any. -/
def ParamSpec.types? : ParamSpec → Option (List String)
  | .any => none
  | .empty => some []
  | .exact types => some types

namespace Pointcut

section

variable [RegexEngine]

/-- What an engine counts for the pattern of a pointcut is within its limit. -/
def WithinLimit (p : Pointcut) : Prop := RegexEngine.size p.pattern.render ≤ RegexEngine.sizeLimit

instance (p : Pointcut) : Decidable p.WithinLimit := inferInstanceAs (Decidable (_ ≤ _))

/-- The pattern of a pointcut is made ready unless it is too large, and this is the only fault. -/
theorem built_eq (p : Pointcut) :
    p.built = if p.WithinLimit then .ok p
      else .error (.malformedSelector p.selector (RegexFault.tooLarge RegexEngine.sizeLimit).message) := by
  have hready : RegexEngine.build p.pattern.render =
      if p.WithinLimit then .ok () else .error (.tooLarge RegexEngine.sizeLimit) := p.pattern.build_render
  rw [built, hready]
  by_cases h : p.WithinLimit
  · rw [if_pos h, if_pos h]
  · rw [if_neg h, if_neg h]

/-- A pointcut that is ready accepts the signatures for whose texts its pattern stands. -/
theorem accepts_iff_matches {p : Pointcut} (h : p.WithinLimit) (s : Signature) :
    p.accepts s = true ↔ p.pattern.Matches s.text.toList :=
  Pattern.isMatch_render_iff h s.text.toList

end

/-- What may stand between the parentheses of an accepted signature. -/
def allows (spec : ParamSpec) (inside : List Char) : Prop :=
  match spec.types? with
  | none => '\n' ∉ inside
  | some types => inside = (",".intercalate types).toList

/-- The pattern for parameters matches a parenthesised text with something allowed in it. -/
theorem matches_paramsPattern_iff (spec : ParamSpec) (xs : List Char) :
    Pattern.Matches (paramsPattern spec) xs ↔ ∃ inside, xs = '(' :: (inside ++ [')']) ∧ allows spec inside := by
  cases spec with
  | any =>
    rw [paramsPattern, Pattern.matches_char_iff]
    simp only [Pattern.matches_run_iff, allows, ParamSpec.types?]
    constructor
    · rintro ⟨rest, rfl, inside, last, rfl, hinside, hlast⟩
      obtain ⟨_, rfl, ⟨⟩⟩ := (Pattern.matches_char_iff _ _ _).mp hlast
      exact ⟨inside, rfl, hinside⟩
    · rintro ⟨inside, rfl, hinside⟩
      exact ⟨_, rfl, inside, [')'], rfl, hinside, .char ')' .nil⟩
  | empty =>
    have hliteral : paramsPattern .empty = Pattern.ofLiteral ['(', ')'] := rfl
    rw [hliteral, Pattern.matches_ofLiteral_iff]
    simp [allows, ParamSpec.types?]
  | exact types =>
    have hliteral : paramsPattern (.exact types) =
        Pattern.ofLiteral ('(' :: ((",".intercalate types).toList ++ [')'])) := by
      simp [paramsPattern, Pattern.ofLiteral]
    rw [hliteral, Pattern.matches_ofLiteral_iff]
    simp [allows, ParamSpec.types?]

/-- A signature is accepted exactly if it is a text that the head fits, followed by parentheses around what is
said about parameters. -/
theorem accepts_iff [RegexEngine] {p : Pointcut} (hsize : p.WithinLimit) {signature : Signature}
    (h : '\n' ∉ signature.text.toList) :
    p.accepts signature = true ↔ ∃ front inside, signature.text.toList = front ++ '(' :: (inside ++ [')']) ∧
      Text.fits p.head front = true ∧ allows p.params inside := by
  rw [accepts_iff_matches hsize, pattern, Pattern.matches_append_iff]
  simp only [matches_paramsPattern_iff]
  constructor
  · rintro ⟨front, list, htext, hfront, inside, rfl, hinside⟩
    have hfeed : '\n' ∉ front := fun hmem => h (htext ▸ List.mem_append_left _ hmem)
    exact ⟨front, inside, htext, (Pattern.matches_ofWildcards_iff _ hfeed).mp hfront, hinside⟩
  · rintro ⟨front, inside, htext, hfront, hinside⟩
    have hfeed : '\n' ∉ front := fun hmem => h (htext ▸ List.mem_append_left _ hmem)
    exact ⟨front, _, htext, (Pattern.matches_ofWildcards_iff _ hfeed).mpr hfront, inside, rfl, hinside⟩

end Pointcut

end AspectWeaver

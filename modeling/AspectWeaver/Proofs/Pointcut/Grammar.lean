import AspectWeaver.Pointcut.Selector

/-!
# The grammar of selectors

What the text of a selector looks like, said without reading it. A parameter list is cut at the commas that
stand outside all brackets (`ParamSpec.Pieces`); a selector is the dotted name of a type, a dot, the name of
a method and a parameter list in parentheses (`SelectorParts.WrittenAs`). The top is `parseCompact_eq_ok_iff`:
reading finds the parts of exactly the texts that are written so.
-/

set_option autoImplicit false

namespace AspectWeaver

/-! ## Parameter lists -/

namespace ParamSpec

/-- The number of brackets open behind a text that starts with `depth` of them open. -/
def openAfter (depth : Nat) (cs : List Char) : Nat := cs.foldl depthAfter depth

/-- Every comma of a text stands inside brackets, if the text starts with `depth` of them open. -/
def Uncut (depth : Nat) (cs : List Char) : Prop :=
  ∀ before after, cs = before ++ ',' :: after → 0 < openAfter depth before

/-- The pieces of a text between the commas outside all brackets: each piece starts and, if a comma follows,
ends with no bracket open, and the commas in it stand inside brackets. -/
structure Pieces (raw : List Char) (pieces : List (List Char)) : Prop where
  ne_nil : pieces ≠ []
  join : Text.join ',' pieces = raw
  uncut : ∀ piece ∈ pieces, Uncut 0 piece
  closed : ∀ piece ∈ pieces.dropLast, openAfter 0 piece = 0

/-- What follows the first character of a text that is not cut is not cut either. -/
theorem Uncut.tail {depth : Nat} {c : Char} {cs : List Char} (h : Uncut depth (c :: cs)) :
    Uncut (depthAfter depth c) cs := by
  intro before after hcs
  exact h (c :: before) after (by rw [hcs, List.cons_append])

/-- A text that is not cut is not cut at its first character. -/
theorem Uncut.not_cut {depth : Nat} {c : Char} {cs : List Char} (h : Uncut depth (c :: cs)) :
    ¬ (c = ',' ∧ depth = 0) := by
  rintro ⟨rfl, rfl⟩
  exact Nat.lt_irrefl 0 (h [] cs rfl)

/-- A parameter list has at least one piece. -/
theorem splitTypes_ne_nil (depth : Nat) (cs : List Char) : splitTypes depth cs ≠ [] := by
  cases cs with
  | nil => simp [splitTypes]
  | cons c cs =>
    simp only [splitTypes]
    split
    · simp
    · split <;> simp

/-- A text that is not cut is one piece. -/
theorem splitTypes_of_uncut {depth : Nat} {cs : List Char} (h : Uncut depth cs) :
    splitTypes depth cs = [cs] := by
  induction cs generalizing depth with
  | nil => rfl
  | cons c cs ih => rw [splitTypes, if_neg h.not_cut, ih h.tail]

/-- The first piece ends at the first comma outside all brackets. -/
theorem splitTypes_append_cons {depth : Nat} {piece : List Char} (h : Uncut depth piece)
    (hclosed : openAfter depth piece = 0) (rest : List Char) :
    splitTypes depth (piece ++ ',' :: rest) = piece :: splitTypes 0 rest := by
  induction piece generalizing depth with
  | nil =>
    have hdepth : depth = 0 := hclosed
    rw [List.nil_append, splitTypes, if_pos ⟨rfl, hdepth⟩, hdepth]
  | cons c piece ih => rw [List.cons_append, splitTypes, if_neg h.not_cut, ih h.tail hclosed]

/-- A text has a first comma outside all brackets or none. -/
theorem uncut_or_exists_cut (depth : Nat) (cs : List Char) :
    Uncut depth cs ∨ ∃ piece rest, cs = piece ++ ',' :: rest ∧ Uncut depth piece ∧ openAfter depth piece = 0 := by
  induction cs generalizing depth with
  | nil =>
    refine Or.inl fun before after h => ?_
    cases before <;> cases h
  | cons c cs ih =>
    by_cases hcut : c = ',' ∧ depth = 0
    · obtain ⟨rfl, rfl⟩ := hcut
      refine Or.inr ⟨[], cs, rfl, ?_, rfl⟩
      intro before after h
      cases before <;> cases h
    · have huncut (piece : List Char) (h : Uncut (depthAfter depth c) piece) : Uncut depth (c :: piece) := by
        intro before after hpiece
        cases before with
        | nil =>
          obtain ⟨rfl, -⟩ := List.cons.inj hpiece
          exact Nat.pos_of_ne_zero fun hdepth => hcut ⟨rfl, hdepth⟩
        | cons first before =>
          obtain ⟨rfl, htail⟩ := List.cons.inj hpiece
          exact h before after htail
      rcases ih (depthAfter depth c) with h | ⟨piece, rest, rfl, h, hclosed⟩
      · exact Or.inl (huncut cs h)
      · exact Or.inr ⟨c :: piece, rest, rfl, huncut piece h, hclosed⟩

/-- A piece with a comma behind it comes before the pieces of the rest. -/
theorem Pieces.cons {piece rest : List Char} {pieces : List (List Char)} (h : Pieces rest pieces)
    (huncut : Uncut 0 piece) (hclosed : openAfter 0 piece = 0) :
    Pieces (piece ++ ',' :: rest) (piece :: pieces) := by
  refine ⟨List.cons_ne_nil _ _, ?_, ?_, ?_⟩
  · cases hpieces : pieces with
    | nil => exact absurd hpieces h.ne_nil
    | cons next others => rw [Text.join, ← hpieces, h.join]
  · intro x hx
    rcases List.mem_cons.mp hx with rfl | hx
    · exact huncut
    · exact h.uncut x hx
  · rw [List.dropLast_cons_of_ne_nil h.ne_nil]
    intro x hx
    rcases List.mem_cons.mp hx with rfl | hx
    · exact hclosed
    · exact h.closed x hx

/-- Splitting finds pieces; the induction is on what is left behind the first comma outside all brackets. -/
theorem pieces_splitTypes (raw : List Char) : Pieces raw (splitTypes 0 raw) := by
  rcases uncut_or_exists_cut 0 raw with h | ⟨piece, rest, hraw, h, hclosed⟩
  · rw [splitTypes_of_uncut h]
    refine ⟨List.cons_ne_nil _ _, rfl, ?_, ?_⟩
    · intro x hx
      rwa [List.mem_singleton.mp hx]
    · intro x hx
      cases hx
  · have hshorter : rest.length < raw.length := by
      simp only [hraw, List.length_append, List.length_cons]
      omega
    rw [hraw, splitTypes_append_cons h hclosed]
    exact (pieces_splitTypes rest).cons h hclosed
termination_by raw.length

/-- There is only one way to cut a text into pieces, and splitting finds it. -/
theorem Pieces.eq_splitTypes {raw : List Char} {pieces : List (List Char)} (h : Pieces raw pieces) :
    pieces = splitTypes 0 raw := by
  rw [← h.join]
  have huncut := h.uncut
  have hclosed := h.closed
  have hne := h.ne_nil
  clear h
  induction pieces with
  | nil => exact absurd rfl hne
  | cons piece pieces ih =>
    have hpiece : Uncut 0 piece := huncut piece List.mem_cons_self
    cases pieces with
    | nil => exact (splitTypes_of_uncut hpiece).symm
    | cons next others =>
      have hrest := ih (fun x hx => huncut x (List.mem_cons_of_mem piece hx))
        (fun x hx => hclosed x (List.mem_cons_of_mem piece hx)) (List.cons_ne_nil next others)
      rw [Text.join, splitTypes_append_cons hpiece (hclosed piece List.mem_cons_self), ← hrest]

/-- How what a selector says about parameters is written between the parentheses. -/
inductive WrittenAs : ParamSpec → List Char → Prop where
  | any : WrittenAs .any ellipsis
  | empty : WrittenAs .empty []
  | exact {raw : List Char} {pieces : List (List Char)} :
    Pieces raw pieces → (∀ piece ∈ pieces, piece ≠ [] ∧ piece ≠ ellipsis) →
      WrittenAs (.exact (pieces.map String.ofList)) raw

/-- A parameter list is read as what it is the text of. -/
theorem parse_eq_ok_iff (raw : List Char) (spec : ParamSpec) : parse raw = .ok spec ↔ spec.WrittenAs raw := by
  constructor
  · intro h
    unfold parse at h
    split at h
    next hraw =>
      cases h
      exact hraw ▸ .empty
    next =>
      split at h
      next hraw =>
        cases h
        exact hraw ▸ .any
      next =>
        dsimp only at h
        split at h
        next => cases h
        next hempty =>
          split at h
          next => cases h
          next hellipsis =>
            cases h
            refine .exact (pieces_splitTypes raw) fun piece hpiece => ⟨?_, ?_⟩
            · rintro rfl
              exact hempty (List.any_eq_true.mpr ⟨[], hpiece, rfl⟩)
            · rintro rfl
              exact hellipsis (List.contains_iff_mem.mpr hpiece)
  · intro h
    cases h with
    | any => rfl
    | empty => rfl
    | @exact _ pieces hpieces hplain =>
      have hsplit : splitTypes 0 raw = pieces := hpieces.eq_splitTypes.symm
      have hnil : raw ≠ [] := by
        rintro rfl
        have hpiece : [] ∈ pieces := hsplit ▸ List.mem_singleton.mpr rfl
        exact (hplain [] hpiece).1 rfl
      have hany : raw ≠ ellipsis := by
        rintro rfl
        have hpiece : ellipsis ∈ pieces := hsplit ▸ List.mem_singleton.mpr rfl
        exact (hplain ellipsis hpiece).2 rfl
      have hempty : ¬ pieces.any (·.isEmpty) = true := by
        intro h
        obtain ⟨piece, hpiece, h⟩ := List.any_eq_true.mp h
        exact (hplain piece hpiece).1 (List.isEmpty_iff.mp h)
      have hellipsis : ¬ pieces.contains ellipsis = true := by
        intro h
        exact (hplain ellipsis (List.contains_iff_mem.mp h)).2 rfl
      unfold parse
      rw [if_neg hnil, if_neg hany, hsplit]
      dsimp only
      rw [if_neg hempty, if_neg hellipsis]

/-- The pieces, joined by commas, are what is written. -/
theorem WrittenAs.intercalate {types : List String} {raw : List Char} (h : WrittenAs (.exact types) raw) :
    ",".intercalate types = String.ofList raw := by
  generalize hspec : ParamSpec.exact types = spec at h
  cases h with
  | any => cases hspec
  | empty => cases hspec
  | @exact _ pieces hpieces _ =>
    cases hspec
    apply String.toList_inj.mp
    rw [Text.toList_intercalate_comma, String.toList_ofList, List.map_map]
    simpa [Function.comp_def] using hpieces.join

end ParamSpec

/-! ## Selectors -/

namespace SelectorParts

/-- What stands before the parameter list. -/
def head (parts : SelectorParts) : List Char := Text.join '.' parts.typeSegments ++ '.' :: parts.method

/-- How a selector without blank characters is written: the segments of the type with a dot between each two,
a dot, the method, and `raw` in parentheses. -/
structure WrittenAs (parts : SelectorParts) (raw cs : List Char) : Prop where
  text : cs = parts.head ++ '(' :: raw ++ [')']
  typeSegments_ne_nil : parts.typeSegments ≠ []
  segment : ∀ x ∈ parts.typeSegments, x ≠ [] ∧ '.' ∉ x
  method : parts.method ≠ [] ∧ '.' ∉ parts.method
  plain : ∀ c ∈ parts.head, c ≠ '(' ∧ c ≠ ')' ∧ c ≠ ','
  params : parts.params.WrittenAs raw
  inside : ∀ c ∈ raw, c ≠ '(' ∧ c ≠ ')'

/-- A head is read as a type and a method exactly if they make it up, with segments that are not empty. -/
theorem splitHead_eq_ok_iff (cs method : List Char) (typeSegments : List (List Char)) :
    splitHead cs = .ok (typeSegments, method) ↔
      cs = Text.join '.' typeSegments ++ '.' :: method ∧ typeSegments ≠ [] ∧
        (∀ x ∈ typeSegments, x ≠ [] ∧ '.' ∉ x) ∧ method ≠ [] ∧ '.' ∉ method := by
  constructor
  · intro h
    unfold splitHead at h
    dsimp only at h
    have hne := Text.split_ne_nil '.' cs
    have hjoin := Text.join_split '.' cs
    have hdots : ∀ x ∈ Text.split '.' cs, '.' ∉ x := fun x hx => Text.not_mem_of_mem_split hx
    generalize Text.split '.' cs = pieces at h hne hjoin hdots
    obtain ⟨last, hpieces⟩ : ∃ last, pieces = pieces.dropLast ++ [last] :=
      ⟨pieces.getLast hne, (List.dropLast_concat_getLast hne).symm⟩
    have hlast : pieces.getLastD [] = last := by rw [hpieces, List.getLastD_concat]
    rw [hlast] at h
    split at h
    next => cases h
    next hnil =>
      split at h
      next => cases h
      next hnames =>
        split at h
        next => cases h
        next hempty =>
          cases h
          have hsegments : pieces.dropLast ≠ [] := fun h => hnil (List.isEmpty_iff.mpr h)
          refine ⟨?_, hsegments, ?_, fun h => hnames (Or.inr h), ?_⟩
          · rw [← Text.join_concat hsegments, ← hpieces, hjoin]
          · intro x hx
            refine ⟨?_, hdots x (List.dropLast_subset _ hx)⟩
            rintro rfl
            exact hempty (List.any_eq_true.mpr ⟨[], hx, rfl⟩)
          · exact hdots method (hpieces ▸ List.mem_append_right _ (List.mem_singleton.mpr rfl))
  · rintro ⟨rfl, hne, hsegments, hmethod, hdot⟩
    have hsplit : Text.split '.' (Text.join '.' typeSegments ++ '.' :: method) = typeSegments ++ [method] := by
      rw [← Text.join_concat hne]
      exact Text.split_join_concat (fun x hx => (hsegments x hx).2) hdot
    have hnil : ¬ typeSegments.isEmpty = true := fun h => hne (List.isEmpty_iff.mp h)
    have hnames : ¬ (Text.join '.' typeSegments = [] ∨ method = []) := by
      rintro (h | h)
      · exact Text.join_ne_nil hne (fun x hx => (hsegments x hx).1) h
      · exact hmethod h
    have hempty : ¬ typeSegments.any (·.isEmpty) = true := by
      intro h
      obtain ⟨x, hx, h⟩ := List.any_eq_true.mp h
      exact (hsegments x hx).1 (List.isEmpty_iff.mp h)
    unfold splitHead
    rw [hsplit]
    dsimp only
    rw [List.dropLast_concat, List.getLastD_concat, if_neg hnil, if_neg hnames, if_neg hempty]

/-- A text is cut before its first opening parenthesis. -/
theorem takeWhile_dropWhile_append {head : List Char} (h : '(' ∉ head) (rest : List Char) :
    (head ++ '(' :: rest).takeWhile (· != '(') = head ∧
      (head ++ '(' :: rest).dropWhile (· != '(') = '(' :: rest := by
  have hhead : ∀ c ∈ head, (c != '(') = true := by
    intro c hc
    rw [bne_iff_ne]
    rintro rfl
    exact h hc
  refine ⟨?_, ?_⟩
  · rw [List.takeWhile_append_of_pos hhead, List.takeWhile_cons_of_neg (by simp), List.append_nil]
  · rw [List.dropWhile_append_of_pos hhead, List.dropWhile_cons_of_neg (by simp)]

/-- What reading has checked when it succeeds. -/
theorem checks_of_parseCompact {cs : List Char} {parts : SelectorParts} (h : parseCompact cs = .ok parts) :
    ∃ raw, cs.dropWhile (· != '(') = '(' :: (raw ++ [')']) ∧
      (∀ c ∈ cs.takeWhile (· != '('), c ≠ ')' ∧ c ≠ ',') ∧ (∀ c ∈ raw, c ≠ '(' ∧ c ≠ ')') ∧
      splitHead (cs.takeWhile (· != '(')) = .ok (parts.typeSegments, parts.method) ∧
      ParamSpec.parse raw = .ok parts.params := by
  have hplain_iff (text : List Char) (d e : Char) :
      ¬ (text.any fun c => c == d || c == e) = true ↔ ∀ c ∈ text, c ≠ d ∧ c ≠ e := by
    simp only [List.any_eq_true, not_exists, not_and, Bool.or_eq_true, not_or, beq_iff_eq, ne_eq]
  unfold parseCompact at h
  split at h
  next => cases h
  next =>
    dsimp only at h
    split at h
    next => cases h
    next first tail hdrop =>
      have hfirst : first = '(' := by
        have hnot := List.head?_dropWhile_not (· != '(') cs
        rw [hdrop] at hnot
        simpa using hnot
      split at h
      next => cases h
      next hlast =>
        obtain ⟨raw, rfl⟩ := List.getLast?_eq_some_iff.mp (Classical.not_not.mp hlast)
        rw [List.dropLast_concat] at h
        split at h
        next => cases h
        next hplain =>
          split at h
          next => cases h
          next hraw =>
            refine ⟨raw, by rw [hdrop, hfirst], (hplain_iff _ _ _).mp hplain, (hplain_iff _ _ _).mp hraw, ?_⟩
            cases hhead : splitHead (cs.takeWhile (· != '(')) with
            | error fault =>
              rw [hhead] at h
              cases h
            | ok names =>
              cases hparams : ParamSpec.parse raw with
              | error fault =>
                rw [hhead, hparams] at h
                cases h
              | ok params =>
                rw [hhead, hparams] at h
                cases h
                exact ⟨rfl, rfl⟩

/-- Reading finds the parts of a text exactly if it is written with them. -/
theorem parseCompact_eq_ok_iff (cs : List Char) (parts : SelectorParts) :
    parseCompact cs = .ok parts ↔ ∃ raw, parts.WrittenAs raw cs := by
  constructor
  · intro h
    obtain ⟨raw, hdrop, hplain, hraw, hhead, hparams⟩ := checks_of_parseCompact h
    obtain ⟨htext, hne, hsegments, hmethod, hdot⟩ := (splitHead_eq_ok_iff _ _ _).mp hhead
    have htext : cs.takeWhile (· != '(') = parts.head := htext
    refine ⟨raw, ?_, hne, hsegments, ⟨hmethod, hdot⟩, ?_, (ParamSpec.parse_eq_ok_iff _ _).mp hparams, hraw⟩
    · calc cs = cs.takeWhile (· != '(') ++ cs.dropWhile (· != '(') := List.takeWhile_append_dropWhile.symm
        _ = parts.head ++ '(' :: raw ++ [')'] := by
            rw [htext, hdrop, List.append_assoc, List.cons_append]
    · intro c hc
      rw [← htext] at hc
      have hopen : (c != '(') = true := List.all_eq_true.mp List.all_takeWhile c hc
      exact ⟨bne_iff_ne.mp hopen, hplain c hc⟩
  · rintro ⟨raw, h⟩
    have hopen : '(' ∉ parts.head := fun hmem => (h.plain _ hmem).1 rfl
    obtain ⟨htake, hdrop⟩ := takeWhile_dropWhile_append hopen (raw ++ [')'])
    have htext : cs = parts.head ++ '(' :: (raw ++ [')']) := by
      rw [h.text, List.append_assoc, List.cons_append]
    have hne : cs ≠ [] := by
      rw [htext]
      exact List.append_ne_nil_of_right_ne_nil _ (List.cons_ne_nil _ _)
    have hplain : ¬ (parts.head.any fun c => c == ')' || c == ',') = true := by
      simp only [List.any_eq_true, not_exists, not_and, Bool.or_eq_true, not_or, beq_iff_eq]
      exact fun c hc => (h.plain c hc).2
    have hraw : ¬ (raw.any fun c => c == '(' || c == ')') = true := by
      simp only [List.any_eq_true, not_exists, not_and, Bool.or_eq_true, not_or, beq_iff_eq]
      exact h.inside
    have hhead : splitHead parts.head = .ok (parts.typeSegments, parts.method) :=
      (splitHead_eq_ok_iff _ _ _).mpr
        ⟨rfl, h.typeSegments_ne_nil, h.segment, h.method.1, h.method.2⟩
    have hparams : ParamSpec.parse raw = .ok parts.params := (ParamSpec.parse_eq_ok_iff _ _).mpr h.params
    unfold parseCompact
    rw [if_neg hne]
    dsimp only
    rw [htext, htake, hdrop]
    dsimp only
    rw [if_neg (by simp), if_neg hplain, List.dropLast_concat, if_neg hraw, hhead, hparams]
    rfl

/-- The parts of a selector and what stands in its parentheses are told by its text. -/
theorem WrittenAs.unique {parts parts' : SelectorParts} {raw raw' cs : List Char}
    (h : parts.WrittenAs raw cs) (h' : parts'.WrittenAs raw' cs) : parts = parts' ∧ raw = raw' := by
  have hparts : parts = parts' := by
    have hread := (parseCompact_eq_ok_iff cs parts).mpr ⟨raw, h⟩
    rw [(parseCompact_eq_ok_iff cs parts').mpr ⟨raw', h'⟩] at hread
    exact (Except.ok.inj hread).symm
  subst hparts
  have htext := h.text.symm.trans h'.text
  simpa using htext

end SelectorParts

end AspectWeaver

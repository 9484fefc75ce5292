import AspectWeaver.Proofs.Pointcut.Grammar
import AspectWeaver.Proofs.Pointcut.Matching
import Mathlib.Data.List.Infix
import Mathlib.Data.List.Induction

/-!
# Parameter types with brackets

A parameter type such as `Map<K,[V]>` or `(A,B)` holds commas, but only inside its brackets
(`Text.WellBracketed`). A list of such types is told by its text: behind an opening parenthesis there is
always a closing one (`Text.closing_mem_of_join_eq`), and without parentheses the types are the pieces that the
reader of selectors finds (`ParamSpec.pieces_join`). So a list whose text is what a selector asks for is the
list that it asks for (`ParamSpec.WrittenAs.eq_types`).
-/

set_option autoImplicit false

namespace AspectWeaver

namespace Text

/-- The opening and closing brackets of each kind. -/
def brackets : List (Char × Char) := [('<', '>'), ('[', ']'), ('(', ')')]

/-- Brackets of one kind are closed as often as they are opened, and never before. -/
structure Balanced (b : Char × Char) (cs : List Char) : Prop where
  even : cs.count b.2 = cs.count b.1
  opened : ∀ front, front <+: cs → front.count b.2 ≤ front.count b.1

/-- Brackets of every kind are balanced, and every comma stands inside some. -/
structure WellBracketed (cs : List Char) : Prop where
  balanced : ∀ b ∈ brackets, Balanced b cs
  comma : ∀ front, front ++ [','] <+: cs → ∃ b ∈ brackets, front.count b.2 < front.count b.1

instance (b : Char × Char) (cs : List Char) : Decidable (Balanced b cs) :=
  decidable_of_iff (cs.count b.2 = cs.count b.1 ∧ ∀ front ∈ cs.inits, front.count b.2 ≤ front.count b.1)
    ⟨fun h => ⟨h.1, fun front hfront => h.2 front ((List.mem_inits _ _).mpr hfront)⟩,
      fun h => ⟨h.even, fun front hfront => h.opened front ((List.mem_inits _ _).mp hfront)⟩⟩

instance (cs : List Char) : Decidable (WellBracketed cs) :=
  decidable_of_iff ((∀ b ∈ brackets, Balanced b cs) ∧
      ∀ front ∈ cs.inits, front ++ [','] <+: cs → ∃ b ∈ brackets, front.count b.2 < front.count b.1)
    ⟨fun h => ⟨h.1, fun front hfront =>
        h.2 front ((List.mem_inits _ _).mpr ((List.prefix_append _ _).trans hfront)) hfront⟩,
      fun h => ⟨h.balanced, fun front _ => h.comma front⟩⟩

/-- A text without brackets of a kind is balanced in this kind. -/
theorem balanced_of_count_eq_zero {b : Char × Char} {cs : List Char} (hopen : cs.count b.1 = 0)
    (hclose : cs.count b.2 = 0) : Balanced b cs := by
  refine ⟨by rw [hopen, hclose], fun front hfront => ?_⟩
  have hle : front.count b.2 ≤ cs.count b.2 := hfront.sublist.count_le b.2
  omega

/-- A beginning of two texts, one behind the other, ends in the first of them or in the second. -/
theorem prefix_append_cases {cs ds front : List Char} (h : front <+: cs ++ ds) :
    front <+: cs ∨ ∃ rest, rest <+: ds ∧ front = cs ++ rest := by
  rcases List.prefix_or_prefix_of_prefix h (List.prefix_append cs ds) with hfront | ⟨rest, rfl⟩
  · exact Or.inl hfront
  · exact Or.inr ⟨rest, (List.prefix_append_right_inj cs).mp h, rfl⟩

/-- Two balanced texts, one behind the other, are balanced. -/
theorem Balanced.append {b : Char × Char} {cs ds : List Char} (hcs : Balanced b cs) (hds : Balanced b ds) :
    Balanced b (cs ++ ds) := by
  refine ⟨by simp [List.count_append, hcs.even, hds.even], fun front hfront => ?_⟩
  rcases prefix_append_cases hfront with hfront | ⟨rest, hrest, rfl⟩
  · exact hcs.opened front hfront
  · have heven := hcs.even
    have hopened := hds.opened rest hrest
    simp only [List.count_append]
    omega

/-- Balanced pieces with commas between them are balanced. -/
theorem balanced_join {b : Char × Char} (hb : b ∈ brackets) {pieces : List (List Char)}
    (h : ∀ x ∈ pieces, Balanced b x) : Balanced b (join ',' pieces) := by
  have hcomma : ∀ b ∈ brackets, Balanced b [','] := by decide
  induction pieces with
  | nil => exact balanced_of_count_eq_zero rfl rfl
  | cons piece pieces ih =>
    have hpiece : Balanced b piece := h piece List.mem_cons_self
    cases pieces with
    | nil => exact hpiece
    | cons next rest =>
      have hrest := ih fun x hx => h x (List.mem_cons_of_mem piece hx)
      exact hpiece.append ((hcomma b hb).append hrest)

/-- Behind an opening parenthesis in a list of types there is a closing one. -/
theorem closing_mem_of_join_eq {pieces : List (List Char)} (h : ∀ x ∈ pieces, WellBracketed x)
    {before after : List Char} (hjoin : join ',' pieces = before ++ '(' :: after) : ')' ∈ after := by
  have hparen : ('(', ')') ∈ brackets := by decide
  have hbalanced : Balanced ('(', ')') (before ++ '(' :: after) := by
    rw [← hjoin]
    exact balanced_join hparen fun x hx => (h x hx).balanced _ hparen
  have heven := hbalanced.even
  have hopened := hbalanced.opened before (List.prefix_append _ _)
  have hne : '(' ≠ ')' := by decide
  simp only [List.count_append, List.count_cons_self, List.count_cons_of_ne hne] at heven hopened
  apply List.count_pos_iff.mp
  omega

end Text

namespace ParamSpec

open Text (brackets Balanced WellBracketed)

/-- A last character changes the number of open brackets by itself. -/
theorem openAfter_concat (cs : List Char) (c : Char) :
    openAfter 0 (cs ++ [c]) = depthAfter (openAfter 0 cs) c := by
  rw [openAfter, List.foldl_concat]
  rfl

/-- As long as no bracket is closed before it is opened, the brackets open behind a text are those opened in it
and not closed. -/
theorem openAfter_add {cs : List Char}
    (h : ∀ b ∈ brackets, ∀ front, front <+: cs → front.count b.2 ≤ front.count b.1) :
    openAfter 0 cs + (cs.count '>' + cs.count ']') = cs.count '<' + cs.count '[' := by
  induction cs using List.reverseRecOn with
  | nil => rfl
  | append_singleton cs c ih =>
    have hcs := ih fun b hb front hfront => h b hb front (hfront.trans (List.prefix_append _ _))
    have hangle : (cs ++ [c]).count '>' ≤ (cs ++ [c]).count '<' := h ('<', '>') (by decide) _ (List.prefix_refl _)
    have hsquare : (cs ++ [c]).count ']' ≤ (cs ++ [c]).count '[' := h ('[', ']') (by decide) _ (List.prefix_refl _)
    rw [openAfter_concat]
    unfold depthAfter
    simp only [List.count_append, List.count_singleton, beq_iff_eq] at hangle hsquare ⊢
    split
    next hopen => rcases hopen with rfl | rfl <;> simp at hangle hsquare ⊢ <;> omega
    next hopen =>
      split
      next hclose => rcases hclose with rfl | rfl <;> simp at hangle hsquare ⊢ <;> omega
      next hclose =>
        obtain ⟨h₁, h₂⟩ := not_or.mp hopen
        obtain ⟨h₃, h₄⟩ := not_or.mp hclose
        simp only [h₁, h₂, h₃, h₄, if_false]
        omega

/-- Well bracketed types without parentheses are not cut at their commas, and they leave no bracket open. -/
theorem uncut_of_wellBracketed {cs : List Char} (h : WellBracketed cs) (hplain : '(' ∉ cs) :
    Uncut 0 cs ∧ openAfter 0 cs = 0 := by
  have hopened : ∀ b ∈ brackets, ∀ front, front <+: cs → front.count b.2 ≤ front.count b.1 :=
    fun b hb => (h.balanced b hb).opened
  have hangle := (h.balanced ('<', '>') (by decide)).even
  have hsquare := (h.balanced ('[', ']') (by decide)).even
  have hcs := openAfter_add hopened
  dsimp only at hangle hsquare
  refine ⟨?_, by omega⟩
  rintro before after rfl
  have hbefore : before <+: before ++ ',' :: after := List.prefix_append _ _
  have hopen := openAfter_add fun b hb front hfront => hopened b hb front (hfront.trans hbefore)
  have hangle := hopened ('<', '>') (by decide) before hbefore
  have hsquare := hopened ('[', ']') (by decide) before hbefore
  have hparen : before.count '(' = 0 := List.count_eq_zero.mpr fun hmem => hplain (List.mem_append_left _ hmem)
  obtain ⟨b, hb, hinside⟩ := h.comma before ⟨after, by simp⟩
  simp only [brackets, List.mem_cons, List.not_mem_nil, or_false] at hb
  rcases hb with rfl | rfl | rfl <;> dsimp only at * <;> omega

/-- Types without parentheses are the pieces of their list. -/
theorem pieces_join {pieces : List (List Char)} (hne : pieces ≠ []) (h : ∀ x ∈ pieces, WellBracketed x)
    (hplain : '(' ∉ Text.join ',' pieces) : Pieces (Text.join ',' pieces) pieces := by
  have hpiece : ∀ x ∈ pieces, Uncut 0 x ∧ openAfter 0 x = 0 := fun x hx =>
    uncut_of_wellBracketed (h x hx) fun hmem => hplain (Text.mem_join_of_mem hx hmem)
  exact ⟨hne, rfl, fun x hx => (hpiece x hx).1, fun x hx => (hpiece x (List.dropLast_subset _ hx)).2⟩

/-- The types that a selector asks for, joined by commas, are what is written in it. -/
theorem WrittenAs.toList_types {spec : ParamSpec} {raw : List Char} (h : spec.WrittenAs raw) {types : List String}
    (htypes : spec.types? = some types) : (",".intercalate types).toList = raw := by
  cases h with
  | any => cases htypes
  | empty =>
    cases htypes
    rfl
  | exact hpieces hplain =>
    cases htypes
    rw [(WrittenAs.exact hpieces hplain).intercalate, String.toList_ofList]

/-- A list of types whose text is what is written in a selector is the list that the selector asks for. -/
theorem WrittenAs.eq_types {spec : ParamSpec} {raw : List Char} (h : spec.WrittenAs raw) {types : List String}
    (htypes : spec.types? = some types) (hraw : '(' ∉ raw) {params : List String}
    (hparams : ∀ x ∈ params, x ≠ "" ∧ WellBracketed x.toList)
    (hjoin : Text.join ',' (params.map String.toList) = raw) : params = types := by
  have hnonempty : ∀ x ∈ params.map String.toList, x ≠ [] := by
    intro x hx
    obtain ⟨param, hparam, rfl⟩ := List.mem_map.mp hx
    rw [Ne, String.toList_eq_nil_iff]
    exact (hparams param hparam).1
  cases h with
  | any => cases htypes
  | empty =>
    cases htypes
    by_contra hne
    have hmap : params.map String.toList ≠ [] := by rwa [Ne, List.map_eq_nil_iff]
    exact Text.join_ne_nil hmap hnonempty hjoin
  | @exact _ pieces hpieces hplain =>
    obtain rfl : pieces.map String.ofList = types := Option.some.inj htypes
    have hne : params.map String.toList ≠ [] := by
      intro hnil
      rw [hnil] at hjoin
      exact Text.join_ne_nil hpieces.ne_nil (fun x hx => (hplain x hx).1) (hpieces.join.trans hjoin.symm)
    have hbracketed : ∀ x ∈ params.map String.toList, WellBracketed x := by
      intro x hx
      obtain ⟨param, hparam, rfl⟩ := List.mem_map.mp hx
      exact (hparams param hparam).2
    have hread := pieces_join hne hbracketed (hjoin ▸ hraw)
    rw [hjoin] at hread
    have hsame : params.map String.toList = pieces := hread.eq_splitTypes.trans hpieces.eq_splitTypes.symm
    rw [← hsame, List.map_map]
    simp [Function.comp_def]

end ParamSpec

end AspectWeaver

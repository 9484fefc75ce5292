import AspectWeaver.Proofs.Pointcut.Brackets
import AspectWeaver.Proofs.Pointcut.Compile
import AspectWeaver.Proofs.Pointcut.Names

/-!
# The signature of a method as a selector

The text of a signature can be read as a selector, with blank characters anywhere in it. What comes out is a
pointcut that looks for the owner of the method alone and accepts this one signature (`Pointcut.compile_signature`):
without wildcards a pattern stands for one text (`Pointcut.accepts_iff_of_plain`), and reading cuts the list of
types at the commas that joined it. Parentheses end this: a type with a parenthesis, such as a tuple, can stand in a
signature but not in a selector (`SelectorParts.parseCompact_of_parenthesis`).
-/

set_option autoImplicit false

namespace AspectWeaver

/-! ## Signatures that look like selectors -/

namespace Signature

/-- The characters of a name in a selector without wildcards. -/
def IsPlainChar (c : Char) : Prop := TypeDescriptor.IsNameChar c ∧ c ≠ ',' ∧ c ≠ '*'

instance (c : Char) : Decidable (IsPlainChar c) := inferInstanceAs (Decidable (_ ∧ _))

/-- An owner with a dotted name, a method and parameter types, all of them plain: the names hold nothing that has
a meaning in selectors, and the types, without their blank characters, are not empty, have their brackets balanced
and their commas inside, and are not what stands for any parameters. -/
structure Plain (owner name : String) (params : List String) : Prop where
  segment : ∀ x ∈ Text.segments owner, x ≠ []
  owner : ∀ c ∈ owner.toList, IsPlainChar c
  name_ne : name ≠ ""
  name : ∀ c ∈ name.toList, IsPlainChar c ∧ c ≠ '.'
  param : ∀ x ∈ params, Text.compact x ≠ "" ∧ Text.compact x ≠ "..." ∧ Text.WellBracketed (Text.compact x).toList

-- the tests go through the characters of the names, as those of `TypeDescriptor.HasNames` do
instance (owner name : String) (params : List String) : Decidable (Plain owner name params) :=
  decidable_of_iff
    ((Text.segments owner).all (fun x => decide (x ≠ [])) && owner.toList.all (fun c => decide (IsPlainChar c)) &&
      decide (name ≠ "") && name.toList.all (fun c => decide (IsPlainChar c ∧ c ≠ '.')) &&
      params.all fun x => decide (Text.compact x ≠ "" ∧ Text.compact x ≠ "..." ∧
        Text.WellBracketed (Text.compact x).toList)) <| by
  simp only [Bool.and_eq_true, List.all_eq_true, decide_eq_true_eq]
  exact ⟨fun h => ⟨h.1.1.1.1, h.1.1.1.2, h.1.1.2, h.1.2, h.2⟩,
    fun h => ⟨⟨⟨⟨h.segment, h.owner⟩, h.name_ne⟩, h.name⟩, h.param⟩⟩

/-- What stands before the parameter list. -/
def front (owner name : String) : List Char := owner.toList ++ '.' :: name.toList

/-- The parameter list, without its parentheses. -/
def inside (params : List String) : List Char := Text.join ',' (params.map fun x => (Text.compact x).toList)

/-- The text of a signature is the front and the parameter types in parentheses. -/
theorem toList_make (owner name : String) (params : List String) :
    (make owner name params).text.toList = front owner name ++ '(' :: (inside params ++ [')']) := by
  have hcomma := Text.toList_intercalate_comma (params.map Text.compact)
  rw [List.map_map] at hcomma
  simp only [make, String.toList_append, hcomma, front, inside, List.append_assoc]
  rfl

/-- Each character of the parameter list is a comma or comes from a type. -/
theorem of_mem_inside {params : List String} {c : Char} (h : c ∈ inside params) :
    c = ',' ∨ ∃ x ∈ params, c ∈ (Text.compact x).toList := by
  rcases Text.of_mem_join h with hcomma | ⟨piece, hpiece, hc⟩
  · exact Or.inl hcomma
  · obtain ⟨x, hx, rfl⟩ := List.mem_map.mp hpiece
    exact Or.inr ⟨x, hx, hc⟩

/-- There is no blank character in a compact text. -/
theorem not_blank_of_mem_compact {x : String} {c : Char} (h : c ∈ (Text.compact x).toList) :
    Text.isBlank c = false := by
  rw [Text.compact, String.toList_ofList] at h
  simpa using (List.mem_filter.mp h).2

/-- A compact text keeps the characters that are not blank. -/
theorem mem_compact_iff {x : String} {c : Char} (h : Text.isBlank c = false) :
    c ∈ (Text.compact x).toList ↔ c ∈ x.toList := by
  rw [Text.compact, String.toList_ofList, Text.compactChars, List.mem_filter, h]
  exact and_iff_left rfl

variable {owner name : String} {params : List String}

/-- The front is made of plain characters. -/
theorem Plain.front_char (h : Plain owner name params) : ∀ c ∈ front owner name, IsPlainChar c := by
  intro c hc
  rcases List.mem_append.mp hc with hc | hc
  · exact h.owner c hc
  · rcases List.mem_cons.mp hc with rfl | hc
    · decide
    · exact (h.name c hc).1

/-- A character that is not plain is not in the front. -/
theorem Plain.not_mem_front (h : Plain owner name params) {c : Char} (hc : ¬ IsPlainChar c) :
    c ∉ front owner name := fun hmem => hc (h.front_char c hmem)

/-- No character of such a signature is blank. -/
theorem Plain.compactChars_make (h : Plain owner name params) :
    Text.compactChars (make owner name params).text.toList = (make owner name params).text.toList := by
  rw [toList_make]
  apply List.filter_eq_self.mpr
  intro c hc
  rw [Bool.not_eq_true']
  rcases List.mem_append.mp hc with hc | hc
  · exact (h.front_char c hc).1.1
  · simp only [List.mem_cons, List.mem_append, List.not_mem_nil, or_false] at hc
    rcases hc with rfl | hc | rfl
    · decide
    · rcases of_mem_inside hc with rfl | ⟨x, -, hc⟩
      · decide
      · exact not_blank_of_mem_compact hc
    · decide

/-- Types without parentheses are written in a selector as they stand in the signature. -/
theorem Plain.writtenAs_params (h : Plain owner name params) (hopen : '(' ∉ inside params) :
    (if params.isEmpty then ParamSpec.empty else .exact (params.map Text.compact)).WrittenAs (inside params) := by
  by_cases hnil : params = []
  · subst hnil
    exact .empty
  · have hne : (params.map fun x => (Text.compact x).toList) ≠ [] := mt List.map_eq_nil_iff.mp hnil
    have hpieces : ParamSpec.Pieces (inside params) (params.map fun x => (Text.compact x).toList) := by
      apply ParamSpec.pieces_join hne _ hopen
      intro piece hpiece
      obtain ⟨x, hx, rfl⟩ := List.mem_map.mp hpiece
      exact (h.param x hx).2.2
    have hplain : ∀ piece ∈ params.map fun x => (Text.compact x).toList,
        piece ≠ [] ∧ piece ≠ ParamSpec.ellipsis := by
      intro piece hpiece
      obtain ⟨x, hx, rfl⟩ := List.mem_map.mp hpiece
      obtain ⟨hempty, hellipsis, -⟩ := h.param x hx
      refine ⟨mt String.toList_eq_nil_iff.mp hempty, fun heq => hellipsis ?_⟩
      exact String.toList_inj.mp heq
    have hwritten := ParamSpec.WrittenAs.exact hpieces hplain
    rw [List.map_map] at hwritten
    rw [if_neg (mt List.isEmpty_iff.mp hnil)]
    simpa [Function.comp_def] using hwritten

/-- A parameter list without opening parentheses has no closing ones. -/
theorem Plain.not_mem_inside (h : Plain owner name params) (hopen : '(' ∉ inside params) : ')' ∉ inside params := by
  have hparen : ('(', ')') ∈ Text.brackets := by decide
  have hbalanced : Text.Balanced ('(', ')') (inside params) := by
    apply Text.balanced_join hparen
    intro piece hpiece
    obtain ⟨x, hx, rfl⟩ := List.mem_map.mp hpiece
    exact (h.param x hx).2.2.balanced _ hparen
  intro hmem
  have heven : (inside params).count ')' = (inside params).count '(' := hbalanced.even
  rw [List.count_eq_zero.mpr hopen] at heven
  exact List.count_eq_zero.mp heven hmem

end Signature

/-! ## Reading a signature -/

namespace SelectorParts

open Signature (Plain front inside)

variable {owner name : String} {params : List String}

/-- The parts that the signature of a method has as a selector. -/
def ofSignature (owner name : String) (params : List String) : SelectorParts :=
  ⟨Text.segments owner, name.toList, if params.isEmpty then .empty else .exact (params.map Text.compact)⟩

/-- The head of a signature is its front. -/
theorem head_ofSignature (owner name : String) (params : List String) :
    (ofSignature owner name params).head = front owner name := by
  rw [head, ofSignature, Text.segments, Text.join_split, front]

/-- A signature without parentheses in its types is written as a selector. -/
theorem writtenAs_ofSignature (h : Plain owner name params) (hopen : '(' ∉ inside params) :
    (ofSignature owner name params).WrittenAs (inside params) (Signature.make owner name params).text.toList := by
  refine ⟨?_, Text.split_ne_nil '.' owner.toList, ?_, ⟨?_, ?_⟩, ?_, h.writtenAs_params hopen, ?_⟩
  · rw [Signature.toList_make, head_ofSignature, List.append_assoc, List.cons_append]
  · intro x hx
    exact ⟨h.segment x hx, Text.not_mem_of_mem_split hx⟩
  · exact mt String.toList_eq_nil_iff.mp h.name_ne
  · intro hmem
    exact (h.name _ hmem).2 rfl
  · intro c hc
    rw [head_ofSignature] at hc
    obtain ⟨⟨-, hopen, hclose⟩, hcomma, -⟩ := h.front_char c hc
    exact ⟨hopen, hclose, hcomma⟩
  · intro c hc
    refine ⟨?_, ?_⟩
    · rintro rfl
      exact hopen hc
    · rintro rfl
      exact h.not_mem_inside hopen hc

/-- A selector with a parenthesis between its parentheses cannot be read. -/
theorem parseCompact_of_parenthesis {head raw : List Char} (hhead : ∀ c ∈ head, c ≠ '(' ∧ c ≠ ')' ∧ c ≠ ',')
    (hraw : '(' ∈ raw) : parseCompact (head ++ '(' :: (raw ++ [')'])) = .error .unbalancedParentheses := by
  have hopen : '(' ∉ head := fun hmem => (hhead _ hmem).1 rfl
  obtain ⟨htake, hdrop⟩ := takeWhile_dropWhile_append hopen (raw ++ [')'])
  have hne : head ++ '(' :: (raw ++ [')']) ≠ [] := List.append_ne_nil_of_right_ne_nil _ (List.cons_ne_nil _ _)
  have hplain : ¬ (head.any fun c => c == ')' || c == ',') = true := by
    simp only [List.any_eq_true, not_exists, not_and, Bool.or_eq_true, not_or, beq_iff_eq]
    exact fun c hc => (hhead c hc).2
  have hinside : (raw.any fun c => c == '(' || c == ')') = true := List.any_eq_true.mpr ⟨'(', hraw, rfl⟩
  unfold parseCompact
  rw [if_neg hne]
  dsimp only
  rw [htake, hdrop]
  dsimp only
  rw [if_neg (by simp), if_neg hplain, List.dropLast_concat, if_pos hinside]

end SelectorParts

/-! ## The pointcut of a signature -/

namespace Pointcut

open Signature (Plain front inside)

/-- A pattern without wildcards stands for one text. -/
theorem accepts_iff_of_plain [RegexEngine] {p : Pointcut} (hsize : p.WithinLimit) (hhead : '*' ∉ p.head)
    {types : List String} (htypes : p.params.types? = some types) (s : Signature) :
    p.accepts s = true ↔ s.text.toList = p.head ++ '(' :: ((",".intercalate types).toList ++ [')']) := by
  rw [accepts_iff_matches hsize, pattern, Pattern.ofWildcards_of_not_mem hhead, Pattern.matches_append_iff]
  simp only [Pattern.matches_ofLiteral_iff, matches_paramsPattern_iff, allows, htypes]
  constructor
  · rintro ⟨_, _, htext, rfl, _, rfl, rfl⟩
    exact htext
  · intro htext
    exact ⟨_, _, htext, rfl, _, rfl, rfl⟩

variable {owner name : String} {params : List String}

/-- There is no star in a segment of the owner. -/
theorem star_not_mem_segment (h : Plain owner name params) : ∀ x ∈ Text.segments owner, '*' ∉ x := by
  intro x hx hmem
  have howner : '*' ∈ owner.toList := by
    rw [← Text.join_split '.' owner.toList]
    exact Text.mem_join_of_mem hx hmem
  exact (h.owner _ howner).2.2 rfl

/-- The pointcut of a signature looks for its owner alone, and its head is what stands before the parameters. -/
theorem ofParts_ofSignature (h : Plain owner name params) (selector : String) :
    (ofParts selector (.ofSignature owner name params)).locator = .named owner ∧
      (ofParts selector (.ofSignature owner name params)).head = front owner name := by
  have hstar := star_not_mem_segment h
  have hsegments := Text.concat_lastSegment owner
  have hinit : ∀ x ∈ (Text.segments owner).dropLast, '*' ∉ x := fun x hx => hstar x (List.dropLast_subset _ hx)
  have hlast : '*' ∉ Text.lastSegment owner := by
    apply hstar
    rw [← hsegments]
    exact List.mem_append_right _ (List.mem_singleton.mpr rfl)
  have hcollapse : TypeLocator.collapseWildcards (Text.segments owner) = Text.segments owner := by
    have hconcat := TypeLocator.collapseWildcards_concat hinit (Text.lastSegment owner)
    rwa [hsegments] at hconcat
  have hlocator : TypeLocator.ofSegments (TypeLocator.collapseWildcards (Text.segments owner)) =
      .named (Text.dotted (Text.segments owner)) := by
    rw [← hsegments, TypeLocator.ofSegments_concat hinit, if_neg hlast]
  unfold ofParts SelectorParts.ofSignature
  dsimp only
  refine ⟨?_, ?_⟩
  · rw [hlocator, Text.dotted, Text.segments, Text.join_split, String.ofList_toList]
  · rw [hcollapse, Text.segments, Text.join_split, front]

/-- The signature of a method, with blank characters anywhere in it, is a selector that looks for the owner of the
method, asks for its parameter types and accepts this signature alone, unless one of the types holds a parenthesis:
then it is refused. The only other reason to refuse it is that it is too long for the engine. -/
theorem compile_signature [RegexEngine] {owner name selector : String} {params : List String}
    (h : Plain owner name params)
    (hselector : Text.compact selector = Text.compact (Signature.make owner name params).text) :
    ((∀ x ∈ params, '(' ∉ x.toList) →
      ∃ p : Pointcut, p.selector = selector ∧ p.locator = .named owner ∧ p.head = front owner name ∧
        p.params = (if params.isEmpty then .empty else .exact (params.map Text.compact)) ∧
        (p.WithinLimit → compile selector = .ok p ∧ ∀ s, p.accepts s = true ↔ s = Signature.make owner name params) ∧
        (¬ p.WithinLimit → compile selector =
          .error (.malformedSelector selector (RegexFault.tooLarge RegexEngine.sizeLimit).message))) ∧
    ((∃ x ∈ params, '(' ∈ x.toList) →
      compile selector = .error (.malformedSelector selector "unbalanced parentheses")) := by
  have htext : Text.compactChars selector.toList = (Signature.make owner name params).text.toList := by
    rw [← h.compactChars_make]
    exact String.ofList_inj.mp hselector
  have hopen_iff : '(' ∈ inside params ↔ ∃ x ∈ params, '(' ∈ x.toList := by
    have hblank : Text.isBlank '(' = false := by decide
    constructor
    · intro hmem
      rcases Signature.of_mem_inside hmem with hcomma | ⟨x, hx, hmem⟩
      · exact absurd hcomma (by decide)
      · exact ⟨x, hx, (Signature.mem_compact_iff hblank).mp hmem⟩
    · rintro ⟨x, hx, hmem⟩
      exact Text.mem_join_of_mem (List.mem_map_of_mem hx) ((Signature.mem_compact_iff hblank).mpr hmem)
  refine ⟨?_, ?_⟩
  · intro hplain
    have hopen : '(' ∉ inside params := by
      rw [hopen_iff]
      rintro ⟨x, hx, hmem⟩
      exact hplain x hx hmem
    have hwritten := SelectorParts.writtenAs_ofSignature h hopen
    rw [← htext] at hwritten
    obtain ⟨hlocator, hhead⟩ := ofParts_ofSignature h selector
    have hstar : '*' ∉ (ofParts selector (.ofSignature owner name params)).head := by
      rw [hhead]
      exact h.not_mem_front (by decide)
    have htypes : (ofParts selector (.ofSignature owner name params)).params.types? =
        some (params.map Text.compact) := by
      show ParamSpec.types? (if params.isEmpty then _ else _) = _
      cases params <;> rfl
    have hinside : (",".intercalate (params.map Text.compact)).toList = inside params := by
      rw [Text.toList_intercalate_comma, List.map_map]
      rfl
    refine ⟨ofParts selector (.ofSignature owner name params), rfl, hlocator, hhead, rfl,
      fun hsize => ⟨?_, ?_⟩, fun hlarge => ?_⟩
    · rw [compile_of_writtenAs hwritten, built_eq, if_pos hsize]
    · intro s
      rw [accepts_iff_of_plain hsize hstar htypes, hhead, hinside, ← Signature.toList_make, String.toList_inj]
      constructor
      · intro heq
        exact congrArg Signature.mk heq
      · rintro rfl
        rfl
    · rw [compile_of_writtenAs hwritten, built_eq, if_neg hlarge]
      rfl
  · intro hparen
    have hhead : ∀ c ∈ front owner name, c ≠ '(' ∧ c ≠ ')' ∧ c ≠ ',' := by
      intro c hc
      obtain ⟨⟨-, hopen, hclose⟩, hcomma, -⟩ := h.front_char c hc
      exact ⟨hopen, hclose, hcomma⟩
    have hread := SelectorParts.parseCompact_of_parenthesis hhead (hopen_iff.mpr hparen)
    rw [← Signature.toList_make, ← htext] at hread
    rw [compile, SelectorParts.parse, hread]
    rfl

/-- A generic type and an array type with blank characters single out their own method. -/
theorem compile_signature_load :
    Plain "a.b.C" "load" ["HashMap<String, u32>", "[u8; 4]"] ∧
    ∃ p, compile " a.b.C. load(HashMap<String,u32> , [u8;4])" = .ok p ∧ p.locator = .named "a.b.C" ∧
      p.params = .exact ["HashMap<String,u32>", "[u8;4]"] ∧
      ∀ s, p.accepts s = true ↔ s = Signature.make "a.b.C" "load" ["HashMap<String, u32>", "[u8; 4]"] := by
  have hplain : Plain "a.b.C" "load" ["HashMap<String, u32>", "[u8; 4]"] := by decide
  have hselector : Text.compact " a.b.C. load(HashMap<String,u32> , [u8;4])" =
      Text.compact (Signature.make "a.b.C" "load" ["HashMap<String, u32>", "[u8; 4]"]).text := by cbv
  obtain ⟨hread, -⟩ := compile_signature hplain hselector
  obtain ⟨⟨_, _, _, _⟩, rfl, rfl, rfl, rfl, hready, -⟩ := hread (by decide)
  obtain ⟨hcompile, haccepts⟩ := hready (by decide)
  exact ⟨hplain, _, hcompile, rfl, rfl, haccepts⟩

/-- A method that takes a pair cannot be selected by its signature: its parentheses are balanced, but they are
refused as if they were not. -/
theorem compile_signature_of_pair :
    Plain "a.C" "f" ["(i32, i32)"] ∧ (Signature.make "a.C" "f" ["(i32, i32)"]).text = "a.C.f((i32,i32))" ∧
      compile "a.C.f((i32,i32))" = .error (.malformedSelector "a.C.f((i32,i32))" "unbalanced parentheses") :=
  ⟨by decide, rfl, rfl⟩

end Pointcut

end AspectWeaver

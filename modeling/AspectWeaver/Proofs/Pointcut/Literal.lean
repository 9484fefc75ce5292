import AspectWeaver.Proofs.Pointcut.OwnSignature

/-!
# The pattern of a pointcut as a regular expression

A selector says what a signature has to look like: text that is the same, with gaps where a wildcard stands
(`Pattern.matches_join_iff`), and behind it the parameters (`Pointcut.allows_iff_admits`). The wildcard segments at
the end of the type count once (`TypeLocator.collapseReversed_replicate`). The top is `Pointcut.compile_literal`: what
stands in a selector means itself, but for `*` before the parameters and `...` in their place, and the pattern that
the pointcut shows, read as a regular expression, says the same.
-/

set_option autoImplicit false

namespace AspectWeaver

/-! ## Literal texts between wildcards -/

namespace Pattern

/-- A text with `*` between its pieces stands for the texts in which something without line feeds stands there. -/
theorem matches_join_iff {first : List Char} {rest : List (List Char)} (h : ∀ piece ∈ first :: rest, '*' ∉ piece)
    (xs : List Char) : Matches (ofWildcards (Text.join '*' (first :: rest))) xs ↔
      ∃ gaps : List (List Char), gaps.length = rest.length ∧ (∀ gap ∈ gaps, '\n' ∉ gap) ∧
        xs = first ++ (List.zipWith (· ++ ·) gaps rest).flatten := by
  have hfirst := h first List.mem_cons_self
  induction rest generalizing first xs with
  | nil =>
    rw [Text.join, ofWildcards_of_not_mem hfirst, matches_ofLiteral_iff]
    constructor
    · rintro rfl
      exact ⟨[], rfl, List.forall_mem_nil _, (List.append_nil _).symm⟩
    · rintro ⟨gaps, hlength, -, rfl⟩
      rw [List.length_eq_zero_iff.mp hlength]
      exact List.append_nil _
  | cons next rest ih =>
    have hrest : ∀ piece ∈ next :: rest, '*' ∉ piece := fun piece hpiece => h piece (List.mem_cons_of_mem _ hpiece)
    have hnext := fun xs => ih hrest xs (hrest next List.mem_cons_self)
    have hsplit : ofWildcards (Text.join '*' (first :: next :: rest)) =
        ofLiteral first ++ .run :: ofWildcards (Text.join '*' (next :: rest)) := by
      rw [Text.join, ofWildcards, List.map_append, ← ofWildcards, ofWildcards_of_not_mem hfirst]
      rfl
    rw [hsplit, matches_append_iff]
    simp only [matches_ofLiteral_iff, matches_run_iff, hnext]
    constructor
    · rintro ⟨_, _, rfl, rfl, gap, _, rfl, hgap, gaps, hlength, hgaps, rfl⟩
      refine ⟨gap :: gaps, congrArg (· + 1) hlength, List.forall_mem_cons.mpr ⟨hgap, hgaps⟩, ?_⟩
      rw [List.zipWith_cons_cons, List.flatten_cons, List.append_assoc]
    · rintro ⟨gaps, hlength, hgaps, rfl⟩
      cases gaps with
      | nil => cases hlength
      | cons gap gaps =>
        obtain ⟨hgap, hgaps⟩ := List.forall_mem_cons.mp hgaps
        refine ⟨first, _, rfl, rfl, gap, _, ?_, hgap, gaps, Nat.succ.inj hlength, hgaps, rfl⟩
        rw [List.zipWith_cons_cons, List.flatten_cons, List.append_assoc]

end Pattern

/-! ## Wildcards at the end of a type -/

namespace TypeLocator

/-- Of the wildcard segments in a row one is left. -/
theorem collapseReversed_replicate (k : Nat) {rest : List (List Char)} (h : rest.head? ≠ some wildcard) :
    collapseReversed (List.replicate k wildcard ++ rest) = List.replicate (min k 1) wildcard ++ rest := by
  induction k with
  | zero =>
    show collapseReversed rest = rest
    rcases rest with _ | ⟨first, _ | ⟨second, rest⟩⟩
    · rfl
    · rfl
    · have hfirst : first ≠ wildcard := fun hsame => h (congrArg some hsame)
      rw [collapseReversed, if_neg fun hboth => hfirst hboth.1]
  | succ k ih =>
    cases k with
    | zero =>
      show collapseReversed (wildcard :: rest) = wildcard :: rest
      cases rest with
      | nil => rfl
      | cons second rest =>
        have hsecond : second ≠ wildcard := fun hsame => h (congrArg some hsame)
        rw [collapseReversed, if_neg fun hboth => hsecond hboth.2]
    | succ k =>
      show collapseReversed (wildcard :: wildcard :: (List.replicate k wildcard ++ rest)) = _
      have hmin : min (k + 1 + 1) 1 = min (k + 1) 1 := by omega
      rw [collapseReversed, if_pos ⟨rfl, rfl⟩, hmin]
      exact ih

/-- Of the wildcard segments at the end one is left, if there are any. -/
theorem collapseWildcards_replicate {scope : List (List Char)} (h : scope.getLast? ≠ some wildcard) (k : Nat) :
    collapseWildcards (scope ++ List.replicate k wildcard) = scope ++ List.replicate (min k 1) wildcard := by
  rw [collapseWildcards, List.reverse_append, List.reverse_replicate,
    collapseReversed_replicate k (by rwa [List.head?_reverse]), List.reverse_append, List.reverse_replicate,
    List.reverse_reverse]

/-- Every type name is a scope and the wildcard segments behind it. -/
theorem exists_eq_append_replicate (segments : List (List Char)) :
    ∃ scope k, segments = scope ++ List.replicate k wildcard ∧ scope.getLast? ≠ some wildcard := by
  induction segments using List.reverseRecOn with
  | nil => exact ⟨[], 0, rfl, by simp⟩
  | append_singleton segments last ih =>
    by_cases hlast : last = wildcard
    · obtain ⟨scope, k, rfl, hscope⟩ := ih
      refine ⟨scope, k + 1, ?_, hscope⟩
      rw [hlast, List.append_assoc, List.replicate_succ']
    · refine ⟨segments ++ [last], 0, (List.append_nil _).symm, ?_⟩
      rw [List.getLast?_concat, ne_eq, Option.some.injEq]
      exact hlast

end TypeLocator

/-! ## Selectors -/

/-- What may stand between the parentheses of a signature, where `raw` stands in the selector. -/
def SelectorParts.Admits (parts : SelectorParts) (raw inside : List Char) : Prop :=
  match parts.params with
  | .any => '\n' ∉ inside
  | .empty => inside = []
  | .exact _ => inside = raw

namespace Pointcut

/-- What the pattern allows between the parentheses is what the selector admits there. -/
theorem allows_iff_admits {parts : SelectorParts} {raw cs : List Char} (h : parts.WrittenAs raw cs)
    (inside : List Char) : allows parts.params inside ↔ parts.Admits raw inside := by
  unfold allows SelectorParts.Admits
  have hparams := h.params
  cases hspec : parts.params with
  | any => rfl
  | empty => rfl
  | exact types =>
    rw [hspec] at hparams
    dsimp only [ParamSpec.types?]
    rw [hparams.toList_types rfl]

/-- A selector that can be read is a type, a method and what it says about parameters. Of the wildcard segments at
the end of the type all but one are dropped; what is left, with a dot and the method behind it, is cut at each `*`
into pieces. The pointcut accepts a signature exactly if these pieces stand in its text in that order, from the
beginning, with something without line feeds in the place of each `*`, and behind them parentheses: with anything
without line feeds inside for `...`, with nothing inside for nothing, and else with what stands inside in the
selector, without blank characters. No other character means anything but itself. The text that shows the pattern
is a regular expression, and searching for it finds something in the same signatures. -/
theorem compile_literal [RegexEngine] {selector : String} {p : Pointcut} (h : compile selector = .ok p) :
    ∃ parts raw scope k first rest shown expression,
      SelectorParts.WrittenAs parts raw (Text.compactChars selector.toList) ∧ p.params = parts.params ∧
      parts.typeSegments = scope ++ List.replicate k TypeLocator.wildcard ∧
      scope.getLast? ≠ some TypeLocator.wildcard ∧
      p.head = Text.join '.' (scope ++ List.replicate (min k 1) TypeLocator.wildcard) ++ '.' :: parts.method ∧
      p.head = Text.join '*' (first :: rest) ∧ (∀ piece ∈ first :: rest, '*' ∉ piece) ∧
      (∀ s : Signature, p.accepts s = true ↔ ∃ gaps : List (List Char), ∃ inside,
        gaps.length = rest.length ∧ (∀ gap ∈ gaps, '\n' ∉ gap) ∧ parts.Admits raw inside ∧
        s.text.toList = first ++ (List.zipWith (· ++ ·) gaps rest).flatten ++ '(' :: (inside ++ [')'])) ∧
      (∃ fields, p.describe = Text.record "Pointcut" (fields ++ [("pattern", Text.quoted shown)])) ∧
      Expression.read? shown.toList = some expression ∧
      ∀ s : Signature, p.accepts s = true ↔ expression.FoundIn s.text.toList := by
  obtain ⟨parts, raw, hwritten, rfl, hsize⟩ := (compile_eq_ok_iff selector p).mp h
  obtain ⟨scope, k, hsegments, hscope⟩ := TypeLocator.exists_eq_append_replicate parts.typeSegments
  have hhead : (ofParts selector parts).head =
      Text.join '.' (scope ++ List.replicate (min k 1) TypeLocator.wildcard) ++ '.' :: parts.method := by
    rw [← TypeLocator.collapseWildcards_replicate hscope k, ← hsegments]
    rfl
  obtain ⟨first, rest, hsplit⟩ := List.exists_cons_of_ne_nil (Text.split_ne_nil '*' (ofParts selector parts).head)
  have hpieces : ∀ piece ∈ first :: rest, '*' ∉ piece :=
    fun piece hpiece => Text.not_mem_of_mem_split (hsplit ▸ hpiece)
  have hjoin : (ofParts selector parts).head = Text.join '*' (first :: rest) := by rw [← hsplit, Text.join_split]
  refine ⟨parts, raw, scope, k, first, rest, String.ofList (ofParts selector parts).pattern.render,
    .ofPattern (ofParts selector parts).pattern, hwritten, rfl, hsegments, hscope, hhead, hjoin, hpieces, ?_,
    ⟨[("selector", Text.quoted selector), ("locator", describeLocator (ofParts selector parts).locator),
      ("params", describeParams parts.params)], rfl⟩, ?_, ?_⟩
  · intro s
    rw [accepts_iff_matches hsize, pattern, Pattern.matches_append_iff, hjoin]
    simp only [Pattern.matches_join_iff hpieces, matches_paramsPattern_iff]
    constructor
    · rintro ⟨_, _, htext, ⟨gaps, hlength, hgaps, rfl⟩, inside, rfl, hinside⟩
      exact ⟨gaps, inside, hlength, hgaps, (allows_iff_admits hwritten inside).mp hinside, htext⟩
    · rintro ⟨gaps, inside, hlength, hgaps, hinside, htext⟩
      exact ⟨_, _, htext, ⟨gaps, hlength, hgaps, rfl⟩, inside, rfl, (allows_iff_admits hwritten inside).mpr hinside⟩
  · rw [String.toList_ofList]
    exact Expression.read?_render _
  · intro s
    rw [Expression.foundIn_ofPattern_iff, accepts_iff_matches hsize]

/-- The pointcut of a selector with characters that have a meaning in regular expressions, backslashes among them,
and with a `*` between its parentheses, which means itself there. -/
def pointed : Pointcut :=
  ⟨"a.b\\.*.*.get*(Vec<*>, [u8])", .inNamespace "a.b\\", .exact ["Vec<*>", "[u8]"], "a.b\\.*.get*".toList⟩

/-- A backslash, a bracket and a wildcard inside the parameter list mean themselves. -/
theorem compile_literal_pointed :
    compile "a.b\\.*.*.get*(Vec<*>, [u8])" = .ok pointed ∧
      (∀ s, pointed.accepts s = true ↔ ∃ name tail : List Char, '\n' ∉ name ∧ '\n' ∉ tail ∧
        s.text.toList = "a.b\\.".toList ++ (name ++ ".get".toList ++ tail) ++ "(Vec<*>,[u8])".toList) ∧
      pointed.accepts ⟨"a.b\\.C.D.getAll(Vec<*>,[u8])"⟩ = true ∧
      ∃ shown expression, Expression.read? (String.toList shown) = some expression ∧
        expression.FoundIn "a.b\\.C.D.getAll(Vec<*>,[u8])".toList := by
  have hcompile : compile "a.b\\.*.*.get*(Vec<*>, [u8])" = .ok pointed := by decide +kernel
  obtain ⟨parts, raw, scope, k, first, rest, shown, expression, hwritten, hparams, -, -, -, hhead, hpieces, haccepts,
    -, hread, hfound⟩ := compile_literal hcompile
  have hcut : Text.split '*' pointed.head = ["a.b\\.".toList, ".get".toList, []] := by decide +kernel
  rw [hhead, Text.split_join (List.cons_ne_nil _ _) hpieces] at hcut
  obtain ⟨rfl, rfl⟩ := List.cons.inj hcut
  have hexact := hwritten.params
  rw [← hparams] at hexact
  obtain rfl : "Vec<*>,[u8]".toList = raw := hexact.toList_types rfl
  have hadmits (inside : List Char) : parts.Admits "Vec<*>,[u8]".toList inside ↔ inside = "Vec<*>,[u8]".toList := by
    rw [SelectorParts.Admits, ← hparams]
    rfl
  simp only [hadmits] at haccepts
  have hgap (name tail : List Char) : (List.zipWith (· ++ ·) [name, tail] [".get".toList, []]).flatten =
      name ++ ".get".toList ++ tail := by
    show (name ++ ".get".toList) ++ ((tail ++ []) ++ []) = _
    rw [List.append_nil, List.append_nil]
  have hmeaning : ∀ s, pointed.accepts s = true ↔ ∃ name tail : List Char, '\n' ∉ name ∧ '\n' ∉ tail ∧
      s.text.toList = "a.b\\.".toList ++ (name ++ ".get".toList ++ tail) ++ "(Vec<*>,[u8])".toList := by
    intro s
    rw [haccepts]
    constructor
    · rintro ⟨gaps, _, hlength, hgaps, rfl, htext⟩
      obtain ⟨name, tail, rfl⟩ := List.length_eq_two.mp hlength
      refine ⟨name, tail, hgaps name List.mem_cons_self, hgaps tail (List.mem_cons_of_mem _ List.mem_cons_self), ?_⟩
      rw [htext, ← hgap]
      rfl
    · rintro ⟨name, tail, hname, htail, htext⟩
      refine ⟨[name, tail], _, rfl, List.forall_mem_cons.mpr ⟨hname, List.forall_mem_singleton.mpr htail⟩, rfl, ?_⟩
      rw [htext, ← hgap]
      rfl
  have haccepted : pointed.accepts ⟨"a.b\\.C.D.getAll(Vec<*>,[u8])"⟩ = true :=
    (hmeaning _).mpr ⟨"C.D".toList, "All".toList, by decide, by decide, by decide⟩
  exact ⟨hcompile, hmeaning, haccepted, shown, expression, hread, (hfound _).mp haccepted⟩

end Pointcut

end AspectWeaver

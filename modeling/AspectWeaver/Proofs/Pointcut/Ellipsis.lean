import AspectWeaver.Proofs.Pointcut.Overloads

/-!
# Selectors for any parameters

A selector with `...` says nothing about parameters, but the parameter types of a method may still decide whether
it is selected: a wildcard that stands for any characters reaches behind the name of the method, and what it
reaches has to end before a parenthesis in a parameter type. Which methods are selected so is
`SelectorParts.overruns`, and `Pointcut.select_any` says that there are no others beside those that the selector
names, and none without a wildcard in the selector and a parenthesis in a parameter type.
-/

set_option autoImplicit false

namespace AspectWeaver

variable {β : Type}

namespace SelectorParts

/-- Whether the wildcards of a selector reach behind the name of a method: its signature up to a parenthesis in a
parameter type fits the selector. -/
def overruns (parts : SelectorParts) (t : TypeDescriptor β) (m : Method β) : Bool :=
  t.isConcrete && parts.sharesScope t.name && (Text.fronts '(' m.paramsText).any fun reached =>
    Text.fits (parts.lastSegment ++ '.' :: parts.method)
      (Text.lastSegment t.name ++ '.' :: (m.descriptor.name.toList ++ '(' :: reached))

/-- The wildcards reach behind a name exactly if the signature up to some parenthesis in its types fits. -/
theorem overruns_iff (parts : SelectorParts) (t : TypeDescriptor β) (m : Method β) :
    parts.overruns t m = true ↔ t.isConcrete = true ∧ parts.sharesScope t.name = true ∧
      ∃ reached rest, m.paramsText = reached ++ '(' :: rest ∧
        Text.fits (parts.lastSegment ++ '.' :: parts.method)
          (Text.lastSegment t.name ++ '.' :: (m.descriptor.name.toList ++ '(' :: reached)) = true := by
  rw [overruns, Bool.and_eq_true, Bool.and_eq_true, and_assoc, List.any_eq_true]
  simp only [Text.mem_fronts_iff]
  constructor
  · rintro ⟨hconcrete, hshares, reached, ⟨rest, hrest⟩, hfits⟩
    exact ⟨hconcrete, hshares, reached, rest, hrest, hfits⟩
  · rintro ⟨hconcrete, hshares, reached, rest, hrest, hfits⟩
    exact ⟨hconcrete, hshares, reached, ⟨rest, hrest⟩, hfits⟩

variable {parts : SelectorParts} {raw cs : List Char}

/-- Only a wildcard reaches a parenthesis. -/
theorem star_mem_of_overruns (h : parts.WrittenAs raw cs) {t : TypeDescriptor β} {m : Method β}
    (hoverruns : parts.overruns t m = true) : '*' ∈ parts.head := by
  obtain ⟨-, -, reached, rest, -, hfits⟩ := (overruns_iff parts t m).mp hoverruns
  have hhead : ∀ c ∈ parts.lastSegment ++ '.' :: parts.method, c ∈ parts.head := by
    intro c hc
    rw [head, ← h.typeSegments_eq, Text.join_concat_eq_scope, List.append_assoc]
    exact List.mem_append_right _ hc
  by_contra hstar
  have htext := (Text.fits_iff_eq (fun hmem => hstar (hhead _ hmem)) _).mp hfits
  have hopen : '(' ∈ parts.lastSegment ++ '.' :: parts.method := by
    rw [← htext]
    simp
  exact (h.plain _ (hhead _ hopen)).1 rfl

/-- Where the wildcards reach behind the name of a method, one of its parameter types holds a parenthesis. -/
theorem exists_parenthesis_of_overruns {t : TypeDescriptor β} {m : Method β} (h : parts.overruns t m = true) :
    ∃ x ∈ m.descriptor.params, '(' ∈ x.toList := by
  obtain ⟨-, -, reached, rest, hrest, -⟩ := (overruns_iff parts t m).mp h
  have hmem : '(' ∈ m.paramsText := by
    rw [hrest]
    exact List.mem_append_right _ List.mem_cons_self
  rw [Method.paramsText, Text.toList_intercalate_comma] at hmem
  obtain hcomma | ⟨piece, hpiece, hopen⟩ := Text.of_mem_join hmem
  · exact absurd hcomma (by decide)
  · obtain ⟨param, hparam, rfl⟩ := List.mem_map.mp hpiece
    exact ⟨param, hparam, hopen⟩

end SelectorParts

namespace Pointcut

/-- A selector for any parameters whose pattern is not too large for the engine selects the methods that it names and
those that its wildcards reach behind the name of, and the second kind takes a wildcard and a parameter type with a
parenthesis. -/
theorem select_any [RegexEngine] {selector : String} {parts : SelectorParts}
    (hparse : SelectorParts.parse selector = .ok parts) (hsize : (ofParts selector parts).WithinLimit)
    (hscope : parts.PlainScope) (hany : parts.params = .any) {ts : List (TypeDescriptor β)}
    (hbuilt : ∀ t ∈ Catalog.inForce ts, t.Built) (hnames : ∀ t ∈ Catalog.inForce ts, t.HasNames) :
    (∃ p, compile selector = .ok p ∧ p.select (Catalog.ofTypes ts) =
      (Catalog.inForce ts).flatMap fun t =>
        (t.methods.filter fun m => parts.names t m || parts.overruns t m).map fun m => ⟨t, m⟩) ∧
    ∀ (t : TypeDescriptor β) (m : Method β), parts.overruns t m = true →
      '*' ∈ parts.head ∧ ∃ x ∈ m.descriptor.params, '(' ∈ x.toList := by
  obtain ⟨raw, hraw⟩ := (SelectorParts.parseCompact_eq_ok_iff _ _).mp hparse
  refine ⟨⟨ofParts selector parts, (compile_eq_ok_iff _ _).mpr ⟨parts, raw, hraw, rfl, hsize⟩, select_ofTypes ?_⟩, ?_⟩
  · intro t ht m hm
    have hallows (inside : List Char) : allows parts.params inside ↔ '\n' ∉ inside := by rw [hany]; rfl
    have htakes : parts.params.takes m.descriptor.params = true := by rw [hany]; rfl
    have hfeed : '\n' ∉ m.paramsText := by
      intro hmem
      exact absurd (SelectorParts.not_blank_of_mem_paramsText (hbuilt t ht) hm hmem) (by decide)
    rw [SelectorParts.located_accepts_iff hraw hscope hsize (hbuilt t ht) (hnames t ht) hm, Bool.or_eq_true,
      SelectorParts.names_iff, SelectorParts.overruns_iff]
    simp only [hallows, htakes, hfeed, not_false_eq_true, and_true]
    constructor
    · rintro (⟨hconcrete, hshares, hlast, hmethod⟩ | ⟨hconcrete, hshares, reached, rest, hrest, hfits⟩)
      · exact ⟨hconcrete, hshares, Or.inl ⟨hlast, hmethod⟩⟩
      · have hafter : '\n' ∉ rest := by
          intro hmem
          rw [hrest] at hfeed
          exact hfeed (List.mem_append_right _ (List.mem_cons_of_mem _ hmem))
        exact ⟨hconcrete, hshares, Or.inr ⟨reached, rest, hrest, hfits, hafter⟩⟩
    · rintro ⟨hconcrete, hshares, ⟨hlast, hmethod⟩ | ⟨reached, rest, hrest, hfits, -⟩⟩
      · exact Or.inl ⟨hconcrete, hshares, hlast, hmethod⟩
      · exact Or.inr ⟨hconcrete, hshares, reached, rest, hrest, hfits⟩
  · intro t m hoverruns
    exact ⟨SelectorParts.star_mem_of_overruns hraw hoverruns, SelectorParts.exists_parenthesis_of_overruns hoverruns⟩

/-- A type with a method that takes a function and one that does not. -/
def callbacks : List (TypeDescriptor Unit) :=
  [((TypeDescriptor.concrete "a.C" "C").method "go" ["fn(i32)"] ()).method "gain" ["i32"] ()]

/-- Where no parenthesis is in reach, only the method that the selector names is selected. -/
theorem select_any_callbacks :
    (∀ t ∈ Catalog.inForce callbacks, t.Built ∧ t.HasNames) ∧
    ∃ p parts, SelectorParts.parse "a.C.ga*(...)" = .ok parts ∧ parts.PlainScope ∧ parts.params = .any ∧
      compile "a.C.ga*(...)" = .ok p ∧
      (p.select (Catalog.ofTypes callbacks)).map (fun found => found.method.signature.text) = ["a.C.gain(i32)"] := by
  have hbuilt : ∀ t ∈ Catalog.inForce callbacks, t.Built := by
    have hforce : Catalog.inForce callbacks = callbacks := rfl
    rw [hforce, callbacks, List.forall_mem_singleton]
    exact .add _ _ _ (.add _ _ _ (.concrete _ _))
  have hnames : ∀ t ∈ Catalog.inForce callbacks, t.HasNames := by decide
  have hparse : SelectorParts.parse "a.C.ga*(...)" = .ok ⟨[['a'], ['C']], ['g', 'a', '*'], .any⟩ := rfl
  obtain ⟨⟨p, hcompile, hselect⟩, -⟩ := select_any hparse (by decide) (by decide) rfl hbuilt hnames
  refine ⟨fun t ht => ⟨hbuilt t ht, hnames t ht⟩, p, _, hparse, by decide, rfl, hcompile, ?_⟩
  rw [hselect]
  rfl

/-- The name `go` does not fit `g*n`, but `go(fn` does, and a parenthesis follows. -/
theorem select_any_reaches_parameters :
    ∃ p, compile "a.C.g*n(...)" = .ok p ∧
      (p.select (Catalog.ofTypes callbacks)).map (fun found => found.method.signature.text) =
        ["a.C.go(fn(i32))", "a.C.gain(i32)"] ∧
      Text.fits ['g', '*', 'n'] ['g', 'o'] = false :=
  ⟨_, rfl, rfl, rfl⟩

end Pointcut

end AspectWeaver

import AspectWeaver.Proofs.Pointcut.Brackets
import AspectWeaver.Proofs.Pointcut.Compile
import AspectWeaver.Proofs.Pointcut.Names

/-!
# Which overloads a selector selects

The signature of a method and the head of a selector share the segments before the last one of the type, so
only what is behind them has to fit (`SelectorParts.accepts_iff_of_sharesScope`). It fits name by name, or else
the wildcards reach up to a parenthesis inside a parameter type. With a list of types, or the empty list, this
second case is impossible, and the selector selects exactly what it names (`Pointcut.select_types`).
-/

set_option autoImplicit false

namespace AspectWeaver

variable {β : Type}

/-! ## What a selector names -/

/-- The parameter types of a method in its signature, with a comma between each two of them. -/
def Method.paramsText (m : Method β) : List Char := (",".intercalate m.descriptor.params).toList

/-- Whether a method may have these parameter types. -/
def ParamSpec.takes (spec : ParamSpec) (params : List String) : Bool :=
  match spec.types? with
  | none => true
  | some types => params == types

namespace SelectorParts

/-- Wildcards stand only in the last segment of the type and in the method. -/
def PlainScope (parts : SelectorParts) : Prop := ∀ x ∈ parts.typeSegments.dropLast, '*' ∉ x

instance (parts : SelectorParts) : Decidable parts.PlainScope := inferInstanceAs (Decidable (∀ x ∈ _, _))

/-- The last segment of the type. -/
def lastSegment (parts : SelectorParts) : List Char := parts.typeSegments.getLastD []

/-- Whether a type has as many segments as the selector says, and the same ones before the last. -/
def sharesScope (parts : SelectorParts) (name : String) : Bool :=
  (Text.segments name).length == parts.typeSegments.length &&
    (Text.segments name).dropLast == parts.typeSegments.dropLast

/-- Whether a method of a type is one that the selector names: the type is concrete, its name and the name of
the method fit, and so do the parameter types. -/
def names (parts : SelectorParts) (t : TypeDescriptor β) (m : Method β) : Bool :=
  t.isConcrete && parts.sharesScope t.name && Text.fits parts.lastSegment (Text.lastSegment t.name) &&
    Text.fits parts.method m.descriptor.name.toList && parts.params.takes m.descriptor.params

variable {parts : SelectorParts} {raw cs : List Char}

/-- The type of a selector has its last segment behind the others. -/
theorem WrittenAs.typeSegments_eq (h : parts.WrittenAs raw cs) :
    parts.typeSegments.dropLast ++ [parts.lastSegment] = parts.typeSegments :=
  Text.concat_getLastD h.typeSegments_ne_nil

/-- There is no dot in the last segment of a type. -/
theorem WrittenAs.dot_not_mem_lastSegment (h : parts.WrittenAs raw cs) : '.' ∉ parts.lastSegment :=
  (h.segment _ (Text.getLastD_mem h.typeSegments_ne_nil)).2

/-- A name shares the scope of a selector exactly if all its segments but the last are the same. -/
theorem sharesScope_iff (h : parts.WrittenAs raw cs) (name : String) :
    parts.sharesScope name = true ↔ (Text.segments name).dropLast = parts.typeSegments.dropLast := by
  rw [sharesScope, Bool.and_eq_true, beq_iff_eq, beq_iff_eq]
  refine ⟨And.right, fun hscope => ⟨?_, hscope⟩⟩
  rw [← Text.concat_lastSegment name, ← h.typeSegments_eq, hscope]
  simp

/-- The candidates of a selector are the types that share its scope and, if it has no wildcards there, its last
segment. -/
theorem locates_iff (h : parts.WrittenAs raw cs) (hscope : parts.PlainScope) (selector : String)
    {t : TypeDescriptor β} (ht : t.HasNames) :
    (Pointcut.ofParts selector parts).locator.locates t = true ↔
      parts.sharesScope t.name = true ∧ ('*' ∉ parts.lastSegment → parts.lastSegment = Text.lastSegment t.name) := by
  have hlocator : (Pointcut.ofParts selector parts).locator =
      .ofSegments (TypeLocator.collapseWildcards (parts.typeSegments.dropLast ++ [parts.lastSegment])) := by
    rw [h.typeSegments_eq]
    rfl
  rw [hlocator, TypeLocator.ofSegments_concat hscope, sharesScope_iff h]
  unfold TypeLocator.locates
  by_cases hstar : '*' ∈ parts.lastSegment
  · have hinit : ∀ x ∈ parts.typeSegments.dropLast, x ≠ [] ∧ '.' ∉ x := fun x hx =>
      h.segment x (List.dropLast_subset _ hx)
    rw [if_pos hstar]
    dsimp only
    rw [decide_eq_true_eq, TypeDescriptor.namespaceName, Text.namespaceOf_eq_dotted_iff ht.segment hinit]
    exact (and_iff_left fun hplain => absurd hstar hplain).symm
  · rw [if_neg hstar, h.typeSegments_eq]
    dsimp only
    rw [decide_eq_true_eq, Text.eq_dotted_iff h.typeSegments_ne_nil fun x hx => (h.segment x hx).2]
    constructor
    · intro hsegments
      exact ⟨by rw [hsegments], fun _ => by rw [lastSegment, Text.lastSegment, hsegments]⟩
    · rintro ⟨hinit, hlast⟩
      rw [← Text.concat_lastSegment t.name, hinit, ← hlast hstar, h.typeSegments_eq]

/-! ## What the signature text shows -/

/-- The text of a signature is the type, the method and the parameter types. -/
theorem toList_signature {t : TypeDescriptor β} (hbuilt : t.Built) {m : Method β} (hm : m ∈ t.methods) :
    m.signature.text.toList =
      t.name.toList ++ '.' :: m.descriptor.name.toList ++ '(' :: (m.paramsText ++ [')']) := by
  obtain ⟨howner, hparams⟩ := hbuilt.descriptor m hm
  rw [Method.signature, MethodDescriptor.signature, Signature.make, howner, hparams, Method.paramsText]
  simp [String.toList_append]

/-- The parameter types of a signature hold no blank characters. -/
theorem not_blank_of_mem_paramsText {t : TypeDescriptor β} (hbuilt : t.Built) {m : Method β} (hm : m ∈ t.methods)
    {c : Char} (hc : c ∈ m.paramsText) : Text.isBlank c = false := by
  obtain ⟨-, hparams⟩ := hbuilt.descriptor m hm
  rw [Method.paramsText, ← hparams, Text.toList_intercalate_comma] at hc
  obtain rfl | ⟨piece, hpiece, hc⟩ := Text.of_mem_join hc
  · rfl
  · simp only [List.map_map, List.mem_map, Function.comp_apply, Text.compact, String.toList_ofList] at hpiece
    obtain ⟨param, -, rfl⟩ := hpiece
    simpa using (List.mem_filter.mp hc).2

/-- A signature holds no line feed. -/
theorem feed_not_mem_signature {t : TypeDescriptor β} (hbuilt : t.Built) (hnames : t.HasNames) {m : Method β}
    (hm : m ∈ t.methods) : '\n' ∉ m.signature.text.toList := by
  rw [toList_signature hbuilt hm]
  simp only [List.mem_append, List.mem_cons, not_or]
  refine ⟨⟨?_, by decide, ?_⟩, by decide, ?_, by decide, List.not_mem_nil⟩
  · intro hmem
    exact absurd (hnames.name _ hmem).1 (by decide)
  · intro hmem
    exact absurd (hnames.method m hm _ hmem).1.1 (by decide)
  · intro hmem
    exact absurd (not_blank_of_mem_paramsText hbuilt hm hmem) (by decide)

/-- There is no star in a plain scope. -/
theorem star_not_mem_scope (hscope : parts.PlainScope) : '*' ∉ Text.scope parts.typeSegments.dropLast := by
  intro hmem
  obtain ⟨segment, hsegment, hc⟩ := List.mem_flatMap.mp hmem
  rcases List.mem_append.mp hc with hc | hc
  · exact hscope segment hsegment hc
  · exact absurd hc (by decide)

/-- Behind a shared scope a signature is accepted if the names and the whole list of types fit, or if what stands
before a parenthesis in the list fits as a whole, and so does the rest of the list. -/
theorem accepts_iff_of_sharesScope [RegexEngine] (h : parts.WrittenAs raw cs) (hscope : parts.PlainScope)
    {selector : String} (hsize : (Pointcut.ofParts selector parts).WithinLimit) {t : TypeDescriptor β}
    (hbuilt : t.Built) (hnames : t.HasNames) (hshares : parts.sharesScope t.name = true) {m : Method β}
    (hm : m ∈ t.methods) :
    (Pointcut.ofParts selector parts).accepts m.signature = true ↔
      (Text.fits parts.lastSegment (Text.lastSegment t.name) = true ∧
        Text.fits parts.method m.descriptor.name.toList = true ∧ Pointcut.allows parts.params m.paramsText) ∨
      ∃ reached rest, m.paramsText = reached ++ '(' :: rest ∧
        Text.fits (parts.lastSegment ++ '.' :: parts.method)
          (Text.lastSegment t.name ++ '.' :: (m.descriptor.name.toList ++ '(' :: reached)) = true ∧
        Pointcut.allows parts.params rest := by
  have hstar := star_not_mem_scope hscope
  have hhead : (Pointcut.ofParts selector parts).head =
      Text.scope parts.typeSegments.dropLast ++ (parts.lastSegment ++ '.' :: parts.method) := by
    have hcollapse := TypeLocator.collapseWildcards_concat hscope parts.lastSegment
    rw [h.typeSegments_eq] at hcollapse
    rw [Pointcut.ofParts, hcollapse, ← List.append_assoc, ← Text.join_concat_eq_scope, h.typeSegments_eq]
  have hname : t.name.toList = Text.scope parts.typeSegments.dropLast ++ Text.lastSegment t.name := by
    rw [← (sharesScope_iff h t.name).mp hshares, ← Text.toList_eq_scope]
  have hopen : '(' ∉ t.name.toList ++ '.' :: m.descriptor.name.toList := by
    simp only [List.mem_append, List.mem_cons, not_or]
    refine ⟨fun hmem => (hnames.name _ hmem).2.1 rfl, by decide, ?_⟩
    exact fun hmem => (hnames.method m hm _ hmem).1.2.1 rfl
  have hdot : '.' ∉ m.descriptor.name.toList := fun hmem => (hnames.method m hm _ hmem).2 rfl
  have hfits (text : List Char) :
      Text.fits (Text.scope parts.typeSegments.dropLast ++ (parts.lastSegment ++ '.' :: parts.method))
        (t.name.toList ++ '.' :: text) = true ↔
      Text.fits (parts.lastSegment ++ '.' :: parts.method) (Text.lastSegment t.name ++ '.' :: text) = true := by
    rw [hname, List.append_assoc]
    exact Text.fits_append_left hstar _ _
  rw [Pointcut.accepts_iff hsize (feed_not_mem_signature hbuilt hnames hm), toList_signature hbuilt hm, hhead]
  simp only [Text.append_cons_eq_iff hopen]
  constructor
  · rintro ⟨front, inside, ⟨rfl, hinside⟩ | ⟨reached, rfl, hrest⟩, hfront, hallows⟩
    · rw [List.append_cancel_right hinside] at hallows
      rw [hfits, Text.fits_dot_iff_of_plain (Text.dot_not_mem_lastSegment _) hdot] at hfront
      exact Or.inl ⟨hfront.1, hfront.2, hallows⟩
    · have hparams : m.paramsText = reached ++ '(' :: inside := by
        apply List.append_cancel_right
        rw [hrest, List.append_assoc, List.cons_append]
      rw [List.append_assoc, List.cons_append, hfits] at hfront
      exact Or.inr ⟨reached, inside, hparams, hfront, hallows⟩
  · rintro (⟨hlast, hmethod, hallows⟩ | ⟨reached, rest, hparams, hfront, hallows⟩)
    · refine ⟨_, m.paramsText, Or.inl ⟨rfl, rfl⟩, ?_, hallows⟩
      rw [hfits, Text.fits_dot_iff_of_plain (Text.dot_not_mem_lastSegment _) hdot]
      exact ⟨hlast, hmethod⟩
    · refine ⟨_, rest, Or.inr ⟨reached, rfl, ?_⟩, ?_, hallows⟩
      · rw [hparams, List.append_assoc, List.cons_append]
      · rw [List.append_assoc, List.cons_append, hfits]
        exact hfront

/-- A method of a type in force is selected if its names and its list of types fit, or if what stands before a
parenthesis in the list fits as a whole, and so does the rest of the list. -/
theorem located_accepts_iff [RegexEngine] (h : parts.WrittenAs raw cs) (hscope : parts.PlainScope)
    {selector : String} (hsize : (Pointcut.ofParts selector parts).WithinLimit) {t : TypeDescriptor β}
    (hbuilt : t.Built) (hnames : t.HasNames) {m : Method β} (hm : m ∈ t.methods) :
    (Pointcut.ofParts selector parts).locator.locates t = true ∧
        (Pointcut.ofParts selector parts).accepts m.signature = true ↔
      parts.sharesScope t.name = true ∧
      ((Text.fits parts.lastSegment (Text.lastSegment t.name) = true ∧
        Text.fits parts.method m.descriptor.name.toList = true ∧ Pointcut.allows parts.params m.paramsText) ∨
      ∃ reached rest, m.paramsText = reached ++ '(' :: rest ∧
        Text.fits (parts.lastSegment ++ '.' :: parts.method)
          (Text.lastSegment t.name ++ '.' :: (m.descriptor.name.toList ++ '(' :: reached)) = true ∧
        Pointcut.allows parts.params rest) := by
  rw [locates_iff h hscope selector hnames]
  constructor
  · rintro ⟨⟨hshares, -⟩, haccepts⟩
    exact ⟨hshares, (accepts_iff_of_sharesScope h hscope hsize hbuilt hnames hshares hm).mp haccepts⟩
  · rintro ⟨hshares, hfits⟩
    refine ⟨⟨hshares, fun hstar => ?_⟩,
      (accepts_iff_of_sharesScope h hscope hsize hbuilt hnames hshares hm).mpr hfits⟩
    -- without wildcards the last segment cannot fit more than itself, even if the method does
    rcases hfits with ⟨hlast, -, -⟩ | ⟨reached, rest, -, hfits, -⟩
    · exact ((Text.fits_iff_eq hstar _).mp hlast).symm
    · exact Text.eq_of_fits_dot h.dot_not_mem_lastSegment hstar (Text.dot_not_mem_lastSegment _) hfits

/-- A selector names the methods of concrete types whose names and parameter types fit. -/
theorem names_iff (parts : SelectorParts) (t : TypeDescriptor β) (m : Method β) :
    parts.names t m = true ↔ t.isConcrete = true ∧ parts.sharesScope t.name = true ∧
      Text.fits parts.lastSegment (Text.lastSegment t.name) = true ∧
      Text.fits parts.method m.descriptor.name.toList = true ∧ parts.params.takes m.descriptor.params = true := by
  simp only [names, Bool.and_eq_true, and_assoc]

end SelectorParts

/-! ## What a pointcut selects -/

namespace Pointcut

/-- Selecting goes through the types in force and keeps of each the methods that are found and accepted. -/
theorem select_ofTypes [RegexEngine] {p : Pointcut} {ts : List (TypeDescriptor β)}
    {keep : TypeDescriptor β → Method β → Bool} (h : ∀ t ∈ Catalog.inForce ts, ∀ m ∈ t.methods,
      keep t m = true ↔ t.isConcrete = true ∧ p.locator.locates t = true ∧ p.accepts m.signature = true) :
    p.select (Catalog.ofTypes ts) =
      (Catalog.inForce ts).flatMap fun t => (t.methods.filter (keep t)).map fun m => ⟨t, m⟩ := by
  rw [select, candidateTypes_ofTypes]
  generalize Catalog.inForce ts = types at h ⊢
  induction types with
  | nil => rfl
  | cons t types ih =>
    have htypes := ih fun u hu => h u (List.mem_cons_of_mem t hu)
    have ht := h t List.mem_cons_self
    rw [List.flatMap_cons, ← htypes]
    by_cases hfound : (t.isConcrete && p.locator.locates t) = true
    · rw [List.filter_cons, if_pos hfound, List.flatMap_cons]
      obtain ⟨hconcrete, hlocated⟩ := Bool.and_eq_true_iff.mp hfound
      have hmethods : (t.methods.filter fun m => p.accepts m.signature) = t.methods.filter (keep t) := by
        apply List.filter_congr
        intro m hm
        rw [Bool.eq_iff_iff, ht m hm]
        exact ⟨fun haccepts => ⟨hconcrete, hlocated, haccepts⟩, fun hkeep => hkeep.2.2⟩
      rw [hmethods]
    · have hmethods : t.methods.filter (keep t) = [] := by
        apply List.filter_eq_nil_iff.mpr
        intro m hm hkeep
        obtain ⟨hconcrete, hlocated, -⟩ := (ht m hm).mp hkeep
        exact hfound (Bool.and_eq_true_iff.mpr ⟨hconcrete, hlocated⟩)
      rw [List.filter_cons, if_neg hfound, hmethods]
      rfl

/-- A selector with a list of parameter types, or the empty list, selects exactly the methods that it names, if its
pattern is not too large for the engine. -/
theorem select_types [RegexEngine] {selector : String} {parts : SelectorParts}
    (hparse : SelectorParts.parse selector = .ok parts) (hsize : (ofParts selector parts).WithinLimit)
    (hscope : parts.PlainScope) {types : List String} (htypes : parts.params.types? = some types)
    {ts : List (TypeDescriptor β)} (hbuilt : ∀ t ∈ Catalog.inForce ts, t.Built)
    (hnames : ∀ t ∈ Catalog.inForce ts, t.HasNames)
    (hparams : ∀ t ∈ Catalog.inForce ts, ∀ m ∈ t.methods, ∀ x ∈ m.descriptor.params,
      x ≠ "" ∧ Text.WellBracketed x.toList) :
    ∃ p, compile selector = .ok p ∧ p.select (Catalog.ofTypes ts) =
      (Catalog.inForce ts).flatMap fun t => (t.methods.filter (parts.names t)).map fun m => ⟨t, m⟩ := by
  obtain ⟨raw, hraw⟩ := (SelectorParts.parseCompact_eq_ok_iff _ _).mp hparse
  have hplain : '(' ∉ raw ∧ ')' ∉ raw :=
    ⟨fun hmem => (hraw.inside _ hmem).1 rfl, fun hmem => (hraw.inside _ hmem).2 rfl⟩
  have hallows (inside : List Char) : allows parts.params inside ↔ inside = raw := by
    rw [allows, htypes, ← hraw.params.toList_types htypes]
  refine ⟨ofParts selector parts, (compile_eq_ok_iff _ _).mpr ⟨parts, raw, hraw, rfl, hsize⟩, select_ofTypes ?_⟩
  intro t ht m hm
  have hjoin : m.paramsText = Text.join ',' (m.descriptor.params.map String.toList) :=
    Text.toList_intercalate_comma _
  have hbracketed : ∀ x ∈ m.descriptor.params.map String.toList, Text.WellBracketed x := by
    intro x hx
    obtain ⟨param, hparam, rfl⟩ := List.mem_map.mp hx
    exact (hparams t ht m hm param hparam).2
  -- the rest of a list behind one of its parentheses holds a closing one, which the selector does not
  have hinside : ¬ ∃ reached rest, m.paramsText = reached ++ '(' :: rest ∧
      Text.fits (parts.lastSegment ++ '.' :: parts.method)
        (Text.lastSegment t.name ++ '.' :: (m.descriptor.name.toList ++ '(' :: reached)) = true ∧
      allows parts.params rest := by
    rintro ⟨reached, rest, hrest, -, hallowed⟩
    have hclosing := Text.closing_mem_of_join_eq hbracketed (hjoin.symm.trans hrest)
    rw [(hallows rest).mp hallowed] at hclosing
    exact hplain.2 hclosing
  have htakes : parts.params.takes m.descriptor.params = true ↔ allows parts.params m.paramsText := by
    rw [ParamSpec.takes, htypes, hallows]
    dsimp only
    rw [beq_iff_eq]
    constructor
    · intro hsame
      rw [Method.paramsText, hsame, hraw.params.toList_types htypes]
    · intro htext
      exact hraw.params.eq_types htypes hplain.1 (hparams t ht m hm) (hjoin.symm.trans htext)
  rw [SelectorParts.names_iff, SelectorParts.located_accepts_iff hraw hscope hsize (hbuilt t ht) (hnames t ht) hm,
    or_iff_left hinside, htakes]

/-- A store with overloads, and an abstract type beside it. -/
def stores : List (TypeDescriptor Unit) :=
  [((((TypeDescriptor.concrete "a.b.Store" "Store").method "get" ["int"] ()).method "get" ["int", "Map<K, V>"]
      ()).method "getAll" ["int", "Map<K,V>"] ()).method "put" ["(int, fn(int))", "Map<K,V>"] (),
    (TypeDescriptor.abstractType "a.b.Base").declare "get" ["int", "Map<K,V>"]]

/-- Overloads with other types, and methods of an abstract type, are left out. -/
theorem select_types_stores :
    (∀ t ∈ Catalog.inForce stores, t.Built ∧ t.HasNames ∧
      ∀ m ∈ t.methods, ∀ x ∈ m.descriptor.params, x ≠ "" ∧ Text.WellBracketed x.toList) ∧
    ∃ p, compile "a.b.*.get*(int, Map<K, V>)" = .ok p ∧
      (p.select (Catalog.ofTypes stores)).map (fun found => found.method.signature.text) =
        ["a.b.Store.get(int,Map<K,V>)", "a.b.Store.getAll(int,Map<K,V>)"] := by
  have hbuilt : ∀ t ∈ Catalog.inForce stores, t.Built := by
    have hforce : Catalog.inForce stores = stores := rfl
    rw [hforce, stores, List.forall_mem_cons, List.forall_mem_singleton]
    exact ⟨.add _ _ _ (.add _ _ _ (.add _ _ _ (.add _ _ _ (.concrete _ _)))), .add _ _ _ (.abstractType _)⟩
  have hnames : ∀ t ∈ Catalog.inForce stores, t.HasNames := by decide
  have hparams : ∀ t ∈ Catalog.inForce stores, ∀ m ∈ t.methods, ∀ x ∈ m.descriptor.params,
      x ≠ "" ∧ Text.WellBracketed x.toList := by decide
  have hparse : SelectorParts.parse "a.b.*.get*(int, Map<K, V>)" =
      .ok ⟨[['a'], ['b'], ['*']], ['g', 'e', 't', '*'], .exact ["int", "Map<K,V>"]⟩ := rfl
  obtain ⟨p, hcompile, hselect⟩ := select_types hparse (by decide) (by decide) rfl hbuilt hnames hparams
  refine ⟨fun t ht => ⟨hbuilt t ht, hnames t ht, hparams t ht⟩, p, hcompile, ?_⟩
  rw [hselect]
  rfl

end Pointcut

end AspectWeaver

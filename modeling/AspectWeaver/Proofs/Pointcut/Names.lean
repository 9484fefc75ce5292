import AspectWeaver.Proofs.Pointcut.Grammar
import AspectWeaver.Proofs.Pointcut.Matching
import AspectWeaver.Proofs.Weaver.Registered

/-!
# Names in selectors and in signatures

What a dotted name says about the places of its dots. A name is its last segment behind the scope of the others
(`Text.toList_eq_scope`). A selector whose wildcards stand only in the last segment of the type and in the method
looks in the namespace of the other segments or for one type (`TypeLocator.ofSegments_concat`), and behind the
scope no wildcard can reach over the one dot that is left (`Text.fits_dot_iff_of_plain`). The last part says what
types look like: how they are built (`TypeDescriptor.Built`) and which names they have (`TypeDescriptor.HasNames`).
-/

set_option autoImplicit false

namespace AspectWeaver

variable {β : Type}

/-! ## Dotted names -/

namespace Text

/-- What stands before the last segment of a dotted name: the other segments, each with a dot behind it. -/
def scope (pieces : List (List Char)) : List Char := pieces.flatMap (· ++ ['.'])

/-- The last segment of a dotted name. -/
def lastSegment (name : String) : List Char := (segments name).getLastD []

/-- Joined segments are the scope of all but the last, and the last behind it. -/
theorem join_concat_eq_scope (pieces : List (List Char)) (last : List Char) :
    join '.' (pieces ++ [last]) = scope pieces ++ last := by
  induction pieces with
  | nil => rfl
  | cons piece pieces ih =>
    cases pieces with
    | nil => simp [join, scope]
    | cons next rest =>
      rw [List.cons_append, List.cons_append, join, ← List.cons_append, ih]
      simp [scope]

/-- A row of pieces is made up of all but the last, and the last. -/
theorem concat_getLastD {pieces : List (List Char)} (h : pieces ≠ []) :
    pieces.dropLast ++ [pieces.getLastD []] = pieces := by
  rw [List.getLastD_eq_getLast?, List.getLast?_eq_some_getLast h, Option.getD_some, List.dropLast_concat_getLast]

/-- A name has its last segment behind the others. -/
theorem concat_lastSegment (name : String) : (segments name).dropLast ++ [lastSegment name] = segments name :=
  concat_getLastD (split_ne_nil '.' name.toList)

/-- A name is the scope of all but its last segment, and its last segment behind it. -/
theorem toList_eq_scope (name : String) : name.toList = scope (segments name).dropLast ++ lastSegment name := by
  rw [← join_concat_eq_scope, concat_lastSegment, segments, join_split]

/-- The last piece is one of the pieces. -/
theorem getLastD_mem {pieces : List (List Char)} (h : pieces ≠ []) : pieces.getLastD [] ∈ pieces := by
  have hmem : pieces.getLastD [] ∈ pieces.dropLast ++ [pieces.getLastD []] :=
    List.mem_append_right _ (List.mem_singleton.mpr rfl)
  rwa [concat_getLastD h] at hmem

/-- There is no dot in a last segment. -/
theorem dot_not_mem_lastSegment (name : String) : '.' ∉ lastSegment name :=
  not_mem_of_mem_split (getLastD_mem (split_ne_nil '.' name.toList))

/-- Pieces are told by their joined text, but for no piece and one that is empty. -/
theorem eq_of_join_eq {sep : Char} {xs ys : List (List Char)} (hxs : ∀ x ∈ xs, sep ∉ x) (hys : ∀ y ∈ ys, sep ∉ y)
    (h : join sep xs = join sep ys) : xs = ys ∨ (xs = [] ∧ ys = [[]]) ∨ (xs = [[]] ∧ ys = []) := by
  by_cases hx : xs = []
  · by_cases hy : ys = []
    · exact Or.inl (hx.trans hy.symm)
    · have hsplit := split_join hy hys
      rw [← h, hx] at hsplit
      exact Or.inr (Or.inl ⟨hx, hsplit.symm⟩)
  · by_cases hy : ys = []
    · have hsplit := split_join hx hxs
      rw [h, hy] at hsplit
      exact Or.inr (Or.inr ⟨hsplit.symm, hy⟩)
    · exact Or.inl (by rw [← split_join hx hxs, h, split_join hy hys])

/-- Pieces that are not empty are told by their joined text, also when there are none. -/
theorem join_inj {sep : Char} {xs ys : List (List Char)} (hxs : ∀ x ∈ xs, x ≠ [] ∧ sep ∉ x)
    (hys : ∀ y ∈ ys, y ≠ [] ∧ sep ∉ y) (h : join sep xs = join sep ys) : xs = ys := by
  rcases eq_of_join_eq (fun x hx => (hxs x hx).2) (fun y hy => (hys y hy).2) h with hsame | ⟨-, rfl⟩ | ⟨rfl, -⟩
  · exact hsame
  · exact absurd rfl (hys [] List.mem_cons_self).1
  · exact absurd rfl (hxs [] List.mem_cons_self).1

/-- A name is written with dots exactly if it has these segments. -/
theorem eq_dotted_iff {name : String} {pieces : List (List Char)} (hne : pieces ≠ [])
    (h : ∀ x ∈ pieces, '.' ∉ x) : name = dotted pieces ↔ segments name = pieces := by
  constructor
  · rintro rfl
    rw [segments, dotted, String.toList_ofList, split_join hne h]
  · intro hsegments
    rw [dotted, ← hsegments, segments, join_split, String.ofList_toList]

/-- The namespace of a name is told by all segments but the last. -/
theorem namespaceOf_eq_dotted_iff {name : String} {pieces : List (List Char)}
    (hname : ∀ x ∈ segments name, x ≠ []) (h : ∀ x ∈ pieces, x ≠ [] ∧ '.' ∉ x) :
    namespaceOf name = dotted pieces ↔ (segments name).dropLast = pieces := by
  rw [namespaceOf, dotted, dotted, String.ofList_inj]
  constructor
  · apply join_inj _ h
    intro x hx
    have hmem := List.dropLast_subset _ hx
    exact ⟨hname x hmem, not_mem_of_mem_split hmem⟩
  · exact congrArg (join '.')

/-- A name of one segment does not go on from its first character like one that begins with a dot. -/
theorem append_ne_of_single {a b : String} (ha : a ≠ "") (hsingle : (segments a).dropLast = [])
    (hfront : (segments b).dropLast = [[]]) (x y : List Char) : a.toList ++ x ≠ b.toList ++ y := by
  rw [toList_eq_scope b, hfront]
  have hlast : a.toList = lastSegment a := by
    rw [toList_eq_scope, hsingle]
    rfl
  intro h
  cases hcs : a.toList with
  | nil => exact ha (String.toList_eq_nil_iff.mp hcs)
  | cons c cs =>
      rw [hcs] at h
      have hdot : c = '.' := (List.cons.inj h).1
      apply dot_not_mem_lastSegment a
      rw [← hlast, hcs, hdot]
      exact List.mem_cons_self

/-- Names in one namespace differ before the dot that follows them. -/
theorem eq_of_append_dot {a b : String} (ha : a ≠ "") (hb : b ≠ "") (hns : namespaceOf a = namespaceOf b)
    {x y : List Char} (h : a.toList ++ '.' :: x = b.toList ++ '.' :: y) : a = b := by
  have hpieces (name : String) : ∀ piece ∈ (segments name).dropLast, '.' ∉ piece := by
    intro piece hpiece
    exact not_mem_of_mem_split (List.dropLast_subset _ hpiece)
  rcases eq_of_join_eq (hpieces a) (hpieces b) (String.ofList_inj.mp hns) with hscope | ⟨hsingle, hfront⟩ |
    ⟨hfront, hsingle⟩
  · rw [toList_eq_scope a, toList_eq_scope b, hscope, List.append_assoc, List.append_assoc] at h
    have hsplit := congrArg (split '.') (List.append_cancel_left h)
    rw [split_append_cons (dot_not_mem_lastSegment a), split_append_cons (dot_not_mem_lastSegment b)] at hsplit
    rw [← String.toList_inj, toList_eq_scope a, toList_eq_scope b, hscope, (List.cons.inj hsplit).1]
  · exact absurd h (append_ne_of_single ha hsingle hfront _ _)
  · exact absurd h.symm (append_ne_of_single hb hsingle hfront _ _)

/-! ## Names with wildcards -/

/-- A front without stars fits itself alone. -/
theorem fits_append_left {front : List Char} (h : '*' ∉ front) (name text : List Char) :
    fits (front ++ name) (front ++ text) = true ↔ fits name text = true := by
  rw [fits_append_iff]
  constructor
  · rintro ⟨before, after, htext, hbefore, hafter⟩
    rw [(fits_iff_eq h before).mp hbefore] at htext
    rwa [List.append_cancel_left htext]
  · intro hname
    exact ⟨front, text, rfl, (fits_iff_eq h front).mpr rfl, hname⟩

/-- A dot in a name fits a dot of the text and parts what stands before it from what stands behind. -/
theorem fits_dot_iff (last name text : List Char) :
    fits (last ++ '.' :: name) text = true ↔
      ∃ before after, text = before ++ '.' :: after ∧ fits last before = true ∧ fits name after = true := by
  rw [fits_append_iff]
  constructor
  · rintro ⟨before, rest, rfl, hbefore, hrest⟩
    obtain ⟨after, rfl, hafter⟩ := (fits_cons_iff (by decide) _ _).mp hrest
    exact ⟨before, after, rfl, hbefore, hafter⟩
  · rintro ⟨before, after, rfl, hbefore, hafter⟩
    exact ⟨before, '.' :: after, rfl, hbefore, (fits_cons_iff (by decide) _ _).mpr ⟨after, rfl, hafter⟩⟩

/-- With only one dot in the text, no wildcard can reach over it. -/
theorem fits_dot_iff_of_plain {segment method : List Char} (hsegment : '.' ∉ segment) (hmethod : '.' ∉ method)
    (last name : List Char) :
    fits (last ++ '.' :: name) (segment ++ '.' :: method) = true ↔
      fits last segment = true ∧ fits name method = true := by
  rw [fits_dot_iff]
  constructor
  · rintro ⟨before, after, htext, hbefore, hafter⟩
    obtain ⟨rfl, -, rfl⟩ := (List.append_cons_inj_of_notMem hsegment hmethod).mp htext
    exact ⟨hbefore, hafter⟩
  · rintro ⟨hlast, hname⟩
    exact ⟨segment, method, rfl, hlast, hname⟩

/-- A segment without wildcards fits only itself, whatever stands behind its dot. -/
theorem eq_of_fits_dot {last segment name text : List Char} (hlast : '.' ∉ last) (hplain : '*' ∉ last)
    (hsegment : '.' ∉ segment) (h : fits (last ++ '.' :: name) (segment ++ '.' :: text) = true) :
    last = segment := by
  obtain ⟨before, after, htext, hbefore, -⟩ := (fits_dot_iff _ _ _).mp h
  rw [(fits_iff_eq hplain before).mp hbefore] at htext
  have hsplit := congrArg (split '.') htext
  rw [split_append_cons hsegment, split_append_cons hlast] at hsplit
  exact (List.cons.inj hsplit).1.symm

/-- The places of a separator that stands first behind `body`: there, or later. -/
theorem append_cons_eq_iff {sep : Char} {body : List Char} (h : sep ∉ body) (rest front inside : List Char) :
    body ++ sep :: rest = front ++ sep :: inside ↔
      (front = body ∧ inside = rest) ∨
        ∃ reached, front = body ++ sep :: reached ∧ rest = reached ++ sep :: inside := by
  constructor
  · intro htext
    rcases List.append_eq_append_iff.mp htext with ⟨more, rfl, hrest⟩ | ⟨more, rfl, hinside⟩
    · cases more with
      | nil => exact Or.inl ⟨List.append_nil _, (List.cons.inj hrest).2.symm⟩
      | cons c reached =>
        obtain ⟨rfl, hreached⟩ := List.cons.inj hrest
        exact Or.inr ⟨reached, rfl, hreached⟩
    · cases more with
      | nil => exact Or.inl ⟨(List.append_nil _).symm, (List.cons.inj hinside).2⟩
      | cons c more =>
        obtain ⟨rfl, -⟩ := List.cons.inj hinside
        exact absurd (List.mem_append_right front List.mem_cons_self) h
  · rintro (⟨rfl, rfl⟩ | ⟨reached, rfl, rfl⟩)
    · rfl
    · rw [List.append_assoc, List.cons_append]

/-- The texts that stand before a separator, the shortest first. -/
def fronts (sep : Char) : List Char → List (List Char)
  | [] => []
  | c :: cs =>
    let later := (fronts sep cs).map (c :: ·)
    if c = sep then [] :: later else later

/-- One character more at the front is before all separators, and may be one itself. -/
theorem mem_fronts_cons_iff {sep c : Char} {front cs : List Char} :
    front ∈ fronts sep (c :: cs) ↔ (c = sep ∧ front = []) ∨ ∃ before ∈ fronts sep cs, c :: before = front := by
  rw [fronts]
  by_cases hc : c = sep <;> simp [hc]

/-- The fronts are what stands before some separator. -/
theorem mem_fronts_iff {sep : Char} {front cs : List Char} :
    front ∈ fronts sep cs ↔ ∃ rest, cs = front ++ sep :: rest := by
  induction cs generalizing front with
  | nil => simp [fronts]
  | cons c cs ih =>
    rw [mem_fronts_cons_iff]
    constructor
    · rintro (⟨rfl, rfl⟩ | ⟨before, hbefore, rfl⟩)
      · exact ⟨cs, rfl⟩
      · obtain ⟨rest, rfl⟩ := ih.mp hbefore
        exact ⟨rest, rfl⟩
    · rintro ⟨rest, hrest⟩
      cases front with
      | nil => exact Or.inl ⟨(List.cons.inj hrest).1, rfl⟩
      | cons first before =>
        obtain ⟨rfl, hcs⟩ := List.cons.inj hrest
        exact Or.inr ⟨before, ih.mpr ⟨rest, hcs⟩, rfl⟩

end Text

/-! ## Where the types are -/

namespace TypeLocator

variable {init : List (List Char)} {last : List Char}

/-- A segment without stars is no wildcard. -/
theorem ne_wildcard (h : ∀ x ∈ init, '*' ∉ x) {x : List Char} (hx : x ∈ init.reverse) : x ≠ wildcard := by
  rintro rfl
  exact h wildcard (List.mem_reverse.mp hx) (by decide)

/-- Where no wildcard segment stands before the last one, nothing is collapsed. -/
theorem collapseWildcards_concat (h : ∀ x ∈ init, '*' ∉ x) (last : List Char) :
    collapseWildcards (init ++ [last]) = init ++ [last] := by
  have hcollapse : collapseReversed (last :: init.reverse) = last :: init.reverse := by
    cases hinit : init.reverse with
    | nil => rfl
    | cons second rest =>
      have hsecond : second ≠ wildcard := ne_wildcard h (hinit ▸ List.mem_cons_self)
      rw [collapseReversed, if_neg fun hboth => hsecond hboth.2]
  rw [collapseWildcards, List.reverse_concat, hcollapse, ← List.reverse_concat, List.reverse_reverse]

/-- A last segment with a star looks through the namespace of the segments before it. -/
theorem namespaceReversed_cons (h : ∀ x ∈ init, '*' ∉ x) (hlast : '*' ∈ last) :
    namespaceReversed (last :: init.reverse) = init.reverse := by
  unfold namespaceReversed
  cases hinit : init.reverse with
  | nil =>
    rw [dropReversed.eq_def]
    simp [hlast]
  | cons second rest =>
    have hmem : second ∈ init.reverse := hinit ▸ List.mem_cons_self
    have hsecond : ¬ second.contains '*' = true := fun hstar =>
      h second (List.mem_reverse.mp hmem) (List.contains_iff_mem.mp hstar)
    have hstay : dropReversed (second :: rest) = second :: rest := by
      cases rest with
      | nil => rfl
      | cons third rest => rw [dropReversed, if_neg (ne_wildcard h hmem)]
    rw [dropReversed]
    by_cases hwildcard : last = wildcard
    · rw [if_pos hwildcard, hstay]
      exact if_neg hsecond
    · rw [if_neg hwildcard]
      exact if_pos (List.contains_iff_mem.mpr hlast)

/-- A name with wildcards in its last segment alone is looked for in the namespace of the other segments. -/
theorem ofSegments_concat (h : ∀ x ∈ init, '*' ∉ x) :
    ofSegments (collapseWildcards (init ++ [last])) =
      if '*' ∈ last then .inNamespace (Text.dotted init) else .named (Text.dotted (init ++ [last])) := by
  rw [collapseWildcards_concat h last, ofSegments, List.getLastD_concat, List.reverse_concat]
  by_cases hlast : '*' ∈ last
  · rw [if_pos (List.contains_iff_mem.mpr hlast), if_pos hlast, namespaceReversed_cons h hlast,
      List.reverse_reverse]
  · rw [if_neg (mt List.contains_iff_mem.mp hlast), if_neg hlast]

end TypeLocator

/-! ## Types as their builder makes them -/

namespace TypeDescriptor

/-- The types that the constructors and the builder calls make. -/
inductive Built : TypeDescriptor β → Prop where
  | concrete (name targetType : String) : Built (concrete name targetType)
  | abstractType (name : String) : Built (abstractType name)
  | interface (name : String) : Built (interface name)
  | add {t : TypeDescriptor β} (name : String) (params : List String) (body : MethodBody β) :
    Built t → Built (t.add name params body)
  | interceptedBy {t : TypeDescriptor β} (marker : InterceptorMarker β) :
    Built t → Built (t.interceptedBy marker).value

/-- Every method of a type has the type as its owner and parameter types without blank characters. -/
theorem Built.descriptor {t : TypeDescriptor β} (h : t.Built) :
    ∀ m ∈ t.methods, m.descriptor.owner = t.name ∧
      m.descriptor.params.map Text.compact = m.descriptor.params := by
  induction h with
  | concrete name targetType => exact List.forall_mem_nil _
  | abstractType name => exact List.forall_mem_nil _
  | interface name => exact List.forall_mem_nil _
  | add name params body _ ih =>
    intro m hm
    rcases List.mem_append.mp hm with hm | hm
    · exact ih m hm
    · rw [List.mem_singleton.mp hm]
      simp [MethodDescriptor.make, TypeDescriptor.add, Text.compact, Function.comp_def]
  | @interceptedBy t marker _ ih =>
    cases hlast : t.methods.getLast? with
    | none =>
      have hsame : (t.interceptedBy marker).value = t := by
        rw [TypeDescriptor.interceptedBy, hlast]
        rfl
      rwa [hsame]
    | some last =>
      have hmarked : (t.interceptedBy marker).value =
          { t with methods := t.methods.dropLast ++ [{ last with interceptor := some marker }] } := by
        rw [TypeDescriptor.interceptedBy, hlast]
        rfl
      rw [hmarked]
      intro m hm
      rcases List.mem_append.mp hm with hm | hm
      · exact ih m (List.dropLast_subset _ hm)
      · rw [List.mem_singleton.mp hm]
        exact ih last (List.mem_of_getLast? hlast)

/-- The characters of a name: not blank, and no parenthesis. -/
def IsNameChar (c : Char) : Prop := Text.isBlank c = false ∧ c ≠ '(' ∧ c ≠ ')'

instance (c : Char) : Decidable (IsNameChar c) := inferInstanceAs (Decidable (_ ∧ _))

/-- The name of a type is made of segments that are not empty, and the names of its methods have no dots. -/
structure HasNames (t : TypeDescriptor β) : Prop where
  segment : ∀ x ∈ Text.segments t.name, x ≠ []
  name : ∀ c ∈ t.name.toList, IsNameChar c
  method : ∀ m ∈ t.methods, ∀ c ∈ m.descriptor.name.toList, IsNameChar c ∧ c ≠ '.'

-- the tests go through the characters of a name; to quantify over all characters would be decidable too, but slow
instance (t : TypeDescriptor β) : Decidable t.HasNames :=
  decidable_of_iff
    ((Text.segments t.name).all (fun x => decide (x ≠ [])) && t.name.toList.all (fun c => decide (IsNameChar c)) &&
      t.methods.all fun m => m.descriptor.name.toList.all fun c => decide (IsNameChar c ∧ c ≠ '.')) <| by
  simp only [Bool.and_eq_true, List.all_eq_true, decide_eq_true_eq]
  exact ⟨fun h => ⟨h.1.1, h.1.2, h.2⟩, fun h => ⟨⟨h.segment, h.name⟩, h.method⟩⟩

end TypeDescriptor

end AspectWeaver

import AspectWeaver.Proofs.Catalog.History
import AspectWeaver.Proofs.Pointcut.Compile
import AspectWeaver.Proofs.Pointcut.Literal

/-!
# Wildcards at the end of a type look through one namespace

A selector whose type ends in wildcard segments looks at the direct members of the namespace before them, however
many there are. What it looks through can be found in a second way, by stripping `.*` from the end of the text
(`Text.stripStars`): one loop leaves one wildcard for the pattern, another leaves none for the locator. Both come
out where the lists of segments do (`TypeLocator.collapseText_join`, `TypeLocator.ofText_join`). The top is
`Pointcut.compile_members`.
-/

set_option autoImplicit false

namespace AspectWeaver

variable {β : Type}

/-! ## Stripping a text from its end -/

namespace Text

/-- What a wildcard segment adds to the end of a name. -/
def dotStar : List Char := ['.', '*']

/-- Strips `.*` from the end of a text as long as it stands there and `goOn` holds of what is before it. -/
def stripStars (goOn : List Char → Bool) (cs : List Char) : List Char :=
  match _ : cs.dropSuffix? dotStar with
  | some front => if goOn front then stripStars goOn front else cs
  | none => cs
termination_by cs.length
decreasing_by
  rename_i h _
  obtain ⟨star, rfl, hstar⟩ := List.dropSuffix?_eq_some_iff.mp h
  rw [eq_of_beq hstar, List.length_append]
  exact Nat.lt_add_of_pos_right (by decide)

/-- What stands before the last separator of a text and behind it, if there is one. -/
def cutLast? (sep : Char) : List Char → Option (List Char × List Char)
  | [] => none
  | c :: cs =>
    match cutLast? sep cs with
    | some (front, last) => some (c :: front, last)
    | none => if c = sep then some ([], cs) else none

/-- A suffix is dropped from a text that ends with it. -/
theorem dropSuffix?_append (front suffix : List Char) : (front ++ suffix).dropSuffix? suffix = some front :=
  List.dropSuffix?_eq_some_iff.mpr ⟨suffix, rfl, beq_self_eq_true suffix⟩

/-- A suffix is not dropped from a text that does not end with it. -/
theorem dropSuffix?_eq_none {cs suffix : List Char} (h : ¬ suffix <:+ cs) : cs.dropSuffix? suffix = none := by
  cases hdrop : cs.dropSuffix? suffix with
  | none => rfl
  | some front =>
    obtain ⟨last, rfl, hlast⟩ := List.dropSuffix?_eq_some_iff.mp hdrop
    rw [eq_of_beq hlast] at h
    exact absurd (List.suffix_append front suffix) h

/-- One wildcard segment at the end is stripped if the loop goes on before it. -/
theorem stripStars_append (goOn : List Char → Bool) (front : List Char) :
    stripStars goOn (front ++ dotStar) = if goOn front then stripStars goOn front else front ++ dotStar := by
  rw [stripStars]
  split
  next found hfound =>
    rw [dropSuffix?_append] at hfound
    rw [Option.some.inj hfound]
  next hnone =>
    rw [dropSuffix?_append] at hnone
    cases hnone

/-- Where no wildcard segment stands at the end, nothing is stripped. -/
theorem stripStars_of_not_suffix (goOn : List Char → Bool) {cs : List Char} (h : ¬ dotStar <:+ cs) :
    stripStars goOn cs = cs := by
  rw [stripStars]
  split
  next front hfront =>
    rw [dropSuffix?_eq_none h] at hfront
    cases hfront
  next => rfl

/-- A text without the separator is not cut. -/
theorem cutLast?_of_not_mem {sep : Char} {cs : List Char} (h : sep ∉ cs) : cutLast? sep cs = none := by
  induction cs with
  | nil => rfl
  | cons c cs ih =>
    obtain ⟨hc, hcs⟩ := not_or.mp (mt List.mem_cons.mpr h)
    rw [cutLast?, ih hcs]
    exact if_neg (Ne.symm hc)

/-- A text is cut at the last separator. -/
theorem cutLast?_append {sep : Char} {last : List Char} (h : sep ∉ last) (front : List Char) :
    cutLast? sep (front ++ sep :: last) = some (front, last) := by
  induction front with
  | nil =>
    rw [List.nil_append, cutLast?, cutLast?_of_not_mem h]
    exact if_pos rfl
  | cons c front ih => rw [List.cons_append, cutLast?, ih]

/-! ## The end of a dotted name -/

variable {init : List (List Char)} {last : List Char}

/-- Joined segments are cut before the last of them. -/
theorem cutLast?_join (hlast : '.' ∉ last) :
    cutLast? '.' (join '.' (init ++ [last])) = if init = [] then none else some (join '.' init, last) := by
  split
  next hinit =>
    rw [hinit]
    exact cutLast?_of_not_mem hlast
  next hinit => rw [join_concat hinit, cutLast?_append hlast]

/-- A wildcard segment is joined as a dot and a star. -/
theorem join_concat_wildcard (hinit : init ≠ []) :
    join '.' (init ++ [TypeLocator.wildcard]) = join '.' init ++ dotStar :=
  join_concat hinit TypeLocator.wildcard

/-- A name ends in `.*` exactly if its last segment is a wildcard and not the only one. -/
theorem dotStar_suffix_iff (hlast : '.' ∉ last) :
    dotStar <:+ join '.' (init ++ [last]) ↔ init ≠ [] ∧ last = TypeLocator.wildcard := by
  constructor
  · rintro ⟨front, hfront⟩
    have hcut : cutLast? '.' (front ++ dotStar) = some (front, TypeLocator.wildcard) :=
      cutLast?_append (by decide) front
    rw [hfront, cutLast?_join hlast] at hcut
    split at hcut
    next => cases hcut
    next hinit => exact ⟨hinit, (Prod.mk.inj (Option.some.inj hcut)).2⟩
  · rintro ⟨hinit, rfl⟩
    rw [join_concat_wildcard hinit]
    exact List.suffix_append _ _

end Text

/-! ## The two ways to find where a selector looks -/

namespace TypeLocator

/-- Leaves one of the wildcards at the end of a type name, by its text. -/
def collapseText (name : List Char) : List Char :=
  Text.stripStars (fun front => Text.dotStar.isSuffixOf front || front == wildcard) name

/-- Where the types of a selector are, by the text of the type. -/
def ofText (name : List Char) : TypeLocator :=
  let last := ((Text.cutLast? '.' name).map Prod.snd).getD name
  if last.contains '*' then
    let front := Text.stripStars (fun _ => true) name
    match Text.cutLast? '.' front with
    | some (scope, segment) => .inNamespace (String.ofList (if segment.contains '*' then scope else front))
    | none => .inNamespace (String.ofList (if front.contains '*' then [] else front))
  else .named (String.ofList name)

/-- The loop strips a last wildcard segment where it goes on. -/
theorem stripStars_join_wildcard (goOn : List Char → Bool) {init : List (List Char)} (hinit : init ≠ []) :
    Text.stripStars goOn (Text.join '.' (init ++ [wildcard])) =
      if goOn (Text.join '.' init) then Text.stripStars goOn (Text.join '.' init)
      else Text.join '.' (init ++ [wildcard]) := by
  rw [Text.join_concat_wildcard hinit, Text.stripStars_append]

/-- The loop leaves a last segment that is no wildcard, and one that is alone. -/
theorem stripStars_join_of_ne (goOn : List Char → Bool) (init : List (List Char)) {last : List Char}
    (hlast : '.' ∉ last) (h : init = [] ∨ last ≠ wildcard) :
    Text.stripStars goOn (Text.join '.' (init ++ [last])) = Text.join '.' (init ++ [last]) := by
  apply Text.stripStars_of_not_suffix
  rw [Text.dotStar_suffix_iff hlast]
  rintro ⟨hinit, rfl⟩
  exact h.elim hinit fun hne => hne rfl

/-- The loop goes on where a wildcard segment stands before the one at the end. -/
theorem isWildcard_join_iff (init : List (List Char)) {last : List Char} (hlast : '.' ∉ last) :
    (Text.dotStar.isSuffixOf (Text.join '.' (init ++ [last])) || Text.join '.' (init ++ [last]) == wildcard) = true ↔
      last = wildcard := by
  rw [Bool.or_eq_true, List.isSuffixOf_iff_suffix, Text.dotStar_suffix_iff hlast, beq_iff_eq]
  by_cases hinit : init = []
  · subst hinit
    simp [Text.join]
  · have hne : Text.join '.' (init ++ [last]) ≠ wildcard := by
      rw [Text.join_concat hinit]
      intro h
      have hdot : '.' ∈ wildcard := h ▸ List.mem_append_right _ List.mem_cons_self
      exact absurd hdot (by decide)
    simp [hinit, hne]

/-- Collapsing wildcards by the text of a type is collapsing its segments. -/
theorem collapseText_join {segments : List (List Char)} (h : ∀ x ∈ segments, '.' ∉ x) :
    collapseText (Text.join '.' segments) = Text.join '.' (collapseWildcards segments) := by
  rw [collapseWildcards]
  conv_lhs => rw [← List.reverse_reverse segments]
  have hdots : ∀ x ∈ segments.reverse, '.' ∉ x := fun x hx => h x (List.mem_reverse.mp hx)
  generalize segments.reverse = reversed at hdots
  -- the loop takes the segments from the end, as the recursion takes them from the reversed list
  induction reversed using collapseReversed.induct with
  | case1 first second rest hboth ih =>
    obtain ⟨rfl, rfl⟩ := hboth
    have hrest := ih fun x hx => hdots x (List.mem_cons_of_mem _ hx)
    have hgoOn := (isWildcard_join_iff rest.reverse (hdots wildcard List.mem_cons_self)).mpr rfl
    rw [List.reverse_cons] at hrest
    rw [collapseReversed, if_pos ⟨rfl, rfl⟩, ← hrest, List.reverse_cons, List.reverse_cons, collapseText,
      stripStars_join_wildcard _ (by simp), if_pos hgoOn]
    rfl
  | case2 first second rest hboth =>
    rw [collapseReversed, if_neg hboth, List.reverse_cons, collapseText]
    by_cases hfirst : first = wildcard
    · subst hfirst
      have hsecond : second ≠ wildcard := fun hsecond => hboth ⟨rfl, hsecond⟩
      have hstop := mt (isWildcard_join_iff rest.reverse
        (hdots second (List.mem_cons_of_mem _ List.mem_cons_self))).mp hsecond
      rw [← List.reverse_cons] at hstop
      rw [stripStars_join_wildcard _ (by simp), if_neg hstop]
    · exact stripStars_join_of_ne _ _ (hdots first List.mem_cons_self) (Or.inr hfirst)
  | case3 few hfew =>
    rcases few with _ | ⟨last, _ | ⟨second, rest⟩⟩
    · exact Text.stripStars_of_not_suffix _ (by decide)
    · exact stripStars_join_of_ne _ [] (hdots last List.mem_cons_self) (Or.inl rfl)
    · exact absurd rfl (hfew last second rest)

/-- Stripping all wildcards by the text is dropping the wildcard segments. -/
theorem stripStars_join {reversed : List (List Char)} (h : ∀ x ∈ reversed, '.' ∉ x) :
    Text.stripStars (fun _ => true) (Text.join '.' reversed.reverse) =
      Text.join '.' (dropReversed reversed).reverse := by
  induction reversed using dropReversed.induct with
  | case1 second rest ih =>
    have hrest := ih fun x hx => h x (List.mem_cons_of_mem _ hx)
    rw [dropReversed, if_pos rfl, ← hrest, List.reverse_cons, stripStars_join_wildcard _ (by simp), if_pos rfl]
  | case2 first second rest hfirst =>
    rw [dropReversed, if_neg hfirst, List.reverse_cons]
    exact stripStars_join_of_ne _ _ (h first List.mem_cons_self) (Or.inr hfirst)
  | case3 few hfew =>
    rcases few with _ | ⟨last, _ | ⟨second, rest⟩⟩
    · exact Text.stripStars_of_not_suffix _ (by decide)
    · exact stripStars_join_of_ne _ [] (h last List.mem_cons_self) (Or.inl rfl)
    · exact absurd rfl (hfew last second rest)

/-- Only segments at the end are dropped. -/
theorem dropReversed_suffix (reversed : List (List Char)) : dropReversed reversed <:+ reversed := by
  induction reversed using dropReversed.induct with
  | case1 second rest ih =>
    rw [dropReversed, if_pos rfl]
    exact ih.trans (List.suffix_cons _ _)
  | case2 first second rest hfirst =>
    rw [dropReversed, if_neg hfirst]
  | case3 few hfew => rw [dropReversed.eq_2 few hfew]

/-- At least one segment is left. -/
theorem dropReversed_ne_nil {reversed : List (List Char)} (h : reversed ≠ []) : dropReversed reversed ≠ [] := by
  induction reversed using dropReversed.induct with
  | case1 second rest ih =>
    rw [dropReversed, if_pos rfl]
    exact ih (List.cons_ne_nil _ _)
  | case2 first second rest hfirst =>
    rw [dropReversed, if_neg hfirst]
    exact List.cons_ne_nil _ _
  | case3 few hfew => rwa [dropReversed.eq_2 few hfew]

/-- Both ways look for the types in the same place. -/
theorem ofText_join {segments : List (List Char)} (hne : segments ≠ []) (h : ∀ x ∈ segments, '.' ∉ x) :
    ofText (Text.join '.' segments) = ofSegments segments := by
  obtain ⟨init, last, rfl⟩ := List.eq_nil_or_concat' segments |>.resolve_left hne
  have hreversed : ∀ x ∈ (init ++ [last]).reverse, '.' ∉ x := fun x hx => h x (List.mem_reverse.mp hx)
  have hstrip := stripStars_join hreversed
  have hlast : ((Text.cutLast? '.' (Text.join '.' (init ++ [last]))).map Prod.snd).getD
      (Text.join '.' (init ++ [last])) = last := by
    rw [Text.cutLast?_join (h last (by simp))]
    split
    next hinit =>
      rw [hinit]
      rfl
    next => rfl
  rw [List.reverse_reverse] at hstrip
  unfold ofText ofSegments
  dsimp only
  rw [hlast, hstrip, List.getLastD_concat, namespaceReversed]
  split
  next =>
    have hleft : dropReversed (init ++ [last]).reverse ≠ [] := dropReversed_ne_nil (by simp)
    obtain ⟨segment, scope, hdrop⟩ := List.exists_cons_of_ne_nil hleft
    have hsegment : '.' ∉ segment := hreversed segment ((dropReversed_suffix _).subset (hdrop ▸ List.mem_cons_self))
    rw [hdrop, List.reverse_cons, Text.cutLast?_join hsegment]
    cases scope with
    | nil => by_cases hstar : '*' ∈ segment <;> simp [hstar, Text.dotted, Text.join]
    | cons other scope => by_cases hstar : '*' ∈ segment <;> simp [hstar, Text.dotted]
  next => rfl

/-- Collapsing leaves the last segment as it is. -/
theorem head?_collapseReversed (reversed : List (List Char)) : (collapseReversed reversed).head? = reversed.head? := by
  induction reversed using collapseReversed.induct with
  | case1 first second rest hboth ih =>
    rw [collapseReversed, if_pos hboth, ih, hboth.1, hboth.2]
    rfl
  | case2 first second rest hboth => rw [collapseReversed, if_neg hboth]
  | case3 few hfew => rw [collapseReversed.eq_2 few hfew]

/-- Dropping wildcard segments comes to the same after some were collapsed. -/
theorem dropReversed_collapseReversed (reversed : List (List Char)) :
    dropReversed (collapseReversed reversed) = dropReversed reversed := by
  induction reversed using collapseReversed.induct with
  | case1 first second rest hboth ih =>
    rw [collapseReversed, if_pos hboth, ih, dropReversed, if_pos hboth.1]
  | case2 first second rest hboth => rw [collapseReversed, if_neg hboth]
  | case3 few hfew => rw [collapseReversed.eq_2 few hfew]

/-- The wildcard segments that the pattern does without say nothing about where the types are. -/
theorem ofSegments_collapseWildcards (segments : List (List Char)) :
    ofSegments (collapseWildcards segments) =
      if (segments.getLastD []).contains '*' then ofSegments segments
      else .named (Text.dotted (collapseWildcards segments)) := by
  have hlast : (collapseWildcards segments).getLastD [] = segments.getLastD [] := by
    rw [List.getLastD_eq_getLast?, List.getLastD_eq_getLast?, collapseWildcards, List.getLast?_reverse,
      head?_collapseReversed, List.head?_reverse]
  have hscope : namespaceReversed (collapseWildcards segments).reverse = namespaceReversed segments.reverse := by
    rw [namespaceReversed, namespaceReversed, collapseWildcards, List.reverse_reverse, dropReversed_collapseReversed]
  unfold ofSegments
  rw [hlast, hscope]
  split <;> rfl

/-- Of the wildcard segments behind a namespace one is left. -/
theorem collapse_members {ns : List (List Char)} (h : ∀ x ∈ ns, '*' ∉ x) (k : Nat) :
    collapseWildcards (ns ++ List.replicate (k + 1) wildcard) = ns ++ [wildcard] := by
  have hlast : ns.getLast? ≠ some wildcard := fun hlast => h wildcard (List.mem_of_getLast? hlast) (by decide)
  have hmin : min (k + 1) 1 = 1 := by omega
  rw [collapseWildcards_replicate hlast, hmin]
  rfl

/-- One wildcard segment behind a namespace looks through this namespace. -/
theorem ofSegments_members {ns : List (List Char)} (h : ∀ x ∈ ns, '*' ∉ x) :
    ofSegments (ns ++ [wildcard]) = .inNamespace (Text.dotted ns) := by
  rw [← collapseWildcards_concat h, ofSegments_concat h, if_pos (by decide)]

/-- Any number of wildcard segments behind a namespace, but at least one, looks through this namespace. -/
theorem ofSegments_members_replicate {ns : List (List Char)} (h : ∀ x ∈ ns, '*' ∉ x) (k : Nat) :
    ofSegments (ns ++ List.replicate (k + 1) wildcard) = .inNamespace (Text.dotted ns) := by
  have hlast : (ns ++ List.replicate (k + 1) wildcard).getLastD [] = wildcard := by
    rw [List.replicate_succ', ← List.append_assoc, List.getLastD_concat]
  have hcollapse := ofSegments_collapseWildcards (ns ++ List.replicate (k + 1) wildcard)
  rwa [hlast, if_pos (by decide), collapse_members h, ofSegments_members h, eq_comm] at hcollapse

end TypeLocator

/-! ## Direct members -/

/-- A name lies in the namespace `ns` if it goes on behind it without another dot; a name that begins with its only
dot lies in the empty one too. -/
theorem Text.namespaceOf_eq_dotted_iff_scope {name : String} {ns : List (List Char)}
    (hns : ∀ x ∈ ns, x ≠ [] ∧ '.' ∉ x) (hname : name.toList.head? ≠ some '.') :
    namespaceOf name = dotted ns ↔ ∃ last, '.' ∉ last ∧ name.toList = scope ns ++ last := by
  have hdots : ∀ x ∈ (segments name).dropLast, '.' ∉ x :=
    fun x hx => not_mem_of_mem_split (List.dropLast_subset _ hx)
  constructor
  · intro h
    refine ⟨lastSegment name, dot_not_mem_lastSegment name, ?_⟩
    rcases eq_of_join_eq hdots (fun x hx => (hns x hx).2) (String.ofList_inj.mp h) with hsame | ⟨-, rfl⟩ |
      ⟨hfront, -⟩
    · rw [← hsame]
      exact toList_eq_scope name
    · exact absurd rfl (hns [] List.mem_cons_self).1
    · rw [toList_eq_scope, hfront] at hname
      exact absurd rfl hname
  · rintro ⟨last, hlast, h⟩
    have hsegments : segments name = ns ++ [last] := by
      rw [segments, h, ← join_concat_eq_scope]
      exact split_join_concat (fun x hx => (hns x hx).2) hlast
    rw [namespaceOf, hsegments, List.dropLast_concat]

namespace SelectorParts

/-- The parts of a selector for members of `ns`, with as many wildcard segments. -/
def members (ns : List (List Char)) (wildcards : Nat) (method : List Char) (params : ParamSpec) : SelectorParts :=
  ⟨ns ++ List.replicate wildcards TypeLocator.wildcard, method, params⟩

/-- The text of a selector for members of `ns`, with as many wildcard segments. -/
def membersText (ns : List (List Char)) (wildcards : Nat) (method raw : List Char) : List Char :=
  Text.join '.' (ns ++ List.replicate wildcards TypeLocator.wildcard) ++ '.' :: method ++ '(' :: raw ++ [')']

variable {ns : List (List Char)} {method raw : List Char}

/-- The segments of a selector for members are not empty and hold no dots. -/
theorem segment_members (h : ∀ x ∈ ns, x ≠ [] ∧ '.' ∉ x) (k : Nat) :
    ∀ x ∈ ns ++ List.replicate k TypeLocator.wildcard, x ≠ [] ∧ '.' ∉ x := by
  intro x hx
  rcases List.mem_append.mp hx with hx | hx
  · exact h x hx
  · rw [List.eq_of_mem_replicate hx]
    decide

/-- Such a text has no other parts. -/
theorem eq_members (hns : ∀ x ∈ ns, x ≠ [] ∧ '.' ∉ x) (hmethod : '.' ∉ method) {parts : SelectorParts}
    {inside : List Char} {k : Nat} (h : parts.WrittenAs inside (membersText ns k method raw)) :
    inside = raw ∧ parts = members ns k method parts.params := by
  have htext : parts.head ++ '(' :: (inside ++ [')']) =
      (members ns k method parts.params).head ++ '(' :: (raw ++ [')']) := by
    rw [← List.cons_append, ← List.append_assoc, ← h.text, membersText]
    simp [members, head]
  have hopen : '(' ∉ parts.head := fun hmem => (h.plain _ hmem).1 rfl
  have hinside : '(' ∉ inside ++ [')'] := by
    rw [List.mem_append]
    rintro (hmem | hmem)
    · exact (h.inside _ hmem).1 rfl
    · exact absurd hmem (by decide)
  obtain ⟨hhead, -, hraw⟩ := (List.append_cons_inj_of_notMem hopen hinside).mp htext
  -- behind the last dot stands the method, on both sides
  have hcut := congrArg (Text.cutLast? '.') hhead
  change Text.cutLast? '.' (_ ++ '.' :: parts.method) = Text.cutLast? '.' (_ ++ '.' :: method) at hcut
  rw [Text.cutLast?_append h.method.2, Text.cutLast?_append hmethod] at hcut
  obtain ⟨hjoin, hsame⟩ := Prod.mk.inj (Option.some.inj hcut)
  have hsegments := Text.join_inj h.segment (segment_members hns k) hjoin
  refine ⟨List.append_cancel_right hraw, ?_⟩
  rw [members, ← hsegments]
  change parts.method = method at hsame
  rw [← hsame]

/-- The number of wildcard segments does not matter, if there is one. -/
theorem writtenAs_members (hns : ∀ x ∈ ns, x ≠ [] ∧ '.' ∉ x) {params : ParamSpec} {j k : Nat}
    (h : (members ns (j + 1) method params).WrittenAs raw (membersText ns (j + 1) method raw)) :
    (members ns (k + 1) method params).WrittenAs raw (membersText ns (k + 1) method raw) := by
  refine ⟨rfl, by simp [members], segment_members hns _, h.method, ?_, h.params, h.inside⟩
  intro c hc
  rcases List.mem_append.mp hc with hc | hc
  · rcases Text.of_mem_join hc with rfl | ⟨piece, hpiece, hc⟩
    · decide
    · rcases List.mem_append.mp hpiece with hpiece | hpiece
      · exact h.plain c (List.mem_append_left _ (Text.mem_join_of_mem (List.mem_append_left _ hpiece) hc))
      · rw [List.eq_of_mem_replicate hpiece] at hc
        rw [List.mem_singleton.mp hc]
        decide
  · exact h.plain c (List.mem_append_right _ hc)

end SelectorParts

namespace Pointcut

/-- The pointcut of a selector for members does not depend on how many wildcard segments it has. -/
theorem ofParts_members {ns : List (List Char)} (h : ∀ x ∈ ns, '*' ∉ x) (selector : String) (k : Nat)
    (method : List Char) (params : ParamSpec) :
    ofParts selector (.members ns (k + 1) method params) =
      ⟨selector, .inNamespace (Text.dotted ns), params,
        Text.join '.' (ns ++ [TypeLocator.wildcard]) ++ '.' :: method⟩ := by
  unfold ofParts SelectorParts.members
  dsimp only
  rw [TypeLocator.collapse_members h, TypeLocator.ofSegments_members h]

/-- A selector for members is accepted exactly if the one with a single wildcard segment is, and means the same. -/
theorem compile_members_iff [RegexEngine] {ns : List (List Char)} {method raw : List Char} {selector : String} {k : Nat}
    (hns : ∀ x ∈ ns, x ≠ [] ∧ '.' ∉ x ∧ '*' ∉ x) (hmethod : '.' ∉ method)
    (htext : Text.compactChars selector.toList = SelectorParts.membersText ns (k + 1) method raw) (p : Pointcut) :
    compile selector = .ok p ↔ ∃ params,
      (SelectorParts.members ns 1 method params).WrittenAs raw (SelectorParts.membersText ns 1 method raw) ∧
      p = ⟨selector, .inNamespace (Text.dotted ns), params,
        Text.join '.' (ns ++ [TypeLocator.wildcard]) ++ '.' :: method⟩ ∧ p.WithinLimit := by
  have hsegments : ∀ x ∈ ns, x ≠ [] ∧ '.' ∉ x := fun x hx => ⟨(hns x hx).1, (hns x hx).2.1⟩
  have hplain : ∀ x ∈ ns, '*' ∉ x := fun x hx => (hns x hx).2.2
  rw [compile_eq_ok_iff, htext]
  constructor
  · rintro ⟨parts, inside, hwritten, rfl, hsize⟩
    obtain ⟨rfl, hparts⟩ := SelectorParts.eq_members hsegments hmethod hwritten
    rw [hparts] at hwritten
    refine ⟨parts.params, SelectorParts.writtenAs_members (k := 0) hsegments hwritten, ?_, hsize⟩
    rw [hparts]
    exact ofParts_members hplain selector k method _
  · rintro ⟨params, hwritten, rfl, hsize⟩
    exact ⟨_, raw, SelectorParts.writtenAs_members (j := 0) hsegments hwritten,
      (ofParts_members hplain selector k method params).symm, hsize⟩

/-- A selector whose type is the segments `ns` and one wildcard segment or more is accepted exactly if it is with one
wildcard segment. It looks in the namespace `ns`, has the same parameters, and selects the same. Its candidates in a
catalog are the concrete types whose namespace is that text: the types whose names go on behind `ns` without another
dot. Of these it selects the methods that it accepts, and nothing of other types. The text of the type, stripped of
wildcards from its end, tells the same place. -/
theorem compile_members [RegexEngine] {ns : List (List Char)} {method raw : List Char} {one many : String} (k : Nat)
    (hns : ∀ x ∈ ns, x ≠ [] ∧ '.' ∉ x ∧ '*' ∉ x) (hmethod : '.' ∉ method)
    (hone : Text.compactChars one.toList = SelectorParts.membersText ns 1 method raw)
    (hmany : Text.compactChars many.toList = SelectorParts.membersText ns (k + 1) method raw) :
    ((∃ p, compile many = .ok p) ↔ ∃ q, compile one = .ok q) ∧
    ∀ p q, compile many = .ok p → compile one = .ok q →
      p.locator = .inNamespace (Text.dotted ns) ∧ p.params = q.params ∧ (∀ s, p.accepts s = q.accepts s) ∧
      (∀ c : Catalog β, p.select c = q.select c) ∧
      (∀ ts : List (TypeDescriptor β),
        let members := (Catalog.inForce ts).filter fun t => t.isConcrete && t.namespaceName = Text.dotted ns
        p.candidateTypes (Catalog.ofTypes ts) = members ∧
        p.select (Catalog.ofTypes ts) = (members.flatMap fun t =>
          (t.methods.filter fun m => p.accepts m.signature).map fun m => ⟨t, m⟩) ∧
        ∀ t ∈ Catalog.inForce ts, t.name.toList.head? ≠ some '.' →
          (t ∈ p.candidateTypes (Catalog.ofTypes ts) ↔
            t.isConcrete ∧ ∃ last, '.' ∉ last ∧ t.name.toList = Text.scope ns ++ last)) ∧
      let typeText := Text.join '.' (ns ++ List.replicate (k + 1) TypeLocator.wildcard)
      TypeLocator.collapseText typeText = Text.join '.' (ns ++ [TypeLocator.wildcard]) ∧
        TypeLocator.ofText typeText = p.locator ∧
        TypeLocator.ofText (TypeLocator.collapseText typeText) = p.locator := by
  have hsegments : ∀ x ∈ ns, x ≠ [] ∧ '.' ∉ x := fun x hx => ⟨(hns x hx).1, (hns x hx).2.1⟩
  have hplain : ∀ x ∈ ns, '*' ∉ x := fun x hx => (hns x hx).2.2
  have hdots (wildcards : Nat) : ∀ x ∈ ns ++ List.replicate wildcards TypeLocator.wildcard, '.' ∉ x :=
    fun x hx => (SelectorParts.segment_members hsegments wildcards x hx).2
  refine ⟨?_, ?_⟩
  · simp only [compile_members_iff hns hmethod hone, compile_members_iff hns hmethod hmany]
    -- the size counts the pattern alone, which is the same for both texts
    constructor
    · rintro ⟨_, params, hwritten, rfl, hsize⟩
      exact ⟨_, params, hwritten, rfl, hsize⟩
    · rintro ⟨_, params, hwritten, rfl, hsize⟩
      exact ⟨_, params, hwritten, rfl, hsize⟩
  · intro p q hp hq
    obtain ⟨params, hwritten, rfl, -⟩ := (compile_members_iff hns hmethod hmany p).mp hp
    obtain ⟨params', hwritten', rfl, -⟩ := (compile_members_iff hns hmethod hone q).mp hq
    obtain rfl : params = params' := congrArg SelectorParts.params (hwritten.unique hwritten').1
    refine ⟨rfl, rfl, fun _ => rfl, fun _ => rfl, ?_, ?_⟩
    · intro ts members
      rw [select, candidateTypes_ofTypes]
      refine ⟨rfl, rfl, ?_⟩
      intro t ht hname
      have hmember : t.namespaceName = Text.dotted ns ↔ _ := Text.namespaceOf_eq_dotted_iff_scope hsegments hname
      rw [List.mem_filter, Bool.and_eq_true, ← hmember]
      exact ⟨fun h => ⟨h.2.1, of_decide_eq_true h.2.2⟩, fun h => ⟨ht, h.1, decide_eq_true h.2⟩⟩
    · intro typeText
      have hcollapse : TypeLocator.collapseText typeText = Text.join '.' (ns ++ [TypeLocator.wildcard]) := by
        rw [TypeLocator.collapseText_join (hdots (k + 1)), TypeLocator.collapse_members hplain]
      have honeDots : ∀ x ∈ ns ++ [TypeLocator.wildcard], '.' ∉ x := hdots 1
      refine ⟨hcollapse, ?_, ?_⟩
      · rw [TypeLocator.ofText_join (by simp) (hdots (k + 1)), TypeLocator.ofSegments_members_replicate hplain]
      · rw [hcollapse, TypeLocator.ofText_join (by simp) honeDots, TypeLocator.ofSegments_members hplain]

/-- Selectors for the getters of the types in `a.b`, one of them with blanks and with more wildcards than it needs. -/
theorem compile_members_getters :
    let types : List (TypeDescriptor Unit) :=
      [.concrete "a.b.C" "C", .concrete "a.b.c.D" "D", .abstractType "a.b.E", .concrete "a.F" "F", .concrete "b" "b"]
    ∃ p q, compile "a.b.*.*.*.get*( int )" = .ok p ∧ compile "a.b.*.get*(int)" = .ok q ∧
      p.locator = .inNamespace "a.b" ∧ p.params = q.params ∧ (∀ s, p.accepts s = q.accepts s) ∧
      (∀ c : Catalog Unit, p.select c = q.select c) ∧
      (p.candidateTypes (Catalog.ofTypes types)).map (·.name) = ["a.b.C"] := by
  intro types
  have hns : ∀ x ∈ ["a".toList, "b".toList], x ≠ [] ∧ '.' ∉ x ∧ '*' ∉ x := by decide
  have hmethod : '.' ∉ "get*".toList := by decide
  have hone : Text.compactChars "a.b.*.get*(int)".toList =
      SelectorParts.membersText ["a".toList, "b".toList] 1 "get*".toList "int".toList := by decide
  have hmany : Text.compactChars "a.b.*.*.*.get*( int )".toList =
      SelectorParts.membersText ["a".toList, "b".toList] 3 "get*".toList "int".toList := by decide
  obtain ⟨haccepted, hsame⟩ := compile_members 2 hns hmethod hone hmany
  obtain ⟨q, hq⟩ : ∃ q, compile "a.b.*.get*(int)" = .ok q := ⟨_, rfl⟩
  obtain ⟨p, hp⟩ := haccepted.mpr ⟨q, hq⟩
  obtain ⟨hlocator, hparams, haccepts, hselect, hcandidates, -⟩ := hsame p q hp hq
  refine ⟨p, q, hp, hq, hlocator, hparams, haccepts, hselect, ?_⟩
  rw [(hcandidates types).1]
  decide

end Pointcut

end AspectWeaver

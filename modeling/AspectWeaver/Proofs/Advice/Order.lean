import AspectWeaver.Advice.Set
import Mathlib.Data.List.Basic
import Mathlib.Data.List.Induction

/-!
# The order within a list of advices

A list that was made by putting advices in place one after the other falls by order number, and of each
number it holds the advices in the order in which they came. There is only one such list
(`Falling.eq_of_withOrder`), so it is the stable sort of what was put in place (`inOrder_eq_mergeSort`), and
it does not depend on how advices of different numbers were mixed (`inOrder_congr`). The five lists of an
advice set are made in this way, each of the advices of its kind (`AdviceSet.ofKind_foldl_push`).
-/

set_option autoImplicit false

namespace AspectWeaver

variable {β : Type}

/-! ## Lists that fall -/

/-- The order numbers of a list of advices never rise. -/
def Falling (advices : List (Advised β)) : Prop := advices.Pairwise fun a b => b.order ≤ a.order

/-- The advices of one order number, in the order in which they stand. -/
def withOrder (n : Int) (advices : List (Advised β)) : List (Advised β) :=
  advices.filter fun a => a.order = n

/-- The advices of one order number in two lists are those of the first and then those of the second. -/
@[simp] theorem withOrder_append (n : Int) (xs ys : List (Advised β)) :
    withOrder n (xs ++ ys) = withOrder n xs ++ withOrder n ys := List.filter_append xs ys

/-- The advices of one order number are the members of the list that have it. -/
theorem mem_withOrder {n : Int} {a : Advised β} {advices : List (Advised β)} :
    a ∈ withOrder n advices ↔ a ∈ advices ∧ a.order = n := by
  simp [withOrder]

/-- The first advice counts among those of an order number exactly if it has this number. -/
theorem withOrder_cons (n : Int) (a : Advised β) (advices : List (Advised β)) :
    withOrder n (a :: advices) = if a.order = n then a :: withOrder n advices else withOrder n advices := by
  unfold withOrder
  by_cases hn : a.order = n <;> simp [hn]

/-- A list that falls holds nothing of a number that is greater than its first. -/
theorem Falling.withOrder_eq_nil {a : Advised β} {advices : List (Advised β)} (h : Falling (a :: advices))
    {n : Int} (hn : a.order < n) : withOrder n (a :: advices) = [] := by
  unfold withOrder
  rw [List.filter_eq_nil_iff]
  intro b hb
  rw [decide_eq_true_eq]
  rcases List.mem_cons.mp hb with rfl | hb
  · omega
  · have := List.rel_of_pairwise_cons h hb
    omega

/-- Lists with the same advices of each order number have the same members. -/
theorem mem_iff_of_withOrder {xs ys : List (Advised β)} (h : ∀ n, withOrder n xs = withOrder n ys)
    (a : Advised β) : a ∈ xs ↔ a ∈ ys := by
  have hiff : a ∈ withOrder a.order xs ↔ a ∈ withOrder a.order ys := by rw [h]
  simpa [mem_withOrder] using hiff

/-- A list that falls is told by its advices of each number. -/
theorem Falling.eq_of_withOrder {xs ys : List (Advised β)} (hxs : Falling xs) (hys : Falling ys)
    (h : ∀ n, withOrder n xs = withOrder n ys) : xs = ys := by
  induction xs generalizing ys with
  | nil =>
      refine (List.eq_nil_iff_forall_not_mem.mpr fun a ha => ?_).symm
      cases (mem_iff_of_withOrder h a).mpr ha
  | cons a xs ih =>
      cases ys with
      | nil => cases (mem_iff_of_withOrder h a).mp List.mem_cons_self
      | cons b ys =>
          -- each of the two first advices has the greatest number of all
          have hle : a.order ≤ b.order := by
            rcases List.mem_cons.mp ((mem_iff_of_withOrder h a).mp List.mem_cons_self) with rfl | ha
            · exact Int.le_refl _
            · exact List.rel_of_pairwise_cons hys ha
          have hge : b.order ≤ a.order := by
            rcases List.mem_cons.mp ((mem_iff_of_withOrder h b).mpr List.mem_cons_self) with rfl | hb
            · exact Int.le_refl _
            · exact List.rel_of_pairwise_cons hxs hb
          have hfirst := h a.order
          rw [withOrder_cons, withOrder_cons, if_pos rfl, if_pos (Int.le_antisymm hge hle)] at hfirst
          obtain ⟨rfl, -⟩ := List.cons.inj hfirst
          have hrest : ∀ n, withOrder n xs = withOrder n ys := by
            intro n
            have hn := h n
            rw [withOrder_cons, withOrder_cons] at hn
            split at hn
            next => exact List.tail_eq_of_cons_eq hn
            next => exact hn
          rw [ih (List.Pairwise.of_cons hxs) (List.Pairwise.of_cons hys) hrest]

/-! ## Putting an advice in place -/

/-- Inserting an advice adds it and nothing else. -/
theorem perm_insertOrdered (a : Advised β) (advices : List (Advised β)) :
    (insertOrdered a advices).Perm (advices ++ [a]) := by
  induction advices with
  | nil => exact List.Perm.refl _
  | cons b advices ih =>
      rw [insertOrdered]
      split
      next => exact (List.perm_append_singleton a (b :: advices)).symm
      next => exact ih.cons b

/-- Order numbers that fall still fall after an insertion. -/
theorem Falling.insertOrdered {advices : List (Advised β)} (h : Falling advices) (a : Advised β) :
    Falling (insertOrdered a advices) := by
  induction advices with
  | nil => exact List.pairwise_singleton _ a
  | cons b advices ih =>
      obtain ⟨hb, hrest⟩ := List.pairwise_cons.mp h
      rw [AspectWeaver.insertOrdered]
      split
      next hlt =>
        refine List.pairwise_cons.mpr ⟨?_, h⟩
        intro c hc
        rcases List.mem_cons.mp hc with rfl | hc
        · omega
        · have := hb c hc
          omega
      next hle =>
        refine List.pairwise_cons.mpr ⟨?_, ih hrest⟩
        intro c hc
        rcases List.mem_append.mp ((perm_insertOrdered a advices).subset hc) with hc | hc
        · exact hb c hc
        · rw [List.mem_singleton.mp hc]
          omega

/-- A new advice comes behind all of its number. -/
theorem Falling.withOrder_insertOrdered {advices : List (Advised β)} (h : Falling advices) (a : Advised β)
    (n : Int) : withOrder n (AspectWeaver.insertOrdered a advices) = withOrder n (advices ++ [a]) := by
  induction advices with
  | nil => rfl
  | cons b advices ih =>
      rw [AspectWeaver.insertOrdered]
      split
      next hlt =>
        rw [withOrder_append, withOrder_cons n a, withOrder_cons n a]
        by_cases hn : a.order = n
        · -- all that follow have smaller numbers
          rw [h.withOrder_eq_nil (hn ▸ hlt), if_pos hn, if_pos hn]
          rfl
        · rw [if_neg hn, if_neg hn]
          exact (List.append_nil _).symm
      next => rw [List.cons_append, withOrder_cons, withOrder_cons, ih (List.Pairwise.of_cons h)]

/-! ## Putting many in place -/

/-- Advices put in place one after the other. -/
def inOrder (advices : List (Advised β)) : List (Advised β) :=
  advices.foldl (fun placed a => insertOrdered a placed) []

/-- Sorting a list with one advice more is inserting this advice into the sorted list. -/
theorem inOrder_concat (advices : List (Advised β)) (a : Advised β) :
    inOrder (advices ++ [a]) = insertOrdered a (inOrder advices) := by
  rw [inOrder, List.foldl_append]
  rfl

/-- Sorting keeps all advices and adds none. -/
theorem perm_inOrder (advices : List (Advised β)) : (inOrder advices).Perm advices := by
  induction advices using List.reverseRecOn with
  | nil => exact List.Perm.refl _
  | append_singleton advices a ih =>
      rw [inOrder_concat]
      exact (perm_insertOrdered a _).trans (ih.append_right [a])

/-- In a sorted list the order numbers fall. -/
theorem falling_inOrder (advices : List (Advised β)) : Falling (inOrder advices) := by
  induction advices using List.reverseRecOn with
  | nil => exact List.Pairwise.nil
  | append_singleton advices a ih =>
      rw [inOrder_concat]
      exact ih.insertOrdered a

/-- Advices of one number stay in the order in which they came. -/
theorem withOrder_inOrder (n : Int) (advices : List (Advised β)) :
    withOrder n (inOrder advices) = withOrder n advices := by
  induction advices using List.reverseRecOn with
  | nil => rfl
  | append_singleton advices a ih =>
      rw [inOrder_concat, (falling_inOrder advices).withOrder_insertOrdered, withOrder_append, ih,
        withOrder_append]

/-- How advices of different numbers were mixed when they came makes no difference. -/
theorem inOrder_congr {xs ys : List (Advised β)} (h : ∀ n, withOrder n xs = withOrder n ys) :
    inOrder xs = inOrder ys := by
  apply (falling_inOrder xs).eq_of_withOrder (falling_inOrder ys)
  intro n
  rw [withOrder_inOrder, withOrder_inOrder, h]

/-- Whether an advice may stand before another one. -/
def Advised.precedes (a b : Advised β) : Bool := b.order ≤ a.order

/-- Putting advices in place one after the other is a stable sort by falling number. -/
theorem inOrder_eq_mergeSort (advices : List (Advised β)) : inOrder advices = advices.mergeSort Advised.precedes := by
  have htrans : ∀ a b c : Advised β, a.precedes b = true → b.precedes c = true → a.precedes c = true := by
    simp only [Advised.precedes, decide_eq_true_eq]
    omega
  have htotal : ∀ a b : Advised β, (a.precedes b || b.precedes a) = true := by
    simp only [Advised.precedes, Bool.or_eq_true, decide_eq_true_eq]
    omega
  have hfalling : Falling (advices.mergeSort Advised.precedes) :=
    (List.pairwise_mergeSort htrans htotal advices).imp fun h => by simpa [Advised.precedes] using h
  apply (falling_inOrder advices).eq_of_withOrder hfalling
  intro n
  rw [withOrder_inOrder]
  -- the advices of one number are sorted already, so they stay together as they are
  have hsorted : (withOrder n advices).Pairwise fun a b => a.precedes b = true := by
    rw [List.pairwise_iff_forall_sublist]
    intro a b hab
    have ha := (mem_withOrder.mp (hab.subset List.mem_cons_self)).2
    have hb := (mem_withOrder.mp (hab.subset (List.mem_cons_of_mem a List.mem_cons_self))).2
    simp [Advised.precedes, ha, hb]
  have hsublist : (withOrder n advices).Sublist (advices.mergeSort Advised.precedes) :=
    List.sublist_mergeSort htrans htotal hsorted List.filter_sublist
  have hfiltered : withOrder n (withOrder n advices) = withOrder n advices := by simp [withOrder]
  have hkept : (withOrder n (withOrder n advices)).Sublist (withOrder n (advices.mergeSort Advised.precedes)) :=
    hsublist.filter _
  rw [hfiltered] at hkept
  exact hkept.eq_of_length ((List.mergeSort_perm advices Advised.precedes).filter _).length_eq.symm

/-! ## The lists of a set -/

/-- The advices of one kind, in the order in which they stand. -/
def advisedOf (kind : AdviceKind) (advices : List (Advice β)) : List (Advised β) :=
  (advices.filter fun a => a.kind = kind).map Advice.advised

/-- The advices of a kind in two histories are those of the first and then those of the second. -/
@[simp] theorem advisedOf_append (kind : AdviceKind) (xs ys : List (Advice β)) :
    advisedOf kind (xs ++ ys) = advisedOf kind xs ++ advisedOf kind ys := by
  simp [advisedOf]

/-- The list of a kind is that of the advices of this kind, put in place one after the other. -/
theorem AdviceSet.ofKind_foldl_push (advices : List (Advice β)) (kind : AdviceKind) :
    (advices.foldl push empty).ofKind kind = inOrder (advisedOf kind advices) := by
  induction advices using List.reverseRecOn with
  | nil => cases kind <;> rfl
  | append_singleton advices a ih =>
      rw [List.foldl_append, List.foldl_cons, List.foldl_nil, ofKind_push, ih, advisedOf_append]
      by_cases hkind : a.kind = kind
      · rw [if_pos hkind, ← inOrder_concat]
        simp [advisedOf, hkind]
      · rw [if_neg hkind]
        simp [advisedOf, hkind]

/-- A set is told by its five lists. -/
theorem AdviceSet.ext_ofKind {s t : AdviceSet β} (h : ∀ kind, s.ofKind kind = t.ofKind kind) : s = t := by
  obtain ⟨before, after, around, afterReturning, afterThrowing⟩ := s
  have hbefore := h .before
  have hafter := h .after
  have haround := h .around
  have hreturning := h .afterReturning
  have hthrowing := h .afterThrowing
  dsimp only [ofKind] at hbefore hafter haround hreturning hthrowing
  rw [hbefore, hafter, haround, hreturning, hthrowing]

end AspectWeaver

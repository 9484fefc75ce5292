import AspectWeaver.Proofs.Advice.Order

/-!
# An advice set is the stable sort of its history

Each push puts one advice in place, which is the same as to append it and sort again
(`insertOrdered_eq_mergeSort`). The top is `AdviceSet.foldl_push_sorted`: after any history of pushes each list of
the set is one stable sort of the advices of its kind, no push disturbs the order of what is there, and two
histories make the same set exactly if they agree on the advices of each kind and number.
-/

set_option autoImplicit false

namespace AspectWeaver

variable {β : Type}

/-! ## One more advice -/

/-- Inserting into a list whose order numbers fall is appending and sorting stably. -/
theorem insertOrdered_eq_mergeSort {advices : List (Advised β)} (h : Falling advices) (a : Advised β) :
    insertOrdered a advices = (advices ++ [a]).mergeSort Advised.precedes := by
  rw [← inOrder_eq_mergeSort]
  apply (h.insertOrdered a).eq_of_withOrder (falling_inOrder _)
  intro n
  rw [h.withOrder_insertOrdered, withOrder_inOrder]

/-- Inserting an advice keeps the others in their order. -/
theorem sublist_insertOrdered (a : Advised β) (advices : List (Advised β)) :
    advices.Sublist (insertOrdered a advices) := by
  induction advices with
  | nil => exact List.nil_sublist _
  | cons b advices ih =>
      rw [insertOrdered]
      split
      next => exact List.sublist_cons_self a _
      next => exact ih.cons_cons b

/-! ## Histories -/

/-- The advices of a history that have a kind and a number, in the order in which they came. -/
def pushedAt (kind : AdviceKind) (n : Int) (history : List (Advice β)) : List (Advice β) :=
  history.filter fun a => a.kind = kind ∧ a.order = n

/-- Of a history, the advices of one kind and order number are those that were pushed at this place. -/
theorem withOrder_advisedOf (kind : AdviceKind) (n : Int) (history : List (Advice β)) :
    withOrder n (advisedOf kind history) = (pushedAt kind n history).map Advice.advised := by
  unfold withOrder advisedOf pushedAt
  rw [List.filter_map, List.filter_filter]
  congr 1
  apply List.filter_congr
  intro a _
  rw [Bool.decide_and]
  exact Bool.and_comm _ _

/-- The list in which an advice stands tells its kind, so nothing of it is lost there. -/
theorem withOrder_advisedOf_eq_iff (kind : AdviceKind) (n : Int) (xs ys : List (Advice β)) :
    withOrder n (advisedOf kind xs) = withOrder n (advisedOf kind ys) ↔ pushedAt kind n xs = pushedAt kind n ys := by
  let back (a : Advised β) : Advice β := ⟨a.name, a.order, kind, a.body⟩
  have hback (history : List (Advice β)) :
      ((pushedAt kind n history).map Advice.advised).map back = pushedAt kind n history := by
    rw [List.map_map]
    conv_rhs => rw [← List.map_id (pushedAt kind n history)]
    apply List.map_congr_left
    intro a ha
    obtain ⟨rfl, -⟩ := of_decide_eq_true (List.mem_filter.mp ha).2
    rfl
  rw [withOrder_advisedOf, withOrder_advisedOf]
  constructor
  · intro h
    rw [← hback xs, h, hback]
  · intro h
    rw [h]

namespace AdviceSet

/-- A set grows by the length of the history that is pushed onto it. -/
theorem size_foldl_push (history : List (Advice β)) (set : AdviceSet β) :
    (history.foldl push set).size = set.size + history.length := by
  induction history generalizing set with
  | nil => rfl
  | cons a history ih =>
      rw [List.foldl_cons, ih, size_push, List.length_cons]
      omega

/-- Pushing more advices keeps those of each kind in their order. -/
theorem sublist_ofKind_foldl_push (more : List (Advice β)) (set : AdviceSet β) (kind : AdviceKind) :
    (set.ofKind kind).Sublist ((more.foldl push set).ofKind kind) := by
  induction more generalizing set with
  | nil => exact List.Sublist.refl _
  | cons a more ih =>
      apply List.Sublist.trans _ (ih (set.push a))
      rw [ofKind_push]
      split
      next => exact sublist_insertOrdered _ _
      next => exact List.Sublist.refl _

/-- Histories make the same set exactly if they agree on the advices of each kind and number. -/
theorem foldl_push_eq_iff (xs ys : List (Advice β)) :
    xs.foldl push empty = ys.foldl push empty ↔ ∀ kind n, pushedAt kind n xs = pushedAt kind n ys := by
  simp only [← withOrder_advisedOf_eq_iff]
  constructor
  · intro h kind n
    have hkind := congrArg (fun set => withOrder n (set.ofKind kind)) h
    simpa only [ofKind_foldl_push, withOrder_inOrder] using hkind
  · intro h
    apply ext_ofKind
    intro kind
    rw [ofKind_foldl_push, ofKind_foldl_push, inOrder_congr (h kind)]

/-- After any history of pushes from the empty set, each of the five lists is the stable sort of the advices of its
kind by falling number: its numbers never rise, and of each number it holds the advices of the history in the order
in which they came. The size of the set is the length of the history. One push more appends to the list of its kind
and sorts it again, and leaves the other lists alone; what is in a list keeps its order whatever is pushed later.
Another history makes the same set exactly if it holds, of each kind and number, the same advices in the same
order. -/
theorem foldl_push_sorted (history : List (Advice β)) :
    let set := history.foldl push empty
    (∀ kind, set.ofKind kind = (advisedOf kind history).mergeSort Advised.precedes ∧ Falling (set.ofKind kind) ∧
      ∀ n, withOrder n (set.ofKind kind) = (pushedAt kind n history).map Advice.advised) ∧
    set.size = history.length ∧
    (∀ a kind, (set.push a).ofKind kind =
      if a.kind = kind then (set.ofKind kind ++ [a.advised]).mergeSort Advised.precedes else set.ofKind kind) ∧
    (∀ (more : List (Advice β)) (kind : AdviceKind),
      (set.ofKind kind).Sublist ((more.foldl push set).ofKind kind)) ∧
    ∀ other, set = other.foldl push empty ↔ ∀ kind n, pushedAt kind n history = pushedAt kind n other := by
  intro set
  have hlist (kind : AdviceKind) : set.ofKind kind = inOrder (advisedOf kind history) :=
    ofKind_foldl_push history kind
  have hfalling (kind : AdviceKind) : Falling (set.ofKind kind) := by
    rw [hlist]
    exact falling_inOrder _
  refine ⟨?_, ?_, ?_, fun more kind => sublist_ofKind_foldl_push more set kind, foldl_push_eq_iff history⟩
  · intro kind
    refine ⟨?_, hfalling kind, ?_⟩
    · rw [hlist, inOrder_eq_mergeSort]
    · intro n
      rw [hlist, withOrder_inOrder, withOrder_advisedOf]
  · have hsize := size_foldl_push history (empty : AdviceSet β)
    rwa [size_empty, Nat.zero_add] at hsize
  · intro a kind
    rw [ofKind_push, insertOrdered_eq_mergeSort (hfalling kind)]

-- the highest and the lowest number there are, and a tie
example :
    let advice (name : String) (order : Int) (kind : AdviceKind) : Advice Unit := ⟨name, order, kind, .logExiting⟩
    let set := [advice "a" (-2147483648) .before, advice "b" 1 .before, advice "c" 2147483647 .before,
      advice "d" 1 .around, advice "e" 1 .before].foldl push empty
    set.before.map Advised.name = ["c", "b", "e", "a"] ∧ set.around.map Advised.name = ["d"] := by
  decide

end AdviceSet

end AspectWeaver

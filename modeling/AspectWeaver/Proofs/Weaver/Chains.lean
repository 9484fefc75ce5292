import AspectWeaver.Proofs.Advice.Order
import AspectWeaver.Proofs.Weaver.Run

/-!
# Chains are a function of the history

What a run leaves in the advice registry is what its bindings leave there, one added after the other
(`after_advices`). The top is `adviceSet?_after`: the advices of a signature are those of its bindings, put
in place in the order of the history, and a type needs weaving exactly when a binding is to one of its
methods.
-/

set_option autoImplicit false

namespace AspectWeaver

variable {β : Type}

/-! ## The registry -/

namespace AdviceRegistry

/-- A binding adds its advice to the set of its signature, which may be new. -/
theorem adviceSet?_add (r : AdviceRegistry β) (x : Binding β) (s : Signature) :
    (r.add x).adviceSet? s =
      if x.signature = s then some (((r.adviceSet? s).getD AdviceSet.empty).push x.advice)
      else r.adviceSet? s := by
  show (r.sets.insert x.signature _).get? s = _
  rw [Table.get?_insert]
  by_cases hs : x.signature = s
  · rw [if_pos hs, if_pos hs, ← hs]
    rfl
  · rw [if_neg hs, if_neg hs]
    rfl

/-- A binding makes its own type one that needs weaving, and no other. -/
theorem needsWeaving_add (r : AdviceRegistry β) (x : Binding β) (typeName : String) :
    (r.add x).needsWeaving typeName = true ↔ x.typeName = typeName ∨ r.needsWeaving typeName = true := by
  show (if r.wovenTypes.contains x.typeName then r.wovenTypes
    else r.wovenTypes ++ [x.typeName]).contains typeName = true ↔ _ ∨ r.wovenTypes.contains typeName = true
  simp only [List.contains_iff_mem]
  split
  next hmem => exact ⟨Or.inr, fun h => h.elim (fun heq => heq ▸ hmem) id⟩
  next => rw [List.mem_append, List.mem_singleton, or_comm, eq_comm]

/-- Puts advices in place one after the other; without any there need not be a set. -/
def extend (set : Option (AdviceSet β)) (advices : List (Advice β)) : Option (AdviceSet β) :=
  advices.foldl (fun set a => some ((set.getD AdviceSet.empty).push a)) set

/-- Advices that are put into a set make a set. -/
theorem extend_some (set : AdviceSet β) (advices : List (Advice β)) :
    extend (some set) advices = some (advices.foldl AdviceSet.push set) := by
  induction advices generalizing set with
  | nil => rfl
  | cons a advices ih => exact ih (set.push a)

/-- Without a set, advices make one if there are any. -/
theorem extend_none (advices : List (Advice β)) :
    extend none advices =
      if advices.isEmpty then none else some (advices.foldl AdviceSet.push AdviceSet.empty) := by
  cases advices with
  | nil => rfl
  | cons a advices => exact extend_some (AdviceSet.empty.push a) advices

/-- Where there is no set, its lists count as empty. -/
theorem getD_extend_none (advices : List (Advice β)) :
    (extend none advices).getD AdviceSet.empty = advices.foldl AdviceSet.push AdviceSet.empty := by
  rw [extend_none]
  cases advices <;> rfl

/-- Each list of a set that was made from advices is that of its kind, put in order. -/
theorem ofKind_of_extend {advices : List (Advice β)} {set : AdviceSet β} (h : extend none advices = some set)
    (kind : AdviceKind) : set.ofKind kind = inOrder (advisedOf kind advices) := by
  rw [extend_none] at h
  split at h
  next => cases h
  next =>
    cases h
    exact AdviceSet.ofKind_foldl_push advices kind

/-- Of bindings, a signature gets the advices that are bound to it, in their order. -/
theorem adviceSet?_foldl_add (xs : List (Binding β)) (r : AdviceRegistry β) (s : Signature) :
    (xs.foldl add r).adviceSet? s =
      extend (r.adviceSet? s) ((xs.filter fun x => x.signature = s).map Binding.advice) := by
  induction xs generalizing r with
  | nil => rfl
  | cons x xs ih =>
      rw [List.foldl_cons, ih, adviceSet?_add]
      by_cases hs : x.signature = s
      · rw [if_pos hs, List.filter_cons_of_pos (by simpa using hs), List.map_cons]
        rfl
      · rw [if_neg hs, List.filter_cons_of_neg (by simpa using hs)]

/-- After bindings the types that need weaving are those of the bindings and those from before. -/
theorem needsWeaving_foldl_add (xs : List (Binding β)) (r : AdviceRegistry β) (typeName : String) :
    (xs.foldl add r).needsWeaving typeName = true ↔
      (∃ x ∈ xs, x.typeName = typeName) ∨ r.needsWeaving typeName = true := by
  induction xs generalizing r with
  | nil => simp
  | cons x xs ih =>
      rw [List.foldl_cons, ih, needsWeaving_add]
      simp only [List.mem_cons, exists_eq_or_imp, or_assoc, or_left_comm]

end AdviceRegistry

/-! ## The weaver -/

namespace Weaver

variable [RegexEngine]

/-- Of all registrations only that of an aspect touches the advices. -/
theorem apply_advices (w : Weaver β) (op : WeaverOp β) :
    (w.apply op).bindings.advices = (w.bindingsBy op).foldl AdviceRegistry.add w.bindings.advices := by
  cases op with
  | registerType t => rfl
  | registerAspect a =>
      rw [apply_registerAspect]
      rfl
  | registerInterceptTarget typeName =>
      rcases apply_registerInterceptTarget w typeName with ⟨h, -⟩ | ⟨t, -, -, -, -, -, h, -⟩
      · rw [h]
        rfl
      · rw [h]
        rfl

/-- The advices after a run are those of its history, added one after the other. -/
theorem after_advices (w : Weaver β) (ops : List (WeaverOp β)) :
    (w.after ops).bindings.advices = (w.history ops).foldl AdviceRegistry.add w.bindings.advices := by
  induction ops generalizing w with
  | nil => rfl
  | cons op ops ih =>
      show ((w.apply op).after ops).bindings.advices = _
      rw [ih, apply_advices, history, List.foldl_append]

/-- After a run, the set of a signature is the one from before with the advices that the run bound to it. -/
theorem adviceSet?_after_eq_extend (w : Weaver β) (ops : List (WeaverOp β)) (s : Signature) :
    (w.after ops).adviceSet? s = AdviceRegistry.extend (w.adviceSet? s)
      (((w.history ops).filter fun x => x.signature = s).map Binding.advice) := by
  unfold adviceSet?
  rw [after_advices, AdviceRegistry.adviceSet?_foldl_add]

/-- After a run from a new weaver, the set of a signature is made from the advices that were bound to it. -/
theorem adviceSet?_after_new (name : String) (config : WeaverConfig) (ops : List (WeaverOp β)) (s : Signature) :
    ((new name config).after ops).adviceSet? s = AdviceRegistry.extend none
      ((((new name config).history ops).filter fun x => x.signature = s).map Binding.advice) :=
  adviceSet?_after_eq_extend (new name config) ops s

/-- After any run from a new weaver, the advices of a signature are those that the run bound to it, put in
place in that order, and there is no set exactly when there was no such binding; a type needs weaving
exactly when one of its methods was bound; and a registration that is not that of an aspect, or that
fails, changes the advices of no signature. -/
theorem adviceSet?_after (name : String) (config : WeaverConfig) (ops : List (WeaverOp β)) :
    let w := (Weaver.new name config).after ops
    let history := (Weaver.new name config).history ops
    (∀ s, let advices := (history.filter fun x => x.signature = s).map Binding.advice
      w.adviceSet? s =
        if advices.isEmpty then none else some (advices.foldl AdviceSet.push AdviceSet.empty)) ∧
    (∀ typeName, w.bindings.advices.needsWeaving typeName = true ↔
      ∃ x ∈ history, x.typeName = typeName) ∧
    ∀ op, (∀ a n, op = .registerAspect a → (w.registerAspect a).value.2 ≠ .ok n) →
      ∀ s, (w.apply op).adviceSet? s = w.adviceSet? s := by
  intro w history
  have hadvices : w.bindings.advices = history.foldl AdviceRegistry.add AdviceRegistry.empty :=
    after_advices (Weaver.new name config) ops
  refine ⟨?_, ?_, ?_⟩
  · intro s advices
    unfold adviceSet?
    rw [hadvices, AdviceRegistry.adviceSet?_foldl_add]
    exact AdviceRegistry.extend_none _
  · intro typeName
    rw [hadvices, AdviceRegistry.needsWeaving_foldl_add]
    exact or_iff_left Bool.false_ne_true
  · intro op hop s
    unfold adviceSet?
    rw [apply_advices]
    have hnone : w.bindingsBy op = [] := by
      rw [List.eq_nil_iff_forall_not_mem]
      intro x hx
      obtain ⟨a, n, rfl, hn, -⟩ := (mem_bindingsBy w op x).mp hx
      exact hop a n rfl hn
    rw [hnone]
    rfl

end Weaver

end AspectWeaver

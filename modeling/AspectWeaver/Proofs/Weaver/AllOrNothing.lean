import AspectWeaver.Proofs.Pointcut.Compile
import AspectWeaver.Proofs.Weaver.Chains
import Mathlib

/-!
# Registering an aspect is all or nothing

The selectors of an aspect are read before anything is bound, so a malformed one leaves no trace, wherever
it stands (`registerAspect_of_malformed`). If all can be read, the number that the registration gives is the
number of methods that the declarations select, and so many advices more are stored then
(`total_bindEach`). `registerAspect_all_or_nothing` puts the two together.
-/

set_option autoImplicit false

namespace AspectWeaver

variable {β : Type}

/-! ## The stored advices -/

namespace AdviceRegistry

/-- How many advices are bound to a signature. -/
def chainLength (r : AdviceRegistry β) (s : Signature) : Nat := ((r.adviceSet? s).map AdviceSet.size).getD 0

/-- How many advices are bound, over all signatures. -/
def total (r : AdviceRegistry β) : Nat := ∑ s ∈ r.sets.keys.toFinset, r.chainLength s

/-- A binding makes the chain of its signature longer by one, and no other. -/
theorem chainLength_add (r : AdviceRegistry β) (x : Binding β) (s : Signature) :
    (r.add x).chainLength s = r.chainLength s + if x.signature = s then 1 else 0 := by
  unfold chainLength
  rw [adviceSet?_add]
  split
  next => cases r.adviceSet? s <;> simp
  next => rfl

/-- Signatures without advices add nothing, so any signatures may be summed over that include all others. -/
theorem total_eq_sum (r : AdviceRegistry β) {signatures : Finset Signature}
    (h : r.sets.keys.toFinset ⊆ signatures) : r.total = ∑ s ∈ signatures, r.chainLength s := by
  apply Finset.sum_subset h
  intro s _ hs
  have hnone : r.adviceSet? s = none := by
    apply (Table.get?_eq_none_iff r.sets s).mpr
    simpa using hs
  simp [chainLength, hnone]

/-- A binding stores one advice more. -/
theorem total_add (r : AdviceRegistry β) (x : Binding β) : (r.add x).total = r.total + 1 := by
  let signatures := r.sets.keys.toFinset ∪ ((r.add x).sets.keys.toFinset ∪ {x.signature})
  have hold : r.total = ∑ s ∈ signatures, r.chainLength s :=
    r.total_eq_sum Finset.subset_union_left
  have hnew : (r.add x).total = ∑ s ∈ signatures, (r.add x).chainLength s :=
    (r.add x).total_eq_sum (Finset.subset_union_left.trans Finset.subset_union_right)
  have hmem : x.signature ∈ signatures := by simp [signatures]
  rw [hnew, hold]
  simp only [chainLength_add, Finset.sum_add_distrib, Finset.sum_ite_eq, if_pos hmem]

/-- Bindings add their number to the total. -/
theorem total_foldl_add (xs : List (Binding β)) (r : AdviceRegistry β) :
    (xs.foldl add r).total = r.total + xs.length := by
  induction xs generalizing r with
  | nil => rfl
  | cons x xs ih =>
      rw [List.foldl_cons, ih, total_add, List.length_cons]
      omega

end AdviceRegistry

/-! ## Registering -/

namespace Weaver

variable [RegexEngine]

/-- How many methods of types that may be woven a declaration selects at the moment. -/
def selectedBy (w : Weaver β) (d : Declaration β) : Nat :=
  match Pointcut.compile d.selector with
  | .ok p => (w.selected p).length
  | .error _ => 0

/-- An aspect binds as many advices as its declarations select methods. -/
theorem length_bindingsOf (w : Weaver β) (a : Aspect β) :
    (w.bindingsOf a).length = (a.declarations.map w.selectedBy).sum := by
  unfold bindingsOf
  rw [List.length_flatMap]
  congr 1
  apply List.map_congr_left
  intro d _
  unfold selectedBy
  cases Pointcut.compile d.selector with
  | ok p => exact List.length_map _
  | error e => rfl

omit [RegexEngine] in
/-- Binding advices one after the other adds their number to the total. -/
theorem total_bindEach (w : Weaver β) (xs : List (Binding β)) :
    (w.bindEach xs).bindings.advices.total = w.bindings.advices.total + xs.length :=
  AdviceRegistry.total_foldl_add xs w.bindings.advices

/-- Reading the selectors of an aspect stops at the first one that cannot be read. -/
theorem compileAspect_of_malformed {a : Aspect β} {earlier later : List (Declaration β)} {d : Declaration β}
    {e : WeaveError} (hsplit : a.declarations = earlier ++ d :: later)
    (hearlier : ∀ x ∈ earlier, ∃ p, Pointcut.compile x.selector = .ok p)
    (hd : Pointcut.compile d.selector = .error e) : compileAspect a = .error e := by
  unfold compileAspect
  rw [hsplit]
  clear hsplit
  induction earlier with
  | nil =>
      rw [List.nil_append, List.mapM_cons, hd]
      rfl
  | cons x earlier ih =>
      obtain ⟨p, hp⟩ := hearlier x List.mem_cons_self
      have hrest := ih fun y hy => hearlier y (List.mem_cons_of_mem x hy)
      rw [List.cons_append, List.mapM_cons, hp, hrest]
      rfl

/-- An aspect is compiled if each of its selectors is. -/
theorem exists_compileAspect {a : Aspect β}
    (h : ∀ d ∈ a.declarations, ∃ p, Pointcut.compile d.selector = .ok p) :
    ∃ compiled, compileAspect a = .ok compiled := by
  unfold compileAspect
  generalize a.declarations = declarations at h
  induction declarations with
  | nil => exact ⟨[], rfl⟩
  | cons d declarations ih =>
      obtain ⟨p, hp⟩ := h d List.mem_cons_self
      obtain ⟨compiled, hcompiled⟩ := ih fun x hx => h x (List.mem_cons_of_mem d hx)
      refine ⟨(p, d.advice) :: compiled, ?_⟩
      rw [List.mapM_cons, hp, hcompiled]
      rfl

/-- Among declarations of which one cannot be read there is a first one. -/
theorem exists_first_malformed {declarations : List (Declaration β)}
    (h : ∃ d ∈ declarations, ¬ ∃ p, Pointcut.compile d.selector = .ok p) :
    ∃ earlier d later reason, declarations = earlier ++ d :: later ∧
      (∀ x ∈ earlier, ∃ p, Pointcut.compile x.selector = .ok p) ∧
      Pointcut.compile d.selector = .error (.malformedSelector d.selector reason) := by
  induction declarations with
  | nil =>
      obtain ⟨d, hd, -⟩ := h
      cases hd
  | cons x declarations ih =>
      cases hx : Pointcut.compile x.selector with
      | error e =>
          obtain ⟨reason, rfl⟩ := Pointcut.exists_reason_of_compile hx
          exact ⟨[], x, declarations, reason, rfl, fun _ hmem => (List.not_mem_nil hmem).elim, hx⟩
      | ok p =>
          obtain ⟨d, hd, hmalformed⟩ := h
          have hne : d ≠ x := by
            rintro rfl
            exact hmalformed ⟨p, hx⟩
          have hd : d ∈ declarations := (List.mem_cons.mp hd).resolve_left hne
          obtain ⟨earlier, first, later, reason, rfl, hearlier, hfirst⟩ := ih ⟨d, hd, hmalformed⟩
          refine ⟨x :: earlier, first, later, reason, rfl, ?_, hfirst⟩
          intro y hy
          rcases List.mem_cons.mp hy with rfl | hy
          · exact ⟨p, hx⟩
          · exact hearlier y hy

/-- An aspect with a selector that cannot be read fails with the error of the first one, changes nothing in the
weaver and logs nothing. Any other aspect succeeds with the number of methods of types that may be woven
that its declarations select, all declarations together, and that many advices more are stored afterwards. -/
theorem registerAspect_all_or_nothing (w : Weaver β) (a : Aspect β) :
    ((∃ d ∈ a.declarations, ¬ ∃ p, Pointcut.compile d.selector = .ok p) →
      ∃ earlier d later reason, a.declarations = earlier ++ d :: later ∧
        (∀ x ∈ earlier, ∃ p, Pointcut.compile x.selector = .ok p) ∧
        Pointcut.compile d.selector = .error (.malformedSelector d.selector reason) ∧
        w.registerAspect a = ⟨(w, .error (.malformedSelector d.selector reason)), []⟩) ∧
    ((∀ d ∈ a.declarations, ∃ p, Pointcut.compile d.selector = .ok p) →
      let n := (a.declarations.map w.selectedBy).sum
      (w.registerAspect a).value.2 = .ok n ∧
        (w.registerAspect a).value.1.bindings.advices.total = w.bindings.advices.total + n) := by
  refine ⟨?_, ?_⟩
  · intro h
    obtain ⟨earlier, d, later, reason, hsplit, hearlier, hd⟩ := exists_first_malformed h
    have herror := compileAspect_of_malformed hsplit hearlier hd
    exact ⟨earlier, d, later, reason, hsplit, hearlier, hd, w.registerAspect_of_malformed herror⟩
  · intro h n
    obtain ⟨compiled, hcompiled⟩ := exists_compileAspect h
    have hn : (w.bindingsOf a).length = n := w.length_bindingsOf a
    rw [w.registerAspect_of_compileAspect hcompiled, hn]
    refine ⟨rfl, ?_⟩
    rw [total_bindEach, hn]

end Weaver

end AspectWeaver

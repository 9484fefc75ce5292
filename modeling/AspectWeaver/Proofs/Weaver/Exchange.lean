import AspectWeaver.Proofs.Weaver.Chains
import AspectWeaver.Proofs.Weaver.Modes
import AspectWeaver.Regex.Standard

/-!
# Aspects in either order

Two aspects are independent if no signature gets from both an advice of the same kind with the same order
number. What an aspect binds does not depend on another aspect, an advice set does not depend on how advices of
different kinds or numbers were mixed (`AdviceRegistry.extend_none_congr`), and a woven type is told by its mode
and the catalog (`Weaver.Coherent.registration?_eq`). Hence `Weaver.registerAspect_exchange`: independent
aspects may be registered in either order.
-/

set_option autoImplicit false

namespace AspectWeaver

variable {β : Type}

/-- Advices that came in another order make the same set, as long as those of one kind and number did not. -/
theorem AdviceRegistry.extend_none_congr {xs ys : List (Advice β)} (hperm : xs.Perm ys)
    (h : ∀ kind n, withOrder n (advisedOf kind xs) = withOrder n (advisedOf kind ys)) :
    extend none xs = extend none ys := by
  have hset : xs.foldl AdviceSet.push AdviceSet.empty = ys.foldl AdviceSet.push AdviceSet.empty := by
    apply AdviceSet.ext_ofKind
    intro kind
    rw [AdviceSet.ofKind_foldl_push, AdviceSet.ofKind_foldl_push, inOrder_congr (h kind)]
  rw [extend_none, extend_none, hset, hperm.isEmpty_eq]

namespace Weaver

section

variable [RegexEngine]

/-- No signature gets from both aspects an advice of the same kind with the same order number. -/
def Independent (w : Weaver β) (a b : Aspect β) : Prop :=
  ∀ x ∈ w.bindingsBy (.registerAspect a), ∀ y ∈ w.bindingsBy (.registerAspect b),
    x.signature = y.signature → x.advice.kind = y.advice.kind → x.advice.order ≠ y.advice.order

omit [RegexEngine] in
/-- In coherent weavers with the same catalog, types with the same mode are woven alike. -/
theorem Coherent.registration?_eq {w v : Weaver β} (hw : w.Coherent) (hv : v.Coherent)
    (hcatalog : w.catalog = v.catalog) {typeName : String} (hmode : w.mode? typeName = v.mode? typeName) :
    w.registration? typeName = v.registration? typeName := by
  unfold mode? at hmode
  cases hr : w.registration? typeName with
  | none =>
      rw [hr] at hmode
      exact (Option.map_eq_none_iff.mp hmode.symm).symm
  | some r =>
      rw [hr] at hmode
      obtain ⟨q, hq, hsame⟩ := Option.map_eq_some_iff.mp hmode.symm
      have hrfits := hw.fit typeName r hr
      have hqfits := hv.fit typeName q hq
      have hdescriptor : some r.descriptor = some q.descriptor := by
        rw [← hrfits.descriptor, ← hqfits.descriptor, hcatalog]
      have hdispatcher : r.dispatcher = q.dispatcher := by
        rw [hrfits.dispatcher, hqfits.dispatcher, hsame]
      obtain ⟨descriptor, mode, dispatcher⟩ := r
      obtain ⟨descriptor', mode', dispatcher'⟩ := q
      cases hdescriptor
      cases hdispatcher
      cases hsame
      exact hq.symm

/-! ## What does not depend on another aspect -/

/-- The answer to the registration of an aspect depends on its selectors and on what they select. -/
theorem registerAspect_answer (w : Weaver β) (a : Aspect β) :
    (w.registerAspect a).value.2 = (compileAspect a).map fun _ => (w.bindingsOf a).length := by
  cases h : compileAspect a with
  | error e =>
      rw [registerAspect_of_malformed w h]
      rfl
  | ok compiled =>
      rw [registerAspect_of_compileAspect w h]
      rfl

section

variable (w : Weaver β) (a b : Aspect β)

/-- What an aspect would bind does not depend on other aspects. -/
theorem bindingsOf_apply_registerAspect : (w.apply (.registerAspect b)).bindingsOf a = w.bindingsOf a := by
  rw [apply_registerAspect]
  rfl

/-- How the registration of an aspect is answered does not depend on other aspects. -/
theorem registerAspect_answer_apply :
    ((w.apply (.registerAspect b)).registerAspect a).value.2 = (w.registerAspect a).value.2 := by
  rw [registerAspect_answer, registerAspect_answer, bindingsOf_apply_registerAspect]

/-- What the registration of an aspect binds does not depend on other aspects. -/
theorem bindingsBy_apply_registerAspect :
    (w.apply (.registerAspect b)).bindingsBy (.registerAspect a) = w.bindingsBy (.registerAspect a) := by
  unfold bindingsBy
  dsimp only
  rw [registerAspect_answer_apply, bindingsOf_apply_registerAspect]

/-- After two aspects the advices are those of the first and then those of the second. -/
theorem advices_apply_registerAspect :
    ((w.apply (.registerAspect a)).apply (.registerAspect b)).bindings.advices =
      (w.bindingsBy (.registerAspect a) ++ w.bindingsBy (.registerAspect b)).foldl AdviceRegistry.add
        w.bindings.advices := by
  rw [apply_advices, bindingsBy_apply_registerAspect, apply_advices, List.foldl_append]

end

/-- Of the advices that a signature gets from two independent aspects, none of one kind and number come from
both. -/
theorem Independent.withOrder_swap {w : Weaver β} {a b : Aspect β} (h : w.Independent a b) (s : Signature)
    (kind : AdviceKind) (n : Int) :
    let granted (c : Aspect β) := withOrder n (advisedOf kind
      (((w.bindingsBy (.registerAspect c)).filter fun x => x.signature = s).map Binding.advice))
    granted a ++ granted b = granted b ++ granted a := by
  intro granted
  have hgranted {c : Aspect β} (hc : granted c ≠ []) : ∃ x ∈ w.bindingsBy (.registerAspect c),
      x.signature = s ∧ x.advice.kind = kind ∧ x.advice.order = n := by
    obtain ⟨placed, hplaced⟩ := List.exists_mem_of_ne_nil _ hc
    obtain ⟨hplaced, horder⟩ := mem_withOrder.mp hplaced
    obtain ⟨advice, hadvice, rfl⟩ := List.mem_map.mp hplaced
    obtain ⟨hadvice, hkind⟩ := List.mem_filter.mp hadvice
    obtain ⟨x, hx, rfl⟩ := List.mem_map.mp hadvice
    obtain ⟨hx, hsignature⟩ := List.mem_filter.mp hx
    exact ⟨x, hx, of_decide_eq_true hsignature, of_decide_eq_true hkind, horder⟩
  by_cases ha : granted a = []
  · rw [ha, List.nil_append, List.append_nil]
  · by_cases hb : granted b = []
    · rw [hb, List.nil_append, List.append_nil]
    · obtain ⟨x, hx, hxs, hxkind, hxorder⟩ := hgranted ha
      obtain ⟨y, hy, hys, hykind, hyorder⟩ := hgranted hb
      exact absurd (hxorder.trans hyorder.symm) (h x hx y hy (hxs.trans hys.symm) (hxkind.trans hykind.symm))

/-! ## Two aspects -/

/-- After any run from a new weaver, independent aspects may be registered in either order. Each gets the same
answer before and after the other, a number or the error of its first malformed selector; and both orders end
with the same advices in the same places for every signature, the same woven types, and for each of them the
same mode, dispatcher and descriptor. -/
theorem registerAspect_exchange (name : String) (config : WeaverConfig) (ops : List (WeaverOp β))
    (a b : Aspect β) (h : ((new name config).after ops).Independent a b) :
    let w := (new name config).after ops
    let ab := (w.apply (.registerAspect a)).apply (.registerAspect b)
    let ba := (w.apply (.registerAspect b)).apply (.registerAspect a)
    (w.registerAspect a).value.2 = ((w.apply (.registerAspect b)).registerAspect a).value.2 ∧
    ((w.apply (.registerAspect a)).registerAspect b).value.2 = (w.registerAspect b).value.2 ∧
    (∀ s, ab.adviceSet? s = ba.adviceSet? s) ∧
    ∀ typeName, ab.isWoven typeName = ba.isWoven typeName ∧
      ab.registration? typeName = ba.registration? typeName ∧
      ab.bindings.advices.needsWeaving typeName = ba.bindings.advices.needsWeaving typeName := by
  intro w ab ba
  have hw : w.Coherent := (coherent_new name config).after ops
  have hregistration (typeName : String) : ab.registration? typeName = ba.registration? typeName := by
    apply ((hw.apply _).apply _).registration?_eq ((hw.apply _).apply _)
    · show ((w.apply _).apply _).catalog = ((w.apply _).apply _).catalog
      simp only [apply_registerAspect]
      rfl
    · show ((w.apply _).apply _).mode? typeName = ((w.apply _).apply _).mode? typeName
      simp only [mode?_registerAspect, bindingsBy_apply_registerAspect]
      split <;> split <;> rfl
  refine ⟨(registerAspect_answer_apply w a b).symm, registerAspect_answer_apply w b a, ?_, ?_⟩
  · intro s
    unfold adviceSet?
    rw [advices_apply_registerAspect, advices_apply_registerAspect, after_advices, ← List.foldl_append,
      ← List.foldl_append, AdviceRegistry.adviceSet?_foldl_add, AdviceRegistry.adviceSet?_foldl_add]
    apply AdviceRegistry.extend_none_congr
    · exact ((List.perm_append_comm.append_left _).filter _).map _
    · intro kind n
      simp only [List.filter_append, List.map_append, advisedOf_append, withOrder_append]
      exact congrArg _ (h.withOrder_swap s kind n)
  · intro typeName
    refine ⟨?_, hregistration typeName, ?_⟩
    · rw [isWoven_eq, isWoven_eq, mode?, mode?, hregistration]
    · rw [Bool.eq_iff_iff, advices_apply_registerAspect, advices_apply_registerAspect,
        AdviceRegistry.needsWeaving_foldl_add, AdviceRegistry.needsWeaving_foldl_add]
      simp only [List.mem_append, or_comm]

end

/-- A concrete type with two methods. -/
def shop : TypeDescriptor Unit := ((TypeDescriptor.concrete "a.C" "C").method "f" [] ()).method "g" [] ()

/-- An aspect for one of the methods. -/
def entryOnly : Aspect Unit :=
  ((Aspect.empty "A").declare .before "a.C.f()" 0 (.custom ())).declare .after "a.C.f()" 0 (.custom ())

/-- An aspect for both methods; of its advices only one has the number of those of the other aspect, but it is of
another kind. -/
def everywhere : Aspect Unit :=
  ((Aspect.empty "B").declare .before "a.C.*()" 1 (.custom ())).declare .around "a.C.*()" 0 (.custom ())

/-- A weaver that knows this type and nothing else. -/
def opened : Weaver Unit := (new "weaver" {}).after [.registerType shop]

/-- Where a binding puts its advice. -/
def placeOf (x : Binding Unit) : AdviceKind × Int := (x.advice.kind, x.advice.order)

/-- Two aspects for the same methods, whose advices meet in no list with one number, come to the same in both
orders. -/
theorem registerAspect_exchange_shop :
    let ab := (opened.apply (.registerAspect entryOnly)).apply (.registerAspect everywhere)
    let ba := (opened.apply (.registerAspect everywhere)).apply (.registerAspect entryOnly)
    opened.Independent entryOnly everywhere ∧
      (opened.registerAspect entryOnly).value.2 = .ok 2 ∧ (opened.registerAspect everywhere).value.2 = .ok 4 ∧
      (∀ s, ab.adviceSet? s = ba.adviceSet? s) ∧
      ab.mode? "a.C" = some .aspects ∧ ab.registration? "a.C" = ba.registration? "a.C" := by
  intro ab ba
  have hentryOnly : (opened.bindingsBy (.registerAspect entryOnly)).map placeOf =
      [(.before, 0), (.after, 0)] := rfl
  have heverywhere : (opened.bindingsBy (.registerAspect everywhere)).map placeOf =
      [(.before, 1), (.before, 1), (.around, 0), (.around, 0)] := rfl
  have hindependent : opened.Independent entryOnly everywhere := by
    intro x hx y hy _ hkind horder
    have hx : placeOf x ∈ _ := List.mem_map_of_mem hx
    have hy : placeOf y ∈ _ := List.mem_map_of_mem hy
    rw [hentryOnly, show placeOf x = placeOf y from Prod.ext hkind horder] at hx
    rw [heverywhere] at hy
    rcases List.mem_pair.mp hx with hplace | hplace
    · rw [hplace] at hy
      exact absurd hy (by decide)
    · rw [hplace] at hy
      exact absurd hy (by decide)
  obtain ⟨-, -, hsets, hwoven⟩ := registerAspect_exchange "weaver" {} [.registerType shop] entryOnly everywhere
    hindependent
  have hmode : ab.mode? "a.C" = some .aspects := by
    rw [mode?_registerAspect, bindingsBy_apply_registerAspect]
    rfl
  exact ⟨hindependent, rfl, rfl, hsets, hmode, (hwoven "a.C").2.1⟩

end Weaver

end AspectWeaver

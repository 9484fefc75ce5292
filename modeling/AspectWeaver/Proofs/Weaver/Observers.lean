import AspectWeaver.Proofs.Call.Alike
import AspectWeaver.Proofs.Call.Lifetime
import AspectWeaver.Proofs.Weaver.Exchange

/-!
# Aspects that observe

Two of the aspects of the library only log: the one that logs when methods are entered and left, and the one that
warns about slow methods. What such an aspect adds to the lists of a set stands in between what is there anyway,
whatever is added later (`AdviceSet.Observes.push`), so registrations keep two weavers together one of which has the
aspect (`Weaver.Observes.apply`), and so does everything that happens on a loom (`Loom.Observes.step`). The top is
`Loom.call_observed`: with the aspect, every call comes to the same as without it.
-/

set_option autoImplicit false

namespace AspectWeaver

variable {β τ : Type}

/-! ## The aspects -/

/-- The aspects that log or warn about the methods of a selector. -/
inductive Aspect.Observer (selector : String) : Aspect β → Prop where
  | logging (order : Int) (withArgs : Bool) : Observer selector (.logging selector order withArgs)
  | performance (threshold : Nat) : Observer selector (.performance threshold selector)

/-- One of the advices of an aspect, with its kind. -/
def Aspect.Adds (a : Aspect β) (kind : AdviceKind) (x : Advised β) : Prop :=
  ∃ d ∈ a.declarations, d.advice.kind = kind ∧ d.advice.advised = x

namespace Aspect.Observer

variable {selector : String} {a : Aspect β}

/-- The advices of an observing aspect stand before or after the method, and none of them runs code. -/
theorem of_adds (h : a.Observer selector) {kind : AdviceKind} {x : Advised β} (hx : a.Adds kind x) :
    (kind = .before ∨ kind = .after) ∧ ∀ code, x.body ≠ .custom code := by
  obtain ⟨d, hd, rfl, rfl⟩ := hx
  cases h with
  | logging order withArgs =>
      rcases List.mem_cons.mp hd with rfl | hd
      · exact ⟨Or.inl rfl, nofun⟩
      · rw [List.mem_singleton.mp hd]
        exact ⟨Or.inr rfl, nofun⟩
  | performance threshold =>
      rw [List.mem_singleton.mp hd]
      exact ⟨Or.inr rfl, nofun⟩

end Aspect.Observer

/-! ## Lists -/

section

variable {extra : Advised β → Prop} {xs ys : List (Advised β)}

/-- Of two rows that agree, the second is contained in the first. -/
theorem Interspersed.subset (h : Interspersed extra Eq xs ys) : ys ⊆ xs := by
  induction h with
  | nil => exact List.Subset.refl []
  | shared hxy _ ih =>
      rw [hxy]
      exact List.cons_subset_cons _ ih
  | extra _ _ ih => exact List.subset_cons_of_subset _ ih

/-- An advice comes first in a list whose numbers are all smaller. -/
theorem insertOrdered_of_lt {a : Advised β} (h : ∀ x ∈ xs, x.order < a.order) : insertOrdered a xs = a :: xs := by
  cases xs with
  | nil => rfl
  | cons x xs => rw [insertOrdered, if_pos (h x List.mem_cons_self)]

/-- What was more in between stays so when the same advice is put in place in both lists. -/
theorem Interspersed.place (h : Interspersed extra Eq xs ys) (hfalling : Falling xs) (a : Advised β) :
    Interspersed extra Eq (insertOrdered a xs) (insertOrdered a ys) := by
  induction h with
  | nil => exact .shared rfl .nil
  | @shared x y xs ys hxy h ih =>
      subst hxy
      rw [insertOrdered, insertOrdered]
      split
      next => exact .shared rfl (.shared rfl h)
      next => exact .shared rfl (ih (List.Pairwise.of_cons hfalling))
  | @extra x xs ys hx h ih =>
      rw [insertOrdered]
      split
      next hlt =>
        -- the list without the extra advice has only smaller numbers left, so the new advice comes first there too
        have hsmaller : ∀ y ∈ ys, y.order < a.order := fun y hy =>
          Int.lt_of_le_of_lt (List.rel_of_pairwise_cons hfalling (h.subset hy)) hlt
        rw [insertOrdered_of_lt hsmaller]
        exact .shared rfl (.extra hx h)
      next => exact .extra hx (ih (List.Pairwise.of_cons hfalling))

/-- An extra advice that is put in its place is one more in between. -/
theorem Interspersed.place_extra (h : Interspersed extra Eq xs ys) {a : Advised β} (ha : extra a) :
    Interspersed extra Eq (insertOrdered a xs) ys := by
  induction h with
  | nil => exact .extra ha .nil
  | shared hxy h ih =>
      rw [insertOrdered]
      split
      next => exact .extra ha (.shared hxy h)
      next => exact .shared hxy ih
  | extra hx h ih =>
      rw [insertOrdered]
      split
      next => exact .extra ha (.extra hx h)
      next => exact .extra hx ih

end

/-! ## Sets -/

/-- The lists of a set are those of another one with something more in between. -/
structure AdviceSet.Observes (extra : AdviceKind → Advised β → Prop) (set plain : AdviceSet β) : Prop where
  falling : ∀ kind, Falling (set.ofKind kind)
  lists : ∀ kind, Interspersed (extra kind) Eq (set.ofKind kind) (plain.ofKind kind)

namespace AdviceSet.Observes

variable {extra : AdviceKind → Advised β → Prop} {set plain : AdviceSet β}

/-- The empty set observes itself. -/
theorem of_empty : (AdviceSet.empty : AdviceSet β).Observes extra AdviceSet.empty := by
  refine ⟨fun kind => ?_, fun kind => ?_⟩ <;> cases kind
  all_goals first | exact List.Pairwise.nil | exact .nil

/-- The same advice, put into both sets, keeps them alike. -/
theorem push (h : set.Observes extra plain) (a : Advice β) : (set.push a).Observes extra (plain.push a) := by
  constructor <;> intro kind <;> simp only [ofKind_push]
  · split
    next => exact (h.falling kind).insertOrdered _
    next => exact h.falling kind
  · split
    next => exact (h.lists kind).place (h.falling kind) _
    next => exact h.lists kind

/-- An extra advice may be put into the first set alone. -/
theorem push_extra (h : set.Observes extra plain) {a : Advice β} (ha : extra a.kind a.advised) :
    (set.push a).Observes extra plain := by
  constructor <;> intro kind <;> simp only [ofKind_push]
  · split
    next => exact (h.falling kind).insertOrdered _
    next => exact h.falling kind
  · split
    next hkind => exact (h.lists kind).place_extra (hkind ▸ ha)
    next => exact h.lists kind

/-- Sets that differ in what runs before or after a method ask for plans that agree, but for what is more. -/
theorem agree (h : set.Observes extra plain) (hextra : ∀ kind x, extra kind x → kind = .before ∨ kind = .after) :
    set.Agree (fun step => ∃ kind x, step.advice? = some (kind, x) ∧ extra kind x) Eq plain := by
  have hequal (kind : AdviceKind) (hbefore : kind ≠ .before) (hafter : kind ≠ .after) :
      set.ofKind kind = plain.ofKind kind :=
    (h.lists kind).eq_of_nothing fun x hx => (hextra kind x hx).elim hbefore hafter
  have haround : set.around = plain.around := hequal .around nofun nofun
  have hreturning : set.afterReturning = plain.afterReturning := hequal .afterReturning nofun nofun
  have hthrowing : set.afterThrowing = plain.afterThrowing := hequal .afterThrowing nofun nofun
  refine ⟨?_, ?_, ?_, ?_, ?_, ?_⟩
  · exact (h.lists .before).map (fun x hx => ⟨_, x, rfl, hx⟩) fun x y hxy => congrArg CallStep.before hxy
  · unfold corePlan
    rw [haround]
    exact .refl (fun _ => rfl) _
  · unfold afterReturningPlan
    rw [hreturning]
    exact .refl (fun _ => rfl) _
  · intro f
    unfold afterThrowingPlan
    rw [hthrowing]
    exact .refl (fun _ => rfl) _
  · rw [hthrowing]
  · exact (h.lists .after).reverse.map (fun x hx => ⟨_, x, rfl, hx⟩) fun x y hxy => congrArg CallStep.after hxy

end AdviceSet.Observes

/-! ## Registries -/

/-- Each signature has a set that is that of another registry with something more in between. -/
def AdviceRegistry.Observes (extra : AdviceKind → Advised β → Prop) (r plain : AdviceRegistry β) : Prop :=
  ∀ s, ((r.adviceSet? s).getD AdviceSet.empty).Observes extra ((plain.adviceSet? s).getD AdviceSet.empty)

namespace AdviceRegistry.Observes

variable {extra : AdviceKind → Advised β → Prop} {r plain : AdviceRegistry β}

/-- The same binding, added to both registries, keeps them alike. -/
theorem add (h : r.Observes extra plain) (x : Binding β) : (r.add x).Observes extra (plain.add x) := by
  intro s
  rw [adviceSet?_add, adviceSet?_add]
  split
  next => exact (h s).push x.advice
  next => exact h s

/-- A binding of an extra advice may be added to the first registry alone. -/
theorem add_extra (h : r.Observes extra plain) {x : Binding β} (hx : extra x.advice.kind x.advice.advised) :
    (r.add x).Observes extra plain := by
  intro s
  rw [adviceSet?_add]
  split
  next => exact (h s).push_extra hx
  next => exact h s

/-- The same bindings, added to both registries, keep them alike. -/
theorem foldl_add (h : r.Observes extra plain) (xs : List (Binding β)) :
    (xs.foldl AdviceRegistry.add r).Observes extra (xs.foldl AdviceRegistry.add plain) := by
  induction xs generalizing r plain with
  | nil => exact h
  | cons x xs ih => exact ih (h.add x)

/-- Bindings of extra advices may be added to the first registry alone. -/
theorem foldl_add_extra (h : r.Observes extra plain) {xs : List (Binding β)}
    (hxs : ∀ x ∈ xs, extra x.advice.kind x.advice.advised) :
    (xs.foldl AdviceRegistry.add r).Observes extra plain := by
  induction xs generalizing r with
  | nil => exact h
  | cons x xs ih =>
      exact ih (h.add_extra (hxs x List.mem_cons_self)) fun y hy => hxs y (List.mem_cons_of_mem x hy)

end AdviceRegistry.Observes

/-! ## Weavers -/

namespace Weaver

/-- A weaver differs from another one only in its advices, and has something more in between there. -/
structure Observes (extra : AdviceKind → Advised β → Prop) (w plain : Weaver β) : Prop where
  rest : w = plain.withAdvices w.bindings.advices
  advices : w.bindings.advices.Observes extra plain.bindings.advices

/-- What a registration does besides binding advices does not depend on the advices that are bound. -/
theorem apply_withAdvices [RegexEngine] (w : Weaver β) (r : AdviceRegistry β) (op : WeaverOp β) :
    (w.withAdvices r).apply op =
      (w.apply op).withAdvices ((w.bindingsBy op).foldl AdviceRegistry.add r) := by
  cases op with
  | registerType t => rfl
  | registerAspect a =>
      have hbindings : (w.withAdvices r).bindingsBy (.registerAspect a) = w.bindingsBy (.registerAspect a) := by
        unfold bindingsBy
        dsimp only
        rw [registerAspect_answer, registerAspect_answer]
        rfl
      rw [apply_registerAspect, apply_registerAspect, hbindings]
      rfl
  | registerInterceptTarget typeName =>
      by_cases h : ∃ t, w.catalog.resolve? typeName = some t ∧ w.IsTarget t
      · obtain ⟨t, hfound, ht⟩ := h
        have ht' : (w.withAdvices r).IsTarget t := ⟨ht.concrete, ht.included, ht.unwoven, ht.marked⟩
        have hfound' : (w.withAdvices r).catalog.resolve? typeName = some t := hfound
        unfold apply
        dsimp only
        rw [registerInterceptTarget_of_isTarget hfound ht, registerInterceptTarget_of_isTarget hfound' ht']
        rfl
      · have hnot : ∀ t, w.catalog.resolve? typeName = some t → ¬ w.IsTarget t := fun t hfound ht => h ⟨t, hfound, ht⟩
        have hnot' : ∀ t, (w.withAdvices r).catalog.resolve? typeName = some t → ¬ (w.withAdvices r).IsTarget t :=
          fun t hfound ht => hnot t hfound ⟨ht.concrete, ht.included, ht.unwoven, ht.marked⟩
        rw [apply_registerInterceptTarget_of_not_isTarget hnot, apply_registerInterceptTarget_of_not_isTarget hnot']
        rfl

variable {extra : AdviceKind → Advised β → Prop} {w plain : Weaver β}

/-- A new weaver is like itself. -/
theorem observes_new (name : String) (config : WeaverConfig) :
    (new name config : Weaver β).Observes extra (new name config) :=
  ⟨rfl, fun _ => .of_empty⟩

/-- The same registration keeps two weavers alike. -/
theorem Observes.apply [RegexEngine] (h : w.Observes extra plain) (op : WeaverOp β) :
    (w.apply op).Observes extra (plain.apply op) := by
  have happly := apply_withAdvices plain w.bindings.advices op
  rw [← h.rest] at happly
  rw [happly]
  refine ⟨rfl, ?_⟩
  rw [apply_advices]
  exact h.advices.foldl_add _

/-- The same run keeps two weavers alike. -/
theorem Observes.after [RegexEngine] (h : w.Observes extra plain) (ops : List (WeaverOp β)) :
    (w.after ops).Observes extra (plain.after ops) := by
  induction ops generalizing w plain with
  | nil => exact h
  | cons op ops ih => exact ih (h.apply op)

/-- Types that are woven for aspects already stay as they are when more is bound to them. -/
theorem foldl_markFor_of_aspects {registrations : Table String (Registration β)} {xs : List (Binding β)}
    (h : ∀ x ∈ xs, (registrations.get? x.typeName).map (·.mode) = some .aspects) :
    xs.foldl markFor registrations = registrations := by
  induction xs with
  | nil => rfl
  | cons x xs ih =>
      have hsame : markFor registrations x = registrations := by
        obtain ⟨⟨t, mode, d⟩, hr, hmode⟩ := Option.map_eq_some_iff.mp (h x List.mem_cons_self)
        dsimp only at hmode
        subst hmode
        unfold markFor
        rw [hr]
      rw [List.foldl_cons, hsame]
      exact ih fun y hy => h y (List.mem_cons_of_mem x hy)

/-- An aspect that selects only methods of types that are woven for aspects adds its advices and nothing else. -/
theorem Observes.registerAspect [RegexEngine] (h : w.Observes extra plain) {a : Aspect β}
    (hextra : ∀ kind x, a.Adds kind x → extra kind x)
    (hwoven : ∀ x ∈ w.bindingsBy (.registerAspect a), w.mode? x.typeName = some .aspects) :
    (w.apply (.registerAspect a)).Observes extra plain := by
  have hadds : ∀ x ∈ w.bindingsBy (.registerAspect a), extra x.advice.kind x.advice.advised := by
    intro x hx
    obtain ⟨a', n, hop, -, hx⟩ := (mem_bindingsBy w _ x).mp hx
    cases hop
    obtain ⟨d, hd, p, -, m, -, -, rfl⟩ := (mem_bindingsOf w a x).mp hx
    exact hextra _ _ ⟨d, hd, rfl, rfl⟩
  rw [apply_registerAspect]
  refine ⟨?_, h.advices.foldl_add_extra hadds⟩
  unfold bindEach
  rw [foldl_markFor_of_aspects hwoven]
  show w.withAdvices _ = plain.withAdvices _
  rw [h.rest]
  rfl

/-- Registering an aspect that observes binds each of its advices to each method that its selector selects. -/
theorem bindingsBy_of_observer [RegexEngine] (w : Weaver β) {selector : String} {p : Pointcut} {a : Aspect β}
    (ha : a.Observer selector) (hp : Pointcut.compile selector = .ok p) :
    (w.registerAspect a).value.2 = .ok (a.size * (w.selected p).length) ∧
      ∀ x ∈ w.bindingsBy (.registerAspect a), x.matched ∈ w.selected p := by
  have hcompiled : compileAspect a = .ok (a.declarations.map fun d => (p, d.advice)) := by
    unfold compileAspect
    cases ha with
    | logging order withArgs =>
        simp only [Aspect.logging, Aspect.declare, Aspect.empty, List.nil_append, List.singleton_append,
          List.mapM_cons, List.mapM_nil, hp]
        rfl
    | performance threshold =>
        simp only [Aspect.performance, Aspect.declare, Aspect.empty, List.nil_append, List.mapM_cons, List.mapM_nil, hp]
        rfl
  have hbindings := flatMap_of_compileAspect w hcompiled
  rw [List.flatMap_map] at hbindings
  constructor
  · rw [registerAspect_of_compileAspect w hcompiled, ← hbindings, List.length_flatMap]
    simp [Aspect.size]
  · intro x hx
    obtain ⟨a', n, hop, -, hx⟩ := (mem_bindingsBy w _ x).mp hx
    cases hop
    rw [← hbindings] at hx
    obtain ⟨d, -, hx⟩ := List.mem_flatMap.mp hx
    obtain ⟨m, hm, rfl⟩ := List.mem_map.mp hx
    exact hm

end Weaver

/-! ## Calls -/

section

variable {same : τ → τ → Prop} {b : Behaviours β τ} {extra : AdviceKind → Advised β → Prop}

/-- A step runs one of the advices that are more. -/
def CallStep.RunsExtra (extra : AdviceKind → Advised β → Prop) (step : CallStep β) : Prop :=
  ∃ kind x, step.advice? = some (kind, x) ∧ extra kind x

/-- All that is more are observations of the library that run before or after a method. -/
def OnlyObserves (extra : AdviceKind → Advised β → Prop) : Prop :=
  ∀ kind x, extra kind x → (kind = .before ∨ kind = .after) ∧ ∀ code, x.body ≠ .custom code

variable (hb : b.Respects same) (hextra : OnlyObserves extra)

include hb hextra

/-- Calls with and without the extra advices are alike. -/
theorem AdviceRegistry.Observes.calls_alike {r plain : AdviceRegistry β} (h : r.Observes extra plain)
    (target : Target) (m : Method β) (args : List Value) {w v : World τ} (hworld : w.Alike same v) :
    CallsAlike b same (CallStep.RunsExtra extra) Eq r plain target m args w v := by
  refine AspectWeaver.calls_alike ?_ ?_ ((h m.signature).agree fun kind x hx => (hextra kind x hx).1) target args hworld
  · rintro step ⟨kind, x, hstep, hx⟩
    obtain ⟨hkind, hbody⟩ := hextra kind x hx
    exact CallStep.isSilent_of_advice? hstep (hkind.imp id Or.inr) hbody
  · rintro step _ rfl
    exact CallStep.Similar.refl hb m step

/-- Calls on an instance with and without the extra advices are similar. -/
theorem Weaver.Observes.invokeSignature {w plain : Weaver β} (h : w.Observes extra plain) (i : WovenInstance β)
    (signature : Signature) (args : List Value) :
    Action.Similar (World.Alike same) (i.invokeSignature b w.bindings signature args)
      (i.invokeSignature b plain.bindings signature args) := by
  have hinterceptors : w.bindings.interceptors = plain.bindings.interceptors := by
    rw [h.rest]
    rfl
  exact hb.invokeSignature hinterceptors (fun target m args w v hworld =>
    h.advices.calls_alike hb hextra target m args hworld) i signature args

end

/-! ## Looms -/

/-- In worlds that are alike, instances of a type are made alike if it is registered alike. -/
theorem Weaver.createWovenInstance_alike {same : τ → τ → Prop} {weaver plain : Weaver β} {typeName : String}
    (hregistration : weaver.registration? typeName = plain.registration? typeName) {w v : World τ}
    (hworld : w.Alike same v) :
    (weaver.createWovenInstance typeName w).1 = (plain.createWovenInstance typeName v).1 ∧
      (weaver.createWovenInstance typeName w).2.Alike same (plain.createWovenInstance typeName v).2 := by
  unfold createWovenInstance
  rw [hregistration]
  cases plain.registration? typeName with
  | none => exact ⟨rfl, hworld⟩
  | some r =>
      obtain ⟨hclock, hobjects, hstate⟩ := hworld
      dsimp only
      unfold Registration.create TypeDescriptor.instantiate World.newTarget
      rw [hobjects]
      cases r.descriptor.kind <;> exact ⟨rfl, hclock, by first | rfl | exact hobjects, hstate⟩

namespace Loom

/-- A loom differs from another one in the log, and in that its weaver has more advices in between. -/
structure Observes (extra : AdviceKind → Advised β → Prop) (same : τ → τ → Prop) (s plain : Loom β τ) : Prop where
  weaver : s.weaver.Observes extra plain.weaver
  instances : s.instances = plain.instances
  world : s.world.Alike same plain.world

variable {same : τ → τ → Prop} {b : Behaviours β τ} {extra : AdviceKind → Advised β → Prop} {s plain : Loom β τ}

/-- With and without the extra advices each type is registered alike. -/
theorem Observes.registration?_eq (h : s.Observes extra same plain) (typeName : String) :
    s.weaver.registration? typeName = plain.weaver.registration? typeName := by
  rw [h.weaver.rest]
  rfl

/-- The same operation keeps two looms alike. -/
theorem Observes.step [RegexEngine] (hb : b.Respects same) (hextra : OnlyObserves extra)
    (h : s.Observes extra same plain) (op : LoomOp β) : (s.step b op).Observes extra same (plain.step b op) := by
  cases op with
  | register op => exact ⟨h.weaver.apply op, by rw [Loom.step, Loom.step, h.instances]; rfl, h.world.record _ _⟩
  | create typeName =>
      obtain ⟨hmade, hworld⟩ := Weaver.createWovenInstance_alike (h.registration?_eq typeName) h.world
      refine ⟨h.weaver, ?_, hworld⟩
      rw [Loom.step, Loom.step, made?, made?, hmade, h.instances]
  | weave typeName target =>
      refine ⟨h.weaver, ?_, h.world⟩
      rw [Loom.step, Loom.step, made?, made?, Weaver.weaveInstance, Weaver.weaveInstance, h.registration?_eq,
        h.instances]
  | call index signature args =>
      refine ⟨h.weaver, by rw [Loom.step, Loom.step, h.instances]; rfl, ?_⟩
      show (s.worldAfter b (.call index signature args)).Alike same (plain.worldAfter b (.call index signature args))
      unfold worldAfter call?
      dsimp only
      rw [h.instances]
      cases plain.instances[index]? with
      | none => exact h.world
      | some i => exact (h.weaver.invokeSignature hb hextra i signature args _ _ h.world).2

/-- The same run keeps two looms alike. -/
theorem Observes.after [RegexEngine] (hb : b.Respects same) (hextra : OnlyObserves extra)
    (h : s.Observes extra same plain) (ops : List (LoomOp β)) :
    (s.after b ops).Observes extra same (plain.after b ops) := by
  induction ops generalizing s plain with
  | nil => exact h
  | cons op ops ih => exact ih (h.step hb hextra op)

/-- Take any run on a new weaver that mixes registrations, creations and calls, and in it register an aspect that
logs or warns, whose selector can be read and selects only methods of types that are woven for aspects at that moment.
The registration succeeds. With it all types are woven and all instances are made as without it, and the worlds are
alike, however the run goes on. And from worlds that are alike, every call on any instance, made before or after,
comes to the same with it as without it, and leaves worlds that are alike. If the call goes through advices, the same
steps are taken in the same order, from states that are alike and with the same join point; in between there are only
runs of the advices of the aspect, which succeed and do nothing but log; and the method is invoked equally often and
in the same way, also where it had no advice before. All code may do as it likes, but it may not depend on the log. -/
theorem call_observed [RegexEngine] (hb : b.Respects same) (name : String) (config : WeaverConfig) (world : World τ)
    (hworld : same world.state world.state) (earlier later : List (LoomOp β)) {selector : String} {p : Pointcut}
    {a : Aspect β} (ha : a.Observer selector) (hp : Pointcut.compile selector = .ok p)
    (hwoven : ∀ m ∈ ((opened name config world).after b earlier).weaver.selected p,
      ((opened name config world).after b earlier).weaver.mode? m.declaringType.name = some .aspects) :
    let moment := (opened name config world).after b earlier
    let observed := (opened name config world).after b (earlier ++ .register (.registerAspect a) :: later)
    let plain := (opened name config world).after b (earlier ++ later)
    (moment.weaver.registerAspect a).value.2 = .ok (a.size * (moment.weaver.selected p).length) ∧
    (∀ typeName, observed.weaver.registration? typeName = plain.weaver.registration? typeName) ∧
    observed.instances = plain.instances ∧ observed.world.Alike same plain.world ∧
    ∀ (i : WovenInstance β) (signature : Signature) (args : List Value) (w v : World τ), w.Alike same v →
      let call := i.invokeSignature b observed.weaver.bindings signature args
      let call' := i.invokeSignature b plain.weaver.bindings signature args
      (call.start w).1 = (call'.start v).1 ∧ (call.start w).2.Alike same (call'.start v).2 ∧
      ∀ m, i.descriptor.methodBySignature? signature = some m → i.dispatcher = .advices →
        CallsAlike b same (CallStep.RunsExtra a.Adds) Eq observed.weaver.bindings.advices
          plain.weaver.bindings.advices i.target m args w v := by
  intro moment observed plain
  have hextra : OnlyObserves a.Adds := fun kind x hx => ha.of_adds hx
  have hstart : (opened name config world : Loom β τ).Observes a.Adds same (opened name config world) :=
    ⟨Weaver.observes_new name config, rfl, rfl, rfl, hworld⟩
  -- until the aspect is registered there is one loom, alike to itself
  have hmoment : moment.Observes a.Adds same moment := hstart.after hb hextra earlier
  obtain ⟨hanswer, hselected⟩ := moment.weaver.bindingsBy_of_observer ha hp
  have hregistered : (moment.step b (.register (.registerAspect a))).Observes a.Adds same moment := by
    refine ⟨hmoment.weaver.registerAspect (fun _ _ h => h) fun x hx => hwoven _ (hselected x hx), List.append_nil _, ?_⟩
    obtain ⟨hclock, hobjects, hstate⟩ := hmoment.world
    exact ⟨hclock, hobjects, hstate⟩
  have hlater : observed.Observes a.Adds same plain := by
    show ((opened name config world).after b (earlier ++ _ :: later)).Observes a.Adds same
      ((opened name config world).after b (earlier ++ later))
    rw [after_append, after_append]
    exact hregistered.after hb hextra later
  refine ⟨hanswer, hlater.registration?_eq, hlater.instances, hlater.world, ?_⟩
  intro i signature args w v hworld
  obtain ⟨houtcome, hafter⟩ := hlater.weaver.invokeSignature hb hextra i signature args w v hworld
  exact ⟨houtcome, hafter, fun m _ _ => hlater.weaver.advices.calls_alike hb hextra i.target m args hworld⟩

/-! ## An aspect that logs -/

section

open Rehearsal (behaviours)

/-- A type with two methods is registered, one of them gets an advice, and an instance is made. -/
def rehearsed : List (LoomOp Nat) :=
  [.register (.registerType (Weaver.store [Weaver.load, Weaver.save])), .register (.registerAspect (advising 3)),
    .create "a.C"]

/-- An aspect that logs the calls of all methods of the type. -/
def logging : Aspect Nat := Aspect.logging "a.C.*(...)" 0 true

/-- What has happened when the aspect is registered. -/
def beforeLogging : Loom Nat (List Nat) := (opened "weaver" {} (World.initial [])).after behaviours rehearsed

/-- The loom with another instance, without the aspect. -/
def withoutLogging : Loom Nat (List Nat) :=
  (opened "weaver" {} (World.initial [])).after behaviours (rehearsed ++ [.create "a.C"])

/-- The loom with another instance and with the aspect. -/
def withLogging : Loom Nat (List Nat) :=
  (opened "weaver" {} (World.initial [])).after behaviours
    (rehearsed ++ .register (.registerAspect logging) :: [.create "a.C"])

/-- An instance from before the aspect was registered and one from after it: calls of the method that had no advice
before, and of the one that had one. -/
theorem call_observed_rehearsed :
    let type := Weaver.store [Weaver.load, Weaver.save]
    (beforeLogging.weaver.registerAspect logging).value.2 = .ok 4 ∧
    withoutLogging.weaver.adviceSet? Weaver.save.signature = none ∧
    withLogging.instances = [⟨type, ⟨"C", 0⟩, .advices⟩, ⟨type, ⟨"C", 1⟩, .advices⟩] ∧
    ∀ i ∈ withLogging.instances, ∀ m ∈ [Weaver.load, Weaver.save],
      CallsAlike behaviours Eq (CallStep.RunsExtra logging.Adds) Eq withLogging.weaver.bindings.advices
        withoutLogging.weaver.bindings.advices i.target m [.bool true] withLogging.world withoutLogging.world := by
  intro type
  let p : Pointcut := ⟨"a.C.*(...)", .named "a.C", .any, "a.C.*".toList⟩
  have hp : Pointcut.compile "a.C.*(...)" = .ok p := rfl
  have hnames : ((beforeLogging.weaver.selected p).map fun m => m.declaringType.name) = ["a.C", "a.C"] := rfl
  have hwoven : ∀ typeName ∈ (beforeLogging.weaver.selected p).map fun m => m.declaringType.name,
      beforeLogging.weaver.mode? typeName = some .aspects := by
    rw [hnames]
    intro typeName hname
    rcases List.mem_pair.mp hname with rfl | rfl <;> rfl
  obtain ⟨hanswer, -, hinstances, hworlds, hcalls⟩ := call_observed Rehearsal.respects_behaviours "weaver" {}
    (World.initial []) rfl rehearsed [.create "a.C"] (.logging 0 true) hp (List.forall_mem_map.mp hwoven)
  have hmade : withoutLogging.instances = [⟨type, ⟨"C", 0⟩, .advices⟩, ⟨type, ⟨"C", 1⟩, .advices⟩] := rfl
  have hcount : logging.size * (beforeLogging.weaver.selected p).length = 4 := rfl
  have hinstances : withLogging.instances = withoutLogging.instances := hinstances
  rw [hinstances, hmade]
  refine ⟨hanswer.trans (congrArg Except.ok hcount), rfl, rfl, ?_⟩
  intro i hi m hm
  obtain ⟨hdescriptor, hdispatcher⟩ : i.descriptor = type ∧ i.dispatcher = .advices := by
    rcases List.mem_pair.mp hi with rfl | rfl <;> exact ⟨rfl, rfl⟩
  have hfound : i.descriptor.methodBySignature? m.signature = some m := by
    rw [hdescriptor]
    rcases List.mem_pair.mp hm with rfl | rfl <;> rfl
  exact (hcalls i m.signature [.bool true] _ _ hworlds).2.2 m hfound hdispatcher

end

end Loom

end AspectWeaver

import AspectWeaver.Call.Instance
import AspectWeaver.Proofs.Weaver.Interceptors
import AspectWeaver.Regex.Standard
import Mathlib.Data.List.Nodup

/-!
# Calls on types that are woven for interceptors

A call on such a type is handled by the interceptor that its signature is bound to, and runs directly where
there is none (`invokeSignature_of_nodup`). The bindings are those of the method table that the type had
when it was registered as a target (`lastMarker?_markings`); a table that is registered for the type later
is what calls find, but its markers are not bound. The top is `intercepted_after`, which says for which
methods a call follows the marker in the table of the moment.
-/

set_option autoImplicit false

namespace AspectWeaver

variable {β τ : Type}

/-! ## One call -/

/-- A call of a method that is left to an interceptor, or the method itself without one. -/
def Method.handledBy (b : Behaviours β τ) (m : Method β) (interceptor : Option (Interceptor β))
    (target : Target) (args : List Value) : Action (World τ) (Option Value) :=
  match interceptor with
  | none => m.invoke b target args
  | some i => do
    World.tell .trace "Dispatching to interceptor"
      [("signature", .text m.signature.text), ("interceptor", .text i.marker.name)]
    withJoinPoint target m.descriptor args ((b.intercept i).toAction (m.proceed b))

/-- A call that is left to the registry is handled by the interceptor that the signature is bound to there. -/
theorem InterceptorRegistry.dispatch_eq (b : Behaviours β τ) (r : InterceptorRegistry β) (target : Target)
    (m : Method β) (args : List Value) :
    r.dispatch b target m args = m.handledBy b (r.binding? m.signature) target args := by
  unfold dispatch Method.handledBy
  cases r.binding? m.signature <;> rfl

/-- In a table without equal signatures every method is found under its own. -/
theorem TypeDescriptor.methodBySignature?_of_mem {t : TypeDescriptor β}
    (hnodup : (t.methods.map Method.signature).Nodup) {m : Method β} (hm : m ∈ t.methods) :
    t.methodBySignature? m.signature = some m := by
  unfold methodBySignature?
  cases hfound : t.methods.find? fun x => x.signature = m.signature with
  | none =>
      have hnone := List.find?_eq_none.mp hfound m hm
      simp at hnone
  | some x =>
      have hsame : x.signature = m.signature := by simpa using List.find?_some hfound
      rw [List.inj_on_of_nodup_map hnodup (List.mem_of_find?_eq_some hfound) hm hsame]

/-- In a table without equal signatures the last marker of a signature is that of its method. -/
theorem lastMarker?_markedMethods {t : TypeDescriptor β}
    (hnodup : (t.methods.map Method.signature).Nodup) {m : Method β} (hm : m ∈ t.methods) :
    lastMarker? (Weaver.markedMethods t) m.signature = m.interceptor := by
  have hmarker (marker : InterceptorMarker β)
      (h : lastMarker? (Weaver.markedMethods t) m.signature = some marker) : m.interceptor = some marker := by
    obtain ⟨x, hx, hsame, hmarker⟩ := (Weaver.mem_markedMethods t _ marker).mp (mem_of_lastMarker? h)
    rwa [List.inj_on_of_nodup_map hnodup hx hm hsame] at hmarker
  cases hlast : lastMarker? (Weaver.markedMethods t) m.signature with
  | some marker => exact (hmarker marker hlast).symm
  | none =>
      cases hm' : m.interceptor with
      | none => rfl
      | some marker =>
          have hmem := (Weaver.mem_markedMethods t m.signature marker).mpr ⟨m, hm, rfl, hm'⟩
          have hsome := (lastMarker?_isSome_iff (Weaver.markedMethods t) m.signature).mpr ⟨marker, hmem⟩
          rw [hlast] at hsome
          cases hsome

namespace Weaver

/-- The binding of a method is what its marker asks for: the interceptor that there is of the kind of the
marker, or nothing if it carries none. -/
def BoundAsMarked (w : Weaver β) (m : Method β) : Prop :=
  match m.interceptor with
  | none => w.bindings.interceptors.binding? m.signature = none
  | some marker => ∃ i, w.bindings.interceptors.singletons.get? marker.typeId = some i ∧
      w.bindings.interceptors.binding? m.signature = some i

/-- A method is bound as it is marked exactly when the last marker that its signature was bound with is of
the kind of its own, or neither is there. -/
theorem boundAsMarked_iff [RegexEngine] (name : String) (config : WeaverConfig) (ops : List (WeaverOp β))
    (m : Method β) :
    ((new name config).after ops).BoundAsMarked m ↔
      (lastMarker? ((new name config).markings ops) m.signature).map (·.typeId) =
        m.interceptor.map (·.typeId) := by
  have hkind {id : TypeId} {i : Interceptor β}
      (h : ((new name config).after ops).bindings.interceptors.singletons.get? id = some i) :
      i.marker.typeId = id := by
    rw [singleton_after_new] at h
    obtain ⟨marker, hfirst, rfl⟩ := Option.map_eq_some_iff.mp h
    exact typeId_of_firstMarker? hfirst
  have hmade {marker : InterceptorMarker β}
      (h : lastMarker? ((new name config).markings ops) m.signature = some marker) :
      ∃ i, ((new name config).after ops).bindings.interceptors.singletons.get? marker.typeId = some i := by
    rw [after_interceptors]
    exact exists_singleton_bindMarked _ (mem_of_lastMarker? h)
  unfold BoundAsMarked
  rw [binding?_after_new]
  cases hlast : lastMarker? ((new name config).markings ops) m.signature with
  | none => cases m.interceptor <;> simp
  | some bound =>
      obtain ⟨i, hi⟩ := hmade hlast
      cases m.interceptor with
      | none => simp [hi]
      | some marker =>
          rw [Option.bind_some, hi, Option.map_some, Option.map_some, Option.some.injEq]
          constructor
          · rintro ⟨j, hj, hsame⟩
            cases hsame
            exact (hkind hi).symm.trans (hkind hj)
          · intro hsame
            exact ⟨i, hsame ▸ hi, rfl⟩

/-- What binds a type as a target finds it not woven and weaves it for interceptors. -/
theorem mode?_of_targetBinds [RegexEngine] {w : Weaver β} (hw : w.Coherent) {op : WeaverOp β} {typeName : String}
    (h : TargetBinds typeName w op) :
    w.mode? typeName = none ∧ (w.apply op).mode? typeName = some .intercepts := by
  rcases mode?_apply hw op typeName with ⟨hadv, -⟩ | ⟨-, -, hold, hmode⟩ | ⟨-, hbinds, -⟩
  · obtain ⟨n, rfl, -⟩ := h
    obtain ⟨x, hx, -⟩ := hadv
    cases hx
  · exact ⟨hold, hmode⟩
  · exact absurd h hbinds

/-- What binds a type as a target binds the marked methods of the table that the catalog holds for it. -/
theorem markingsBy_of_targetBinds {w : Weaver β} {op : WeaverOp β} {typeName : String}
    (h : TargetBinds typeName w op) :
    ∃ t, w.catalog.resolve? typeName = some t ∧ w.markingsBy op = markedMethods t := by
  obtain ⟨n, rfl, hn, hpos⟩ := h
  cases hfound : w.catalog.resolve? typeName with
  | none =>
      rw [registerInterceptTarget_of_unknown hfound] at hn
      cases hn
  | some t =>
      refine ⟨t, rfl, ?_⟩
      cases n with
      | zero => exact absurd hpos (Nat.lt_irrefl 0)
      | succ n =>
          unfold markingsBy
          dsimp only
          rw [hn, hfound]

section

variable {name : String} {config : WeaverConfig} {ops : List (WeaverOp β)}

/-- What the catalog held at some moment of a run was registered in the run. -/
theorem registered_of_resolve? [RegexEngine] {before rest : List (WeaverOp β)} (hops : ops = before ++ rest)
    {typeName : String} {t : TypeDescriptor β}
    (h : ((new name config).after before).catalog.resolve? typeName = some t) :
    t ∈ typesOf ops ∧ t.name = typeName := by
  rw [catalog_after_new, Catalog.resolve?_ofTypes] at h
  obtain ⟨ht, hname⟩ := Catalog.mem_of_lastNamed? h
  rw [mem_typesOf] at ht ⊢
  rw [hops]
  exact ⟨List.mem_append_left rest ht, hname⟩

/-- If no other type marks a signature, only targets of the one type bind it. -/
theorem targetBinds_of_mem_markings [RegexEngine] {typeName : String} {s : Signature} {marker : InterceptorMarker β}
    (hown : ∀ u ∈ typesOf ops, u.name ≠ typeName → ∀ x ∈ markedMethods u, x.1 ≠ s)
    {before part rest : List (WeaverOp β)} (hops : ops = before ++ part ++ rest)
    (h : (s, marker) ∈ ((new name config).after before).markings part) :
    ((new name config).after before).Occurs part (TargetBinds typeName) := by
  obtain ⟨earlier, op, later, rfl, target, n, t, rfl, hn, hpos, hfound, hm⟩ := (mem_markings _ _ _ _).mp h
  have hsplit : ops = (before ++ earlier) ++ (.registerInterceptTarget target :: later ++ rest) := by
    rw [hops]
    simp only [List.append_assoc]
  rw [← after_append] at hfound
  obtain ⟨hregistered, hname⟩ := registered_of_resolve? hsplit hfound
  have hsame : target = typeName := by
    by_contra hother
    exact hown t hregistered (hname ▸ hother) (s, marker) ((mem_markedMethods t s marker).mpr hm) rfl
  subst hsame
  exact ⟨earlier, _, later, rfl, n, rfl, hn, hpos⟩

/-- A type that is woven for interceptors was bound as a target. -/
theorem occurs_targetBinds [RegexEngine] {typeName : String}
    (h : ((new name config).after ops).mode? typeName = some .intercepts) :
    (new name config).Occurs ops (TargetBinds typeName) := by
  obtain ⟨haspects, hnone⟩ := mode?_after (coherent_new name config) ops typeName
  by_contra hbinds
  have hadvised : ¬ (new name config).Occurs ops (Advises typeName) := by
    intro hadv
    have haspects := haspects.mpr (Or.inl hadv)
    rw [h] at haspects
    cases haspects
  rw [hnone.mpr ⟨hadvised, hbinds, rfl⟩] at h
  cases h

/-- If no other type marks a signature, its last marker is that of the table that the type had when it was
bound as a target, which happens only once. -/
theorem lastMarker?_markings [RegexEngine] {typeName : String} {s : Signature}
    (hown : ∀ u ∈ typesOf ops, u.name ≠ typeName → ∀ x ∈ markedMethods u, x.1 ≠ s)
    (hbinds : (new name config).Occurs ops (TargetBinds typeName)) :
    ∃ earlier later t, ops = earlier ++ .registerInterceptTarget typeName :: later ∧
      TargetBinds typeName ((new name config).after earlier) (.registerInterceptTarget typeName) ∧
      ((new name config).after earlier).catalog.resolve? typeName = some t ∧
      lastMarker? ((new name config).markings ops) s = lastMarker? (markedMethods t) s := by
  obtain ⟨earlier, op, later, hops, hop⟩ := hbinds
  obtain ⟨t, hfound, hbound⟩ := markingsBy_of_targetBinds hop
  have hstart : (new name config : Weaver β).Coherent := coherent_new name config
  obtain ⟨hunwoven, hwoven⟩ := mode?_of_targetBinds (hstart.after earlier) hop
  -- before this registration the type was not woven, so no target was bound under its name
  have hearlier : lastMarker? ((new name config).markings earlier) s = none := by
    rw [← Option.not_isSome_iff_eq_none, lastMarker?_isSome_iff]
    rintro ⟨marker, hmem⟩
    have hsplit : ops = [] ++ earlier ++ op :: later := hops
    exact ((mode?_after hstart earlier typeName).2.mp hunwoven).2.1
      (targetBinds_of_mem_markings hown hsplit hmem)
  -- from then on it stays woven, so none is bound later
  have hlater : lastMarker? ((((new name config).after earlier).apply op).markings later) s = none := by
    rw [← Option.not_isSome_iff_eq_none, lastMarker?_isSome_iff, ← after_concat]
    rintro ⟨marker, hmem⟩
    have hsplit : ops = (earlier ++ [op]) ++ later ++ [] := by
      rw [hops, List.append_nil, List.append_assoc, List.singleton_append]
    obtain ⟨between, again, _, -, hagain⟩ := targetBinds_of_mem_markings hown hsplit hmem
    have hw := hstart.after (earlier ++ [op])
    have hunwoven := (mode?_of_targetBinds (hw.after between) hagain).1
    have hnone := ((mode?_after hw between typeName).2.mp hunwoven).2.2
    rw [after_concat, hwoven] at hnone
    cases hnone
  obtain ⟨n, rfl, hanswer⟩ := hop
  refine ⟨earlier, later, t, hops, ⟨n, rfl, hanswer⟩, hfound, ?_⟩
  have hsplit : (new name config).markings ops =
      (new name config).markings earlier ++ (markedMethods t ++
        (((new name config).after earlier).apply (.registerInterceptTarget typeName)).markings later) := by
    rw [hops, ← hbound]
    exact gather_append markingsBy _ earlier _
  rw [hsplit, lastMarker?_append, lastMarker?_append, hlater, hearlier, Option.none_or, Option.or_none]

end

/-- A call on a woven instance finds the method and leaves it to what its signature is bound to. -/
theorem invokeSignature_of_nodup (b : Behaviours β τ) (bindings : Bindings β) {i : WovenInstance β}
    (hdispatcher : i.dispatcher = .interceptors) (hnodup : (i.descriptor.methods.map Method.signature).Nodup)
    {m : Method β} (hm : m ∈ i.descriptor.methods) (args : List Value) :
    i.invokeSignature b bindings m.signature args =
      m.handledBy b (bindings.interceptors.binding? m.signature) i.target args := by
  unfold WovenInstance.invokeSignature
  rw [TypeDescriptor.methodBySignature?_of_mem hnodup hm, hdispatcher]
  exact bindings.interceptors.dispatch_eq b i.target m args

/-- After a run from a new weaver, let a type be woven for interceptors, with a table without equal
signatures. If it is concrete there is an instance of it, and a call of one of its methods on an instance
is left to the interceptor that the signature of the method is bound to, or runs directly where there is
none. That is what the marker of the method asks for exactly when the last marker that was bound to the
signature is of its kind, or neither is there. If no other type marks the signature, the marker that was
bound is that of the table that the type had when it was bound as a target; thus a call follows the marker
of its method if the type was never registered with other markers. -/
theorem intercepted_after [RegexEngine] (name : String) (config : WeaverConfig) (ops : List (WeaverOp β))
    {typeName : String} {r : Registration β} {m : Method β}
    (hr : ((new name config).after ops).registration? typeName = some r) (hmode : r.mode = .intercepts)
    (hnodup : (r.descriptor.methods.map Method.signature).Nodup) (hm : m ∈ r.descriptor.methods) :
    let start : Weaver β := Weaver.new name config
    let w := start.after ops
    (r.descriptor.isConcrete = true → ∀ world : World τ,
      ∃ i, (w.createWovenInstance typeName world).1 = .ok (some i)) ∧
    (∀ (world : World τ) i, (w.createWovenInstance typeName world).1 = .ok (some i) →
      ∀ (b : Behaviours β τ) args, i.invokeSignature b w.bindings m.signature args =
        m.handledBy b (w.bindings.interceptors.binding? m.signature) i.target args) ∧
    (w.BoundAsMarked m ↔ (lastMarker? (start.markings ops) m.signature).map (·.typeId) =
      m.interceptor.map (·.typeId)) ∧
    ((∀ u ∈ typesOf ops, u.name ≠ typeName → ∀ x ∈ markedMethods u, x.1 ≠ m.signature) →
      (∃ earlier later t, ops = earlier ++ .registerInterceptTarget typeName :: later ∧
        TargetBinds typeName (start.after earlier) (.registerInterceptTarget typeName) ∧
        (start.after earlier).catalog.resolve? typeName = some t ∧
        (w.BoundAsMarked m ↔ (lastMarker? (markedMethods t) m.signature).map (·.typeId) =
          m.interceptor.map (·.typeId))) ∧
      ((∀ u ∈ typesOf ops, u.name = typeName → markedMethods u = markedMethods r.descriptor) →
        w.BoundAsMarked m)) := by
  intro start w
  have hstart : start.Coherent := coherent_new name config
  have hdispatcher : r.dispatcher = .interceptors := by
    rw [((hstart.after ops).fit typeName r hr).dispatcher, hmode]
    rfl
  refine ⟨?_, ?_, boundAsMarked_iff name config ops m, ?_⟩
  · intro hconcrete world
    rw [createWovenInstance_of_registration hr, if_pos hconcrete]
    exact ⟨_, rfl⟩
  · intro world i hi b args
    rw [createWovenInstance_of_registration hr] at hi
    split at hi
    next =>
      cases hi
      exact invokeSignature_of_nodup b w.bindings hdispatcher hnodup hm args
    next => cases hi
  · intro hown
    have hwoven : w.mode? typeName = some .intercepts := by
      unfold mode?
      rw [hr, Option.map_some, hmode]
    obtain ⟨earlier, later, t, hops, hop, hfound, hlast⟩ := lastMarker?_markings hown (occurs_targetBinds hwoven)
    have hiff := boundAsMarked_iff name config ops m
    rw [hlast] at hiff
    refine ⟨⟨earlier, later, t, hops, hop, hfound, hiff⟩, ?_⟩
    intro hsame
    obtain ⟨ht, hname⟩ := registered_of_resolve? hops hfound
    apply hiff.mpr
    rw [hsame t ht hname, lastMarker?_markedMethods hnodup hm]

/-! ## A table that changes -/

/-- An interceptor that answers without letting the call proceed. -/
def refusal : InterceptorMarker Nat := ⟨"Refusal", "Refusal", 0⟩

def load : Method Nat := ⟨MethodDescriptor.make "a.C" "load" [], .typed "C" 1, some refusal⟩

def save : Method Nat := ⟨MethodDescriptor.make "a.C" "save" [], .typed "C" 2, none⟩

/-- A concrete type with the methods given. -/
def store (methods : List (Method Nat)) : TypeDescriptor Nat := ⟨"a.C", .concrete, "C", methods⟩

/-- A type is bound as a target and registered anew with other methods. -/
def changed (before after : List (Method Nat)) : List (WeaverOp Nat) :=
  [.registerType (store before), .registerInterceptTarget "a.C", .registerType (store after)]

/-- Code is the number that a method returns, and interceptors return a number of their own. -/
def counting : Behaviours Nat Unit where
  method code _ _ := pure (some (.int32 (Int32.ofNat code)))
  advice _ := pure ()
  throwing _ _ := pure ()
  around _ := Around.proceedOrFail
  intercept _ := pure (some (.int32 (-1)))

/-- A marked method is handled by its interceptor also after the type was registered anew with another method. -/
theorem intercepted_after_changed :
    let w := (new "weaver" {}).after (changed [load] [load, save])
    w.registration? "a.C" = some ⟨store [load, save], .intercepts, .interceptors⟩ ∧
      ([load, save].map Method.signature).Nodup ∧ load ∈ [load, save] ∧ w.BoundAsMarked load ∧
      ∃ i, (w.createWovenInstance "a.C" (World.initial ())).1 = .ok (some i) ∧
        i.invokeSignature counting w.bindings load.signature [] =
          load.handledBy counting (some ⟨"weaver", 0, refusal⟩) i.target [] := by
  intro w
  have hr : w.registration? "a.C" = some ⟨store [load, save], .intercepts, .interceptors⟩ := rfl
  have hnodup : ([load, save].map Method.signature).Nodup := by decide
  have hm : load ∈ [load, save] := List.mem_cons_self
  obtain ⟨hcreate, hcall, -, hmarked⟩ :=
    intercepted_after "weaver" {} (changed [load] [load, save]) hr rfl hnodup hm
  have htypes : typesOf (changed [load] [load, save]) = [store [load], store [load, save]] := rfl
  rw [htypes] at hmarked
  have hbound : w.BoundAsMarked load := by
    refine (hmarked ?_).2 ?_
    · intro u hu hother
      rcases List.mem_pair.mp hu with rfl | rfl <;> exact absurd rfl hother
    · intro u hu _
      rcases List.mem_pair.mp hu with rfl | rfl <;> rfl
  obtain ⟨i, hi⟩ := hcreate rfl (World.initial ())
  exact ⟨hr, hnodup, hm, hbound, i, hi, hcall (World.initial ()) i hi counting []⟩

/-- The method that is marked anew has an interceptor that is there already, but a call runs the method. -/
theorem intercepted_after_marking :
    let marked := { save with interceptor := some refusal }
    let w := (new "weaver" {}).after (changed [load] [load, marked])
    w.registration? "a.C" = some ⟨store [load, marked], .intercepts, .interceptors⟩ ∧
      (w.bindings.interceptors.singletons.get? refusal.typeId).isSome = true ∧
      ∃ i, (w.createWovenInstance "a.C" (World.initial ())).1 = .ok (some i) ∧
        ((i.invoke counting w.bindings "load" [] []).start (World.initial ())).1 =
          .ok (some (.int32 (-1))) ∧
        ((i.invoke counting w.bindings "save" [] []).start (World.initial ())).1 = .ok (some (.int32 2)) :=
  ⟨rfl, rfl, _, rfl, rfl, rfl⟩

end Weaver

end AspectWeaver

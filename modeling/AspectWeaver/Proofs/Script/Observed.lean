import AspectWeaver.Proofs.Script.Similar
import AspectWeaver.Proofs.Weaver.Observers

/-!
# Scripts do not see observing aspects

Scripts call methods of instances and register aspects while they run, and so do the scripts that these calls run.
Weavers that differ by an aspect that observes are told apart by none of this (`inseparable_observes`). The top is
`callKept_observed`: once such an aspect is registered, every call comes to the same as without it, with all that the
scripts in it do.
-/

set_option autoImplicit false

namespace AspectWeaver.Script

/-- Nothing that scripts do tells a weaver with aspects that only observe from the one without them. -/
theorem inseparable_observes [RegexEngine] {extra : AdviceKind → Advised Code → Prop} (hextra : OnlyObserves extra) :
    Inseparable (Weaver.Observes extra) where
  registerAspect {w v} h a := by
    have hanswer : (w.registerAspect a).value.2 = (v.registerAspect a).value.2 := by
      rw [Weaver.registerAspect_answer, Weaver.registerAspect_answer, h.rest]
      rfl
    exact ⟨hanswer, h.apply (.registerAspect a)⟩
  call h _ hb := h.invokeSignature hb hextra

/-- Take a stage with any weaver that registrations lead to, and register with it an aspect that logs or warns, whose
selector can be read and selects only methods of types that are woven for aspects. Then the stages with and without
the aspect are alike. On stages that are alike every call on an instance comes to the same and leaves stages that are
alike, whatever the scripts in it call and register; so this goes on for any number of calls. -/
theorem callKept_observed [RegexEngine] {v : World Stage} (name : String) (config : WeaverConfig)
    (ops : List (WeaverOp Code)) (hreachable : v.state.weaver = (Weaver.new name config).after ops)
    {selector : String} {p : Pointcut} {a : Aspect Code} (ha : a.Observer selector)
    (hp : Pointcut.compile selector = .ok p)
    (hwoven : ∀ m ∈ v.state.weaver.selected p, v.state.weaver.mode? m.declaringType.name = some .aspects) :
    let registered := v.state.weaver.registerAspect a
    let w := (v.record registered.events).update (Stage.withWeaver registered.value.1)
    w.Alike (Stage.Alike (Weaver.Observes a.Adds)) v ∧
    ∀ w' v' : World Stage, w'.Alike (Stage.Alike (Weaver.Observes a.Adds)) v' →
      ∀ (instanceName method : String) (params : List String) (args : List Value),
        let call := callKept behaviours instanceName method params args
        (call.start w').1 = (call.start v').1 ∧
          (call.start w').2.Alike (Stage.Alike (Weaver.Observes a.Adds)) (call.start v').2 := by
  have hR : Inseparable (Weaver.Observes a.Adds) := inseparable_observes fun kind x hx => ha.of_adds hx
  intro registered w
  constructor
  · have hsame : v.state.weaver.Observes a.Adds v.state.weaver := by
      rw [hreachable]
      exact (Weaver.observes_new name config).after ops
    have hselected := (v.state.weaver.bindingsBy_of_observer ha hp).2
    exact ⟨rfl, rfl, hsame.registerAspect (fun _ _ h => h) fun x hx => hwoven _ (hselected x hx), rfl⟩
  · intro w' v' hworld instanceName method params args
    exact callsBlindly_callKept hR (respects_behaviours hR) instanceName method params args w' v' hworld

end AspectWeaver.Script

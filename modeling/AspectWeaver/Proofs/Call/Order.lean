import AspectWeaver.Proofs.Call.Trace

/-!
# In which order a call does things

The top of this file is `dispatch_steps`: a call through a set of advices takes exactly the steps that
the set asks for, each up to the first failure of its phase, and the method itself is invoked nowhere but
in the step that is the method and where an around advice lets the call proceed, with the arguments that
the join point holds at that moment. That it is invoked nowhere else is said by what a call depends on:
methods that do the same in those moments make the same call, whatever they do otherwise.
-/

set_option autoImplicit false

namespace AspectWeaver

/-! ## Where a course lets the call proceed -/

namespace Around

variable {σ α : Type}

/-- The states in which a course lets the call proceed, in order. -/
def proceeds (call : Action σ (Option Value)) : Around σ α → σ → List σ
  | .done _, _ => []
  | .read next, s => proceeds call (next s) s
  | .write s next, _ => proceeds call next s
  | .proceed next, s => s :: proceeds call (next (call.start s).1) (call.start s).2

/-- A course depends on how the call proceeds only in the states in which it lets it. -/
theorem run_eq_of_agree (call other : Action σ (Option Value)) (x : Around σ α) (s : σ)
    (h : ∀ p ∈ x.proceeds call s, other.start p = call.start p) : x.run other s = x.run call s := by
  induction x generalizing s with
  | done outcome => rfl
  | read next ih => exact ih s s h
  | write t next ih => exact ih t h
  | proceed next ih =>
      have hs : other.start s = call.start s := h s (by simp [proceeds])
      have hrest := ih (call.start s).1 (call.start s).2 fun p hp => h p (by simp [proceeds, hp])
      simp only [run, hs]
      exact hrest

end Around

variable {β τ : Type}

/-! ## Where a step invokes the method -/

/-- The states in which a step that is taken from a state invokes the method: the method itself does so
at once, and an around advice wherever it lets the call proceed. -/
def CallStep.invocations (b : Behaviours β τ) (m : Method β) :
    CallStep β → CallState τ → List (CallState τ)
  | .original, s => [s]
  | .around a, s => (a.body.course b).proceeds (m.proceed b) ((CallStep.around a).announced s)
  | _, _ => []

/-- The states in which a call invokes the method, in order. -/
def CallTrace.invocations (b : Behaviours β τ) (m : Method β) (t : CallTrace β τ) :
    List (CallState τ) :=
  t.steps.flatMap fun x => x.step.invocations b m x.start

/-- To let the call proceed in a state is to invoke the method with the arguments of the join point. -/
theorem start_proceed_eq {b b' : Behaviours β τ} {m : Method β} {p : CallState τ}
    (h : (m.invoke b' p.1.target p.1.args).start p.2 = (m.invoke b p.1.target p.1.args).start p.2) :
    (m.proceed b').start p = (m.proceed b).start p := by
  unfold Method.proceed
  rw [Action.start_of, Action.start_of]
  dsimp only
  rw [h]

/-- The behaviours with other methods. -/
def Behaviours.withMethods (b : Behaviours β τ)
    (other : β → Target → List Value → Action (World τ) (Option Value)) : Behaviours β τ :=
  { b with method := other }

variable (b : Behaviours β τ) (m : Method β)
  (other : β → Target → List Value → Action (World τ) (Option Value))

/-- Two methods do the same in a state of a call. -/
def AgreeAt (p : CallState τ) : Prop :=
  (m.invoke (b.withMethods other) p.1.target p.1.args).start p.2 =
    (m.invoke b p.1.target p.1.args).start p.2

/-- A step depends on the method only in the states in which it invokes it. -/
theorem start_perform_withMethods (step : CallStep β) (s : CallState τ)
    (h : ∀ p ∈ step.invocations b m s, AgreeAt b m other p) :
    (step.perform (b.withMethods other) m).start s = (step.perform b m).start s := by
  have hrun (body : AdviceBody β) : body.run (b.withMethods other) = body.run b := by
    cases body <;> rfl
  rw [CallStep.start_perform, CallStep.start_perform]
  cases step with
  | before a => simp only [CallStep.code, hrun]
  | afterReturning a => simp only [CallStep.code, hrun]
  | after a => simp only [CallStep.code, hrun]
  | afterThrowing a f =>
      have hthrowing : a.body.runThrowing (b.withMethods other) f = a.body.runThrowing b f := by
        cases a.body <;> rfl
      simp only [CallStep.code, hthrowing]
  | original =>
      have hproceed : (m.proceed (b.withMethods other)).start s = (m.proceed b).start s :=
        start_proceed_eq (h s (List.mem_singleton_self s))
      have hs : (CallStep.original : CallStep β).announced s = s := rfl
      simp only [CallStep.code, Action.start_bind, hs, hproceed]
  | around a =>
      have hcourse : a.body.course (b.withMethods other) = a.body.course b := by
        cases a.body <;> rfl
      have hstart : ((a.body.course b).toAction (m.proceed (b.withMethods other))).start
            ((CallStep.around a).announced s) =
          ((a.body.course b).toAction (m.proceed b)).start ((CallStep.around a).announced s) :=
        Around.run_eq_of_agree _ _ _ _ fun p hp => start_proceed_eq (h p hp)
      simp only [CallStep.code, Action.start_bind, hcourse, hstart]

/-- Steps that were taken are taken with any methods that do the same where they are invoked. -/
theorem performed_withMethods {s s' : CallState τ} {taken : List (TakenStep β τ)}
    (hrun : Performed b m s taken s')
    (h : ∀ p ∈ taken.flatMap fun x => x.step.invocations b m x.start, AgreeAt b m other p) :
    Performed (b.withMethods other) m s taken s' := by
  induction taken generalizing s with
  | nil => exact hrun
  | cons x taken ih =>
      obtain ⟨rfl, hx, hrest⟩ := hrun
      refine ⟨rfl, ?_, ih hrest fun p hp => h p (by simp [hp])⟩
      rw [start_perform_withMethods b m other x.step x.start fun p hp => h p (by simp [hp]), hx]

/-- A call has the same trace with any methods that do the same where they are invoked. -/
theorem trace_withMethods (set : AdviceSet β) (s : CallState τ)
    (h : ∀ p ∈ (set.trace b m s).1.invocations b m, AgreeAt b m other p) :
    set.trace (b.withMethods other) m s = set.trace b m s := by
  obtain ⟨hfollows, hrun⟩ := trace_follows_performed b set m s
  have hother := performed_withMethods b m other hrun h
  exact ((follows_performed_iff (b.withMethods other) set m s _ _).mp ⟨hfollows, hother⟩).symm

/-! ## The order of the steps -/

/-- A call of a method with advices takes exactly the steps that the set of advices asks for: there is one
trace that follows the set and whose steps were taken one after the other from the beginning of the call,
and the call leaves the world as that trace does. Methods that do the same in the states in which the
trace invokes the method make the same call. -/
theorem dispatch_steps (b : Behaviours β τ) (r : AdviceRegistry β) (set : AdviceSet β) (target : Target)
    (m : Method β) (args : List Value) (w : World τ) (h : r.adviceSet? m.signature = some set) :
    ∃ (t : CallTrace β τ) (last : CallState τ),
      (t.Follows set ∧ Performed b m (set.enter target m args w) t.steps last) ∧
      (∀ t' last', t'.Follows set ∧ Performed b m (set.enter target m args w) t'.steps last' →
        t' = t ∧ last' = last) ∧
      ((r.dispatch b target m args).start w).2 = last.2 ∧
      ∀ other, (∀ p ∈ t.invocations b m, AgreeAt b m other p) →
        (r.dispatch (b.withMethods other) target m args).start w = (r.dispatch b target m args).start w := by
  refine ⟨(set.trace b m (set.enter target m args w)).1, (set.trace b m (set.enter target m args w)).2,
    trace_follows_performed b set m _, ?_, ?_, ?_⟩
  · intro t' last' ht'
    have := (follows_performed_iff b set m _ last' t').mp ht'
    rw [← this]
    exact ⟨rfl, rfl⟩
  · rw [start_dispatch h]
  · intro other hagree
    rw [start_dispatch h, start_dispatch h, trace_withMethods b m other set _ hagree]

section

open Rehearsal

/-- With advices of all kinds and a failure after the method returned, the code notes its numbers in the order of
the phases. -/
theorem dispatch_steps_rehearsal :
    registry.adviceSet? method.signature = some advices ∧
    ∃ (t : CallTrace Nat (List Nat)) (last : CallState (List Nat)),
      t.Follows advices ∧
      Performed behaviours method (advices.enter target method [.bool true] (World.initial [])) t.steps last ∧
      (t.invocations behaviours method).map (fun p => p.1.args) = [[.bool true]] ∧
      last.2.state = [1, 2, 3, 4, 0, 6, 7, 8] := by
  refine ⟨adviceSet?_registry, ?_⟩
  obtain ⟨t, last, ⟨hfollows, hrun⟩, -, hworld, -⟩ := dispatch_steps behaviours registry advices target method
    [.bool true] (World.initial []) adviceSet?_registry
  refine ⟨t, last, hfollows, hrun, ?_, ?_⟩
  · have ht := (follows_performed_iff behaviours advices method _ last t).mp ⟨hfollows, hrun⟩
    rw [show t = _ from congrArg Prod.fst ht]
    rfl
  · rw [← hworld, start_dispatch adviceSet?_registry]
    rfl

end

end AspectWeaver

import AspectWeaver.Proofs.Call.Order
import Mathlib.Data.List.Forall2

/-!
# Code that does not see the log

Code of a program can write to the log but cannot read it. So two worlds that differ only in their logs are alike
(`World.Alike`), code that takes alike states to alike states with the same outcome is similar (`Action.Similar`,
`Around.Similar`), and behaviours respect this if all their code is similar to itself (`Behaviours.Respects`). The
top is `CallStep.Similar.refl`: taken from alike states, a step of a call comes to the same and invokes the method
in alike states.
-/

set_option autoImplicit false

namespace AspectWeaver

/-! ## Actions -/

namespace Action

variable {σ α γ : Type} {R : σ → σ → Prop}

/-- From related states two actions come to the same outcome and leave related states. -/
def Similar (R : σ → σ → Prop) (x y : Action σ α) : Prop :=
  ∀ s r, R s r → (x.start s).1 = (y.start r).1 ∧ R (x.start s).2 (y.start r).2

/-- Giving a result is similar to itself. -/
theorem similar_pure (a : α) : Similar R (pure a) (pure a) := fun _ _ h => ⟨rfl, h⟩

/-- Failing is similar to itself. -/
theorem similar_throw (f : Failure) : Similar R (throw f : Action σ α) (throw f) := fun _ _ h => ⟨rfl, h⟩

/-- Similar actions, followed by similar ones for each result, are similar. -/
theorem Similar.bind {x y : Action σ α} {f g : α → Action σ γ} (hx : Similar R x y)
    (hf : ∀ a, Similar R (f a) (g a)) : Similar R (x >>= f) (y >>= g) := by
  intro s r h
  obtain ⟨houtcome, hafter⟩ := hx s r h
  rw [start_bind, start_bind]
  -- as the outcomes are equal, both fail or both go on with the same value
  rcases hsx : x.start s with ⟨e | a, s'⟩ <;> rcases hry : y.start r with ⟨e' | a', r'⟩ <;>
    rw [hsx, hry] at houtcome hafter
  · cases houtcome
    exact ⟨rfl, hafter⟩
  · cases houtcome
  · cases houtcome
  · cases houtcome
    exact hf a s' r' hafter

/-- Attempts of similar actions are similar. -/
theorem Similar.attempt {x y : Action σ α} (h : Similar R x y) : Similar R x.attempt y.attempt := by
  intro s r hsr
  obtain ⟨houtcome, hafter⟩ := h s r hsr
  exact ⟨congrArg Except.ok houtcome, hafter⟩

/-- Similar actions on the second part of a state leave equal first parts equal. -/
theorem Similar.onSecond {ρ : Type} {x y : Action σ α} (h : Similar R x y) :
    Similar (fun (s r : ρ × σ) => s.1 = r.1 ∧ R s.2 r.2) x.onSecond y.onSecond := by
  rintro ⟨first, s⟩ ⟨_, r⟩ ⟨rfl, hsr⟩
  obtain ⟨houtcome, hafter⟩ := h s r hsr
  exact ⟨houtcome, rfl, hafter⟩

end Action

/-! ## Courses -/

namespace Around

variable {σ α γ : Type} {R : σ → σ → Prop}

/-- A failure ends a course; otherwise what follows goes on from the state that it left. -/
theorem run_bind (call : Action σ (Option Value)) (c : Around σ α) (f : α → Around σ γ) (s : σ) :
    (c >>= f).run call s = match c.run call s with
      | (.ok a, after) => (f a).run call after
      | (.error e, after) => (.error e, after) := by
  show (bind c f).run call s = _
  induction c generalizing s with
  | done outcome => cases outcome <;> rfl
  | read next ih => exact ih s s
  | write t next ih => exact ih t
  | proceed next ih => exact ih _ _

/-- The calls that proceed in a course are those of its beginning and, unless this fails, those of what follows. -/
theorem proceeds_bind (call : Action σ (Option Value)) (c : Around σ α) (f : α → Around σ γ) (s : σ) :
    (c >>= f).proceeds call s = c.proceeds call s ++ match c.run call s with
      | (.ok a, after) => (f a).proceeds call after
      | (.error _, _) => [] := by
  show (bind c f).proceeds call s = _
  induction c generalizing s with
  | done outcome => cases outcome <;> rfl
  | read next ih => exact ih s s
  | write t next ih => exact ih t
  | proceed next ih => exact congrArg (s :: ·) (ih _ _)

/-- From related states, and with calls that proceed similarly, two courses let the call proceed in related states,
come to the same outcome and leave related states. -/
def Similar (R : σ → σ → Prop) (c d : Around σ α) : Prop :=
  ∀ x y : Action σ (Option Value), Action.Similar R x y → ∀ s r, R s r →
    (c.run x s).1 = (d.run y r).1 ∧ R (c.run x s).2 (d.run y r).2 ∧
      List.Forall₂ R (c.proceeds x s) (d.proceeds y r)

/-- A course that has ended is similar to itself. -/
theorem similar_done (outcome : Except Failure α) : Similar R (.done outcome : Around σ α) (.done outcome) :=
  fun _ _ _ _ _ h => ⟨rfl, h, .nil⟩

/-- Letting the call proceed and looking at its outcome is similar to itself. -/
theorem similar_tryProceed : Similar R (tryProceed : Around σ (Except Failure (Option Value))) tryProceed := by
  intro x y hcall s r h
  obtain ⟨houtcome, hafter⟩ := hcall s r h
  exact ⟨congrArg Except.ok houtcome, hafter, .cons h .nil⟩

/-- Letting the call proceed and failing with it is similar to itself. -/
theorem similar_proceedOrFail : Similar R (proceedOrFail : Around σ (Option Value)) proceedOrFail := by
  intro x y hcall s r h
  obtain ⟨houtcome, hafter⟩ := hcall s r h
  exact ⟨houtcome, hafter, .cons h .nil⟩

/-- Courses that take similar steps and never let the call proceed are similar. -/
theorem similar_ofAction {x y : Action σ α} (h : Action.Similar R x y) : Similar R (ofAction x) (ofAction y) := by
  intro _ _ _ s r hsr
  obtain ⟨houtcome, hafter⟩ := h s r hsr
  exact ⟨houtcome, hafter, .nil⟩

/-- Similar courses, followed by similar ones for each result, are similar. -/
theorem Similar.bind {c d : Around σ α} {f g : α → Around σ γ} (hc : Similar R c d)
    (hf : ∀ a, Similar R (f a) (g a)) : Similar R (c >>= f) (d >>= g) := by
  intro x y hcall s r h
  obtain ⟨houtcome, hafter, hproceeds⟩ := hc x y hcall s r h
  rw [run_bind, run_bind, proceeds_bind, proceeds_bind]
  rcases hsx : c.run x s with ⟨e | a, s'⟩ <;> rcases hry : d.run y r with ⟨e' | a', r'⟩ <;>
    rw [hsx, hry] at houtcome hafter
  · cases houtcome
    exact ⟨rfl, hafter, List.rel_append hproceeds .nil⟩
  · cases houtcome
  · cases houtcome
  · cases houtcome
    obtain ⟨hlast, hleft, hmore⟩ := hf a x y hcall s' r' hafter
    exact ⟨hlast, hleft, List.rel_append hproceeds hmore⟩

/-- Similar courses around calls that proceed similarly are similar actions. -/
theorem Similar.toAction {c d : Around σ α} (h : Similar R c d) {x y : Action σ (Option Value)}
    (hcall : Action.Similar R x y) : Action.Similar R (c.toAction x) (d.toAction y) := by
  intro s r hsr
  obtain ⟨houtcome, hafter, -⟩ := h x y hcall s r hsr
  exact ⟨houtcome, hafter⟩

end Around

/-! ## Worlds -/

/-- Two worlds differ only in their logs, and keep what is the same to the program. -/
structure World.Alike {τ : Type} (same : τ → τ → Prop) (w v : World τ) : Prop where
  clock : w.clock = v.clock
  objects : w.objects = v.objects
  state : same w.state v.state

variable {β τ : Type} {same : τ → τ → Prop}

/-- Worlds stay alike whatever is logged in each. -/
theorem World.Alike.record {w v : World τ} (h : w.Alike same v) (events events' : List Event) :
    (w.record events).Alike same (v.record events') := ⟨h.clock, h.objects, h.state⟩

/-- The states of two calls are alike: the join points are equal, and the worlds differ only in their logs. -/
def CallAlike (same : τ → τ → Prop) (s r : CallState τ) : Prop := s.1 = r.1 ∧ s.2.Alike same r.2

/-! ## Code that only logs -/

/-- An action does nothing but append to the log. -/
def OnlyLogs (x : Action (CallState τ) Unit) : Prop :=
  ∀ s : CallState τ, ∃ events, x.start s = (.ok (), (s.1, s.2.record events))

/-- Doing nothing only logs. -/
theorem onlyLogs_pure : OnlyLogs (pure () : Action (CallState τ) Unit) := by
  intro s
  exact ⟨[], by simp [World.record]⟩

/-- Telling an event about the join point only logs. -/
theorem onlyLogs_tellAt (event : JoinPoint → Nat → Event) :
    OnlyLogs (tellAt event : Action (CallState τ) Unit) := fun s => ⟨[event s.1 s.2.clock], rfl⟩

/-- A warning about a slow call only logs. -/
theorem onlyLogs_warnIfSlow (threshold : Nat) :
    OnlyLogs (AdviceBody.warnIfSlow threshold : Action (CallState τ) Unit) := by
  rintro ⟨jp, w⟩
  simp only [AdviceBody.warnIfSlow, Action.start_of]
  split
  next => exact ⟨_, rfl⟩
  next => exact ⟨[], by simp [World.record]⟩

/-- Two actions that only log, one after the other, only log. -/
theorem OnlyLogs.bind {x y : Action (CallState τ) Unit} (hx : OnlyLogs x) (hy : OnlyLogs y) :
    OnlyLogs (do x; y) := by
  intro s
  obtain ⟨events, hs⟩ := hx s
  obtain ⟨more, hafter⟩ := hy (s.1, s.2.record events)
  refine ⟨events ++ more, ?_⟩
  rw [Action.start_bind, hs]
  dsimp only
  rw [hafter]
  simp [World.record]

/-- The announcement of a step only logs. -/
theorem CallStep.onlyLogs_announce (step : CallStep β) : OnlyLogs (step.announce : Action (CallState τ) Unit) := by
  unfold announce
  cases step.advice? with
  | none => exact onlyLogs_pure
  | some x => exact fun s => ⟨_, rfl⟩

/-- What the library itself offers as an advice only logs. -/
theorem AdviceBody.onlyLogs_run (b : Behaviours β τ) {body : AdviceBody β} (h : ∀ code, body ≠ .custom code) :
    OnlyLogs (body.run b) := by
  cases body with
  | custom code => exact absurd rfl (h code)
  | logEntering withArgs => exact onlyLogs_tellAt _
  | logExiting => exact onlyLogs_tellAt _
  | warnSlow threshold => exact onlyLogs_warnIfSlow threshold
  | logFailure => exact onlyLogs_pure

/-- Actions that only log are similar, whatever they log. -/
theorem OnlyLogs.similar {x y : Action (CallState τ) Unit} (hx : OnlyLogs x) (hy : OnlyLogs y) :
    Action.Similar (CallAlike same) x y := by
  rintro s r ⟨hjp, hworld⟩
  obtain ⟨events, hs⟩ := hx s
  obtain ⟨events', hr⟩ := hy r
  rw [hs, hr]
  exact ⟨rfl, hjp, hworld.record _ _⟩

/-! ## Behaviours -/

/-- No code depends on the log; code around a call depends besides only on how the call proceeds. -/
structure Behaviours.Respects (b : Behaviours β τ) (same : τ → τ → Prop) : Prop where
  method : ∀ code target args,
    Action.Similar (World.Alike same) (b.method code target args) (b.method code target args)
  advice : ∀ code, Action.Similar (CallAlike same) (b.advice code) (b.advice code)
  throwing : ∀ code f, Action.Similar (CallAlike same) (b.throwing code f) (b.throwing code f)
  around : ∀ code, Around.Similar (CallAlike same) (b.around code) (b.around code)
  intercept : ∀ i, Around.Similar (CallAlike same) (b.intercept i) (b.intercept i)

namespace Behaviours.Respects

variable {b : Behaviours β τ} (h : b.Respects same)

include h

/-- Where code does not depend on the log, invoking a method is similar to itself. -/
theorem invoke (m : Method β) (target : Target) (args : List Value) :
    Action.Similar (World.Alike same) (m.invoke b target args) (m.invoke b target args) := by
  unfold Method.invoke
  split
  next expected code _ =>
    split
    next => exact h.method code target args
    next => exact Action.similar_throw _
  next => exact Action.similar_throw _

/-- Letting a call proceed to its method is similar to itself. -/
theorem proceed (m : Method β) : Action.Similar (CallAlike same) (m.proceed b) (m.proceed b) := by
  rintro ⟨jp, w⟩ ⟨_, v⟩ ⟨rfl, hworld⟩
  obtain ⟨houtcome, hafter⟩ := h.invoke m jp.target jp.args w v hworld
  exact ⟨houtcome, rfl, hafter⟩

/-- Running an advice is similar to itself. -/
theorem run (body : AdviceBody β) : Action.Similar (CallAlike same) (body.run b) (body.run b) := by
  have hobserve {body : AdviceBody β} (hbody : ∀ code, body ≠ .custom code) :
      Action.Similar (CallAlike same) (body.run b) (body.run b) :=
    (AdviceBody.onlyLogs_run b hbody).similar (AdviceBody.onlyLogs_run b hbody)
  cases body with
  | custom code => exact h.advice code
  | logEntering withArgs => exact hobserve nofun
  | logExiting => exact hobserve nofun
  | warnSlow threshold => exact hobserve nofun
  | logFailure => exact hobserve nofun

/-- Running an advice that is told a failure is similar to itself. -/
theorem runThrowing (body : AdviceBody β) (f : Failure) :
    Action.Similar (CallAlike same) (body.runThrowing b f) (body.runThrowing b f) := by
  cases body with
  | custom code => exact h.throwing code f
  | logFailure => exact (onlyLogs_tellAt _).similar (onlyLogs_tellAt _)
  | logEntering withArgs => exact h.run _
  | logExiting => exact h.run _
  | warnSlow threshold => exact h.run _

/-- The course of an advice around a call is similar to itself. -/
theorem course (body : AdviceBody β) : Around.Similar (CallAlike same) (body.course b) (body.course b) := by
  have hobserve (body : AdviceBody β) :
      Around.Similar (CallAlike same) (do Around.ofAction (body.run b); Around.proceedOrFail)
        (do Around.ofAction (body.run b); Around.proceedOrFail) :=
    (Around.similar_ofAction (h.run body)).bind fun _ => Around.similar_proceedOrFail
  cases body with
  | custom code => exact h.around code
  | logEntering withArgs => exact hobserve (.logEntering withArgs)
  | logExiting => exact hobserve .logExiting
  | warnSlow threshold => exact hobserve (.warnSlow threshold)
  | logFailure => exact hobserve .logFailure

/-- The code of a step is similar to itself. -/
theorem code (m : Method β) (step : CallStep β) :
    Action.Similar (CallAlike same) (step.code b m) (step.code b m) := by
  cases step with
  | before a => exact (h.run a.body).bind fun _ => Action.similar_pure none
  | afterReturning a => exact (h.run a.body).bind fun _ => Action.similar_pure none
  | after a => exact (h.run a.body).bind fun _ => Action.similar_pure none
  | around a => exact ((h.course a.body).toAction (h.proceed m)).bind fun result => Action.similar_pure (some result)
  | original => exact (h.proceed m).bind fun result => Action.similar_pure (some result)
  | afterThrowing a f => exact (h.runThrowing a.body f).bind fun _ => Action.similar_pure none

/-- A call that is left to an interceptor is similar to itself. -/
theorem intercepted (r : InterceptorRegistry β) (target : Target) (m : Method β) (args : List Value) :
    Action.Similar (World.Alike same) (r.dispatch b target m args) (r.dispatch b target m args) := by
  unfold InterceptorRegistry.dispatch
  split
  next => exact h.invoke m target args
  next interceptor _ =>
    refine Action.Similar.bind (fun w v hworld => ⟨rfl, hworld.record _ _⟩) fun _ => ?_
    intro w v hworld
    have hstart : CallAlike same (JoinPoint.start target m.descriptor args w.clock, w)
        (JoinPoint.start target m.descriptor args v.clock, v) :=
      ⟨congrArg (JoinPoint.start target m.descriptor args) hworld.clock, hworld⟩
    obtain ⟨houtcome, -, hafter⟩ := (h.intercept interceptor).toAction (h.proceed m) _ _ hstart
    exact ⟨houtcome, hafter⟩

end Behaviours.Respects

/-- Code that notes its number in the world does not depend on the log. -/
theorem Rehearsal.respects_behaviours : behaviours.Respects Eq := by
  have hnote (code : Nat) : Action.Similar (World.Alike Eq) (note code) (note code) := by
    rintro w v ⟨hclock, hobjects, hstate⟩
    refine ⟨rfl, hclock, hobjects, ?_⟩
    show w.state ++ [code] = v.state ++ [code]
    rw [hstate]
  have hnoteHere (code : Nat) : Action.Similar (CallAlike Eq) (Action.onSecond (note code))
      (Action.onSecond (note code)) := by
    rintro ⟨jp, w⟩ ⟨_, v⟩ ⟨rfl, hworld⟩
    obtain ⟨houtcome, hafter⟩ := hnote code w v hworld
    exact ⟨houtcome, rfl, hafter⟩
  exact {
    method := fun code _ args => (hnote code).bind fun _ => Action.similar_pure args.head?
    advice := hnoteHere
    throwing := fun code _ => hnoteHere code
    around := fun code => (Around.similar_ofAction (hnoteHere code)).bind fun _ => Around.similar_proceedOrFail
    intercept := fun _ => Around.similar_proceedOrFail }

/-! ## Steps -/

namespace CallStep

variable {b : Behaviours β τ} {m : Method β}

/-- Announcements, whatever they say, leave states alike. -/
theorem announced_alike {s r : CallState τ} (h : CallAlike same s r) (x y : CallStep β) :
    CallAlike same (x.announced s) (y.announced r) :=
  (x.onlyLogs_announce.similar y.onlyLogs_announce s r h).2

/-- Taken from alike states, two steps come to the same outcome in alike states, and invoke the method in alike
states. -/
def Similar (b : Behaviours β τ) (m : Method β) (same : τ → τ → Prop) (x y : CallStep β) : Prop :=
  ∀ s r, CallAlike same s r →
    ((x.perform b m).start s).1 = ((y.perform b m).start r).1 ∧
      CallAlike same ((x.perform b m).start s).2 ((y.perform b m).start r).2 ∧
      List.Forall₂ (CallAlike same) (x.invocations b m s) (y.invocations b m r)

/-- Steps are similar if their code is, whatever they announce. -/
theorem Similar.of_code {x y : CallStep β} (hcode : Action.Similar (CallAlike same) (x.code b m) (y.code b m))
    (hinvocations : ∀ s r, CallAlike same s r →
      List.Forall₂ (CallAlike same) (x.invocations b m s) (y.invocations b m r)) : Similar b m same x y := by
  intro s r hsr
  obtain ⟨houtcome, hafter⟩ := hcode _ _ (announced_alike hsr x y)
  rw [start_perform, start_perform]
  generalize (x.code b m).start (x.announced s) = left at houtcome hafter ⊢
  generalize (y.code b m).start (y.announced r) = right at houtcome hafter ⊢
  obtain ⟨e | _ | result, s'⟩ := left <;> obtain ⟨e' | _ | result', r'⟩ := right <;> cases houtcome
  · exact ⟨rfl, hafter, hinvocations s r hsr⟩
  · exact ⟨rfl, hafter, hinvocations s r hsr⟩
  · exact ⟨rfl, ⟨congrArg (JoinPoint.setResult · result) hafter.1, hafter.2⟩, hinvocations s r hsr⟩

/-- Where code does not depend on the log, each step is similar to itself. -/
theorem Similar.refl (h : b.Respects same) (m : Method β) (step : CallStep β) : Similar b m same step step := by
  refine Similar.of_code (h.code m step) ?_
  intro s r hsr
  cases step with
  | original => exact .cons hsr .nil
  | around a => exact (h.course a.body _ _ (h.proceed m) _ _ (announced_alike hsr (around a) (around a))).2.2
  | before a => exact .nil
  | afterReturning a => exact .nil
  | afterThrowing a f => exact .nil
  | after a => exact .nil

/-- A step does nothing but append to the log. -/
structure IsSilent (b : Behaviours β τ) (m : Method β) (step : CallStep β) : Prop where
  onlyLogs : OnlyLogs (step.perform b m)
  invokesNothing : ∀ s, step.invocations b m s = []

/-- An observation of the library that runs before or after a method does nothing but append to the log. -/
theorem isSilent_of_advice? {step : CallStep β} {kind : AdviceKind} {a : Advised β}
    (hstep : step.advice? = some (kind, a)) (hkind : kind = .before ∨ kind = .afterReturning ∨ kind = .after)
    (hbody : ∀ code, a.body ≠ .custom code) : step.IsSilent b m := by
  have honly : OnlyLogs (AdviceSet.runOne b kind a) := by
    refine OnlyLogs.bind (fun s => ⟨_, rfl⟩) (AdviceBody.onlyLogs_run b hbody)
  obtain ⟨hbefore, hreturning, hafter⟩ := AdviceSet.runOne_eq_perform b m a
  cases step with
  | before _ =>
      cases hstep
      exact ⟨hbefore ▸ honly, fun _ => rfl⟩
  | afterReturning _ =>
      cases hstep
      exact ⟨hreturning ▸ honly, fun _ => rfl⟩
  | after _ =>
      cases hstep
      exact ⟨hafter ▸ honly, fun _ => rfl⟩
  | around _ =>
      cases hstep
      simp at hkind
  | afterThrowing _ f =>
      cases hstep
      simp at hkind
  | original => cases hstep

end CallStep

end AspectWeaver

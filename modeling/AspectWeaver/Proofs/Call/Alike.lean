import AspectWeaver.Proofs.Call.Lifetime
import AspectWeaver.Proofs.Call.Similar

/-!
# Calls that are alike

A step that does nothing but log may be left out of a call, and a step may be replaced by a similar one: from alike
states, plans that differ only so are followed alike (`attemptAll_alike`), and sets that ask for such plans make
traces that are alike (`trace_alike`). The call of a method without a set counts as one through the empty set
(`Method.start_advisedBy`). The top is `calls_alike`: calls of a method through such sets come to the same outcome
and leave worlds that are alike.
-/

set_option autoImplicit false

namespace AspectWeaver

/-! ## Rows with something more in between -/

/-- Two rows agree element by element, but for what the first has more in between. -/
inductive Interspersed {α γ : Type} (extra : α → Prop) (shared : α → γ → Prop) : List α → List γ → Prop where
  | nil : Interspersed extra shared [] []
  | shared {x : α} {y : γ} {xs : List α} {ys : List γ} :
    shared x y → Interspersed extra shared xs ys → Interspersed extra shared (x :: xs) (y :: ys)
  | extra {x : α} {xs : List α} {ys : List γ} :
    extra x → Interspersed extra shared xs ys → Interspersed extra shared (x :: xs) ys

namespace Interspersed

variable {α γ : Type} {extra : α → Prop} {shared : α → γ → Prop}

/-- Rows that agree, each followed by one of two rows that agree, still agree. -/
theorem append {xs xs' : List α} {ys ys' : List γ} (h : Interspersed extra shared xs ys)
    (h' : Interspersed extra shared xs' ys') : Interspersed extra shared (xs ++ xs') (ys ++ ys') := by
  induction h with
  | nil => exact h'
  | shared hxy _ ih => exact .shared hxy ih
  | extra hx _ ih => exact .extra hx ih

/-- Rows that agree also agree when they are read from their ends. -/
theorem reverse {xs : List α} {ys : List γ} (h : Interspersed extra shared xs ys) :
    Interspersed extra shared xs.reverse ys.reverse := by
  induction h with
  | nil => exact .nil
  | shared hxy _ ih =>
      rw [List.reverse_cons, List.reverse_cons]
      exact ih.append (.shared hxy .nil)
  | extra hx _ ih =>
      have hxs := ih.append (.extra hx .nil)
      rwa [List.append_nil, ← List.reverse_cons] at hxs

/-- Rows that agree still agree after maps that keep what is shared and what is extra. -/
theorem map {α' γ' : Type} {extra' : α' → Prop} {shared' : α' → γ' → Prop} {f : α → α'} {g : γ → γ'}
    (hextra : ∀ x, extra x → extra' (f x)) (hshared : ∀ x y, shared x y → shared' (f x) (g y)) {xs : List α}
    {ys : List γ} (h : Interspersed extra shared xs ys) : Interspersed extra' shared' (xs.map f) (ys.map g) := by
  induction h with
  | nil => exact .nil
  | shared hxy _ ih => exact .shared (hshared _ _ hxy) ih
  | extra hx _ ih => exact .extra (hextra _ hx) ih

/-- A row agrees with itself if each element agrees with itself. -/
theorem refl {extra : α → Prop} {shared : α → α → Prop} (hshared : ∀ x, shared x x) (xs : List α) :
    Interspersed extra shared xs xs := by
  induction xs with
  | nil => exact .nil
  | cons x xs ih => exact .shared (hshared x) ih

/-- If nothing is extra, rows that share equal elements are equal. -/
theorem eq_of_nothing {extra : α → Prop} (hextra : ∀ x, ¬ extra x) {xs ys : List α}
    (h : Interspersed extra Eq xs ys) : xs = ys := by
  induction h with
  | nil => rfl
  | shared hxy _ ih => rw [hxy, ih]
  | extra hx _ _ => exact absurd hx (hextra _)

/-- Where what is extra gives nothing, rows that agree give lists that agree element by element. -/
theorem forall₂_flatMap {α' γ' : Type} {R : α' → γ' → Prop} {f : α → List α'} {g : γ → List γ'}
    (hextra : ∀ x, extra x → f x = []) (hshared : ∀ x y, shared x y → List.Forall₂ R (f x) (g y)) {xs : List α}
    {ys : List γ} (h : Interspersed extra shared xs ys) : List.Forall₂ R (xs.flatMap f) (ys.flatMap g) := by
  induction h with
  | nil => exact .nil
  | shared hxy _ ih => exact List.rel_append (hshared _ _ hxy) ih
  | extra hx _ ih =>
      rw [List.flatMap_cons, hextra _ hx]
      exact ih

end Interspersed

/-! ## Plans -/

variable {β τ : Type} {same : τ → τ → Prop}

/-- A step that was taken, left the join point as it was, and did nothing to the world but append to the log. -/
structure TakenStep.IsSilent (b : Behaviours β τ) (m : Method β) (extra : CallStep β → Prop) (x : TakenStep β τ) :
    Prop where
  step : extra x.step
  outcome : x.outcome = .ok ()
  finish : ∃ events, x.finish = (x.start.1, x.start.2.record events)
  invokesNothing : x.step.invocations b m x.start = []

/-- Steps that were taken from alike states to alike states with the same outcome, and that invoked the method in
alike states. -/
structure TakenStep.Alike (b : Behaviours β τ) (m : Method β) (same : τ → τ → Prop)
    (shared : CallStep β → CallStep β → Prop) (x y : TakenStep β τ) : Prop where
  step : shared x.step y.step
  outcome : x.outcome = y.outcome
  start : CallAlike same x.start y.start
  finish : CallAlike same x.finish y.finish
  invocations : List.Forall₂ (CallAlike same) (x.step.invocations b m x.start) (y.step.invocations b m y.start)

/-- Two rows of taken steps are alike, but for silent steps that the first has more in between. -/
abbrev RowsAlike (b : Behaviours β τ) (m : Method β) (same : τ → τ → Prop) (extra : CallStep β → Prop)
    (shared : CallStep β → CallStep β → Prop) : List (TakenStep β τ) → List (TakenStep β τ) → Prop :=
  Interspersed (TakenStep.IsSilent b m extra) (TakenStep.Alike b m same shared)

section

variable {b : Behaviours β τ} {m : Method β} {extra : CallStep β → Prop} {shared : CallStep β → CallStep β → Prop}

/-- Silent steps do not fail, so rows that are alike fail in the same way. -/
theorem RowsAlike.failure?_eq {xs ys : List (TakenStep β τ)} (h : RowsAlike b m same extra shared xs ys) :
    failure? xs = failure? ys := by
  induction h with
  | nil => rfl
  | shared hxy _ ih => rw [failure?, failure?, hxy.outcome, ih]
  | extra hx _ ih =>
      rw [failure?, hx.outcome]
      exact ih

variable (hextra : ∀ x, extra x → x.IsSilent b m) (hshared : ∀ x y, shared x y → CallStep.Similar b m same x y)

include hextra hshared

/-- Plans that agree, but for steps that do nothing but log, are followed alike from alike states. -/
theorem attemptAll_alike {plan plan' : List (CallStep β)} (h : Interspersed extra shared plan plan')
    {s r : CallState τ} (hsr : CallAlike same s r) :
    RowsAlike b m same extra shared (attemptAll b m plan s).1 (attemptAll b m plan' r).1 ∧
      CallAlike same (attemptAll b m plan s).2 (attemptAll b m plan' r).2 := by
  induction h generalizing s r with
  | nil => exact ⟨.nil, hsr⟩
  | @shared x y plan plan' hxy _ ih =>
      obtain ⟨houtcome, hafter, hinvocations⟩ := hshared x y hxy s r hsr
      rw [attemptAll, attemptAll]
      generalize (x.perform b m).start s = left at houtcome hafter ⊢
      generalize (y.perform b m).start r = right at houtcome hafter ⊢
      -- a step that fails ends both rows; otherwise both go on from states that are alike
      obtain ⟨e | u, s'⟩ := left <;> obtain ⟨e' | u', r'⟩ := right <;> cases houtcome
      · exact ⟨.shared ⟨hxy, rfl, hsr, hafter, hinvocations⟩ .nil, hafter⟩
      · obtain ⟨htaken, hlast⟩ := ih hafter
        exact ⟨.shared ⟨hxy, rfl, hsr, hafter, hinvocations⟩ htaken, hlast⟩
  | @extra x plan plan' hx _ ih =>
      obtain ⟨hlogs, hnothing⟩ := hextra x hx
      obtain ⟨events, hperform⟩ := hlogs s
      -- only the first row goes on, and the other state is still alike to where it got
      have hafter : CallAlike same (s.1, s.2.record events) r := ⟨hsr.1, hsr.2.clock, hsr.2.objects, hsr.2.state⟩
      obtain ⟨htaken, hlast⟩ := ih hafter
      rw [attemptAll, hperform]
      exact ⟨.extra ⟨hx, rfl, ⟨events, rfl⟩, hnothing s⟩ htaken, hlast⟩

end

/-! ## Traces -/

/-- Two sets ask for plans that agree, but for extra steps of the first, and handle failures alike. -/
structure AdviceSet.Agree (extra : CallStep β → Prop) (shared : CallStep β → CallStep β → Prop)
    (set set' : AdviceSet β) : Prop where
  before : Interspersed extra shared set.beforePlan set'.beforePlan
  core : Interspersed extra shared (set.corePlan none) (set'.corePlan none)
  afterReturning : Interspersed extra shared (set.afterReturningPlan none) (set'.afterReturningPlan none)
  afterThrowing : ∀ f,
    Interspersed extra shared (set.afterThrowingPlan none (some f)) (set'.afterThrowingPlan none (some f))
  handlers : set.afterThrowing.isEmpty = set'.afterThrowing.isEmpty
  after : Interspersed extra shared (set.afterPlan none) (set'.afterPlan none)

/-- Two traces are alike phase by phase. -/
structure CallTrace.Alike (b : Behaviours β τ) (m : Method β) (same : τ → τ → Prop) (extra : CallStep β → Prop)
    (shared : CallStep β → CallStep β → Prop) (t u : CallTrace β τ) : Prop where
  before : RowsAlike b m same extra shared t.before u.before
  core : RowsAlike b m same extra shared t.core u.core
  afterReturning : RowsAlike b m same extra shared t.afterReturning u.afterReturning
  afterThrowing : RowsAlike b m same extra shared t.afterThrowing u.afterThrowing
  after : RowsAlike b m same extra shared t.after u.after

section

variable {b : Behaviours β τ} {m : Method β} {extra : CallStep β → Prop} {shared : CallStep β → CallStep β → Prop}

namespace CallTrace.Alike

variable {t u : CallTrace β τ} (h : t.Alike b m same extra shared u)

include h

/-- Traces that are alike take all their steps alike. -/
theorem steps : RowsAlike b m same extra shared t.steps u.steps :=
  h.before.append (h.core.append (h.afterReturning.append (h.afterThrowing.append h.after)))

/-- Traces that are alike invoke the method equally often and in alike states. -/
theorem invocations : List.Forall₂ (CallAlike same) (t.invocations b m) (u.invocations b m) :=
  h.steps.forall₂_flatMap (fun _ hx => hx.invokesNothing) fun _ _ hxy => hxy.invocations

/-- Traces that are alike fail alike in the guarded part. -/
theorem guardedFailure? : t.guardedFailure? = u.guardedFailure? :=
  RowsAlike.failure?_eq (h.core.append h.afterReturning)

/-- Traces that are alike end in the same error, if both sets or none have advices for failures. -/
theorem error? {set set' : AdviceSet β} (hhandlers : set.afterThrowing.isEmpty = set'.afterThrowing.isEmpty) :
    t.error? set = u.error? set' := by
  rw [CallTrace.error?, CallTrace.error?, RowsAlike.failure?_eq h.before, RowsAlike.failure?_eq h.after,
    RowsAlike.failure?_eq h.afterThrowing, h.guardedFailure?, hhandlers]

end CallTrace.Alike

namespace AdviceSet.Agree

variable {set set' : AdviceSet β} (h : set.Agree extra shared set') {before before' guarded guarded' : Option Failure}

include h

/-- Sets that agree plan the core alike. -/
theorem corePlan (hbefore : before = before') :
    Interspersed extra shared (set.corePlan before) (set'.corePlan before') := by
  subst hbefore
  cases before with
  | none => exact h.core
  | some f => exact .nil

/-- Sets that agree plan alike what follows the return. -/
theorem afterReturningPlan (hbefore : before = before') :
    Interspersed extra shared (set.afterReturningPlan before) (set'.afterReturningPlan before') := by
  subst hbefore
  cases before with
  | none => exact h.afterReturning
  | some f => exact .nil

/-- Sets that agree plan alike what follows a failure. -/
theorem afterThrowingPlan (hbefore : before = before') (hguarded : guarded = guarded') :
    Interspersed extra shared (set.afterThrowingPlan before guarded) (set'.afterThrowingPlan before' guarded') := by
  subst hbefore hguarded
  rcases before with _ | f <;> rcases guarded with _ | g
  · exact .nil
  · exact h.afterThrowing g
  · exact .nil
  · exact .nil

/-- Sets that agree plan alike what comes last. -/
theorem afterPlan (hbefore : before = before') :
    Interspersed extra shared (set.afterPlan before) (set'.afterPlan before') := by
  subst hbefore
  cases before with
  | none => exact h.after
  | some f => exact .nil

end AdviceSet.Agree

/-- A set agrees with itself if each step agrees with itself. -/
theorem AdviceSet.Agree.refl (hshared : ∀ x, shared x x) (set : AdviceSet β) : set.Agree extra shared set where
  before := .refl hshared _
  core := .refl hshared _
  afterReturning := .refl hshared _
  afterThrowing _ := .refl hshared _
  handlers := rfl
  after := .refl hshared _

variable (hextra : ∀ x, extra x → x.IsSilent b m) (hshared : ∀ x y, shared x y → CallStep.Similar b m same x y)

include hextra hshared

/-- From alike states, sets that agree make traces that are alike. -/
theorem trace_alike {set set' : AdviceSet β} (h : set.Agree extra shared set') {s r : CallState τ}
    (hsr : CallAlike same s r) :
    (set.trace b m s).1.Alike b m same extra shared (set'.trace b m r).1 ∧
      CallAlike same (set.trace b m s).2 (set'.trace b m r).2 := by
  have follow {plan plan' : List (CallStep β)} (hplan : Interspersed extra shared plan plan') {s r : CallState τ}
      (hsr : CallAlike same s r) := attemptAll_alike hextra hshared hplan hsr
  -- what a phase asks for depends only on failures in earlier phases, and these are equal so far
  obtain ⟨hbefore, hs1⟩ := follow h.before hsr
  have hfirst := RowsAlike.failure?_eq hbefore
  obtain ⟨hcore, hs2⟩ := follow (h.corePlan hfirst) hs1
  obtain ⟨hreturned, hs3⟩ := follow (h.afterReturningPlan (RowsAlike.failure?_eq (hbefore.append hcore))) hs2
  obtain ⟨hthrown, hs4⟩ :=
    follow (h.afterThrowingPlan hfirst (RowsAlike.failure?_eq (hcore.append hreturned))) hs3
  obtain ⟨hafter, hlast⟩ := follow (h.afterPlan hfirst) hs4
  exact ⟨⟨hbefore, hcore, hreturned, hthrown, hafter⟩, hlast⟩

end

/-! ## Calls -/

/-- The state in which a call begins; without a set nothing is in the log. -/
def Method.entered (m : Method β) (set : Option (AdviceSet β)) (target : Target) (args : List Value) (w : World τ) :
    CallState τ :=
  match set with
  | none => (JoinPoint.start target m.descriptor args w.clock, w)
  | some set => set.enter target m args w

/-- What a call came to, read off its trace and the state after it. -/
def CallTrace.outcome (t : CallTrace β τ) (set : AdviceSet β) (last : CallState τ) : Except Failure (Option Value) :=
  match t.error? set with
  | some f => .error f
  | none => .ok last.1.result

/-- The step of the method invokes it with the arguments of the join point and keeps what it returns. -/
theorem CallStep.start_perform_original (b : Behaviours β τ) (m : Method β) (s : CallState τ) :
    ((original : CallStep β).perform b m).start s = match (m.invoke b s.1.target s.1.args).start s.2 with
      | (.ok result, left) => (.ok (), (s.1.setResult result, left))
      | (.error f, left) => (.error f, (s.1, left)) := by
  rw [← AdviceSet.original_eq_perform, Action.start_bind]
  unfold Method.proceed
  rw [Action.start_of]
  dsimp only
  rcases (m.invoke b s.1.target s.1.args).start s.2 with ⟨f | result, left⟩ <;> rfl

/-- A call through the empty set takes one step, the method itself. -/
theorem AdviceSet.trace_empty (b : Behaviours β τ) (m : Method β) (s : CallState τ) :
    AdviceSet.empty.trace b m s =
      (⟨[], (attemptAll b m [.original] s).1, [], [], []⟩, (attemptAll b m [.original] s).2) := by
  have hreturning (before : Option Failure) : (empty : AdviceSet β).afterReturningPlan before = [] := by
    cases before <;> rfl
  have hthrowing (before guarded : Option Failure) : (empty : AdviceSet β).afterThrowingPlan before guarded = [] := by
    cases before <;> cases guarded <;> rfl
  unfold trace
  simp only [hreturning, hthrowing]
  rfl

/-- The direct call of a method takes one step, the method itself: it is a call through the empty set. -/
theorem Method.start_advisedBy (b : Behaviours β τ) (m : Method β) (set : Option (AdviceSet β)) (target : Target)
    (args : List Value) (w : World τ) :
    (m.advisedBy b set target args).start w =
      let taken := (set.getD AdviceSet.empty).trace b m (m.entered set target args w)
      (taken.1.outcome (set.getD AdviceSet.empty) taken.2, taken.2.2) := by
  cases set with
  | none =>
      show (m.invoke b target args).start w = _
      rw [Option.getD_none, AdviceSet.trace_empty, attemptAll, CallStep.start_perform_original]
      dsimp only [entered, JoinPoint.start]
      rcases (m.invoke b target args).start w with ⟨f | result, after⟩ <;> rfl
  | some set =>
      have hcall : (m.advisedBy b (some set) target args).start w =
          (((set.runCall b m).start (set.enter target m args w)).1,
            ((set.runCall b m).start (set.enter target m args w)).2.2) := rfl
      rw [hcall, AdviceSet.start_runCall]
      dsimp only [Option.getD_some, CallTrace.outcome, Method.entered]
      cases (set.trace b m (set.enter target m args w)).1.error? set <;> rfl

/-- The steps that a call of a method takes with the advices of a registry, and the state in which they end. -/
structure AdviceRegistry.Takes (b : Behaviours β τ) (r : AdviceRegistry β) (target : Target) (m : Method β)
    (args : List Value) (w : World τ) (t : CallTrace β τ) (last : CallState τ) : Prop where
  follows : t.Follows ((r.adviceSet? m.signature).getD AdviceSet.empty)
  performed : Performed b m (m.entered (r.adviceSet? m.signature) target args w) t.steps last
  comesTo : (r.dispatch b target m args).start w =
    (t.outcome ((r.adviceSet? m.signature).getD AdviceSet.empty) last, last.2)

/-- Two calls of a method come to the same, in worlds that are alike afterwards, and take steps that are alike but for
silent steps that the first has more in between. -/
structure CallsAlike (b : Behaviours β τ) (same : τ → τ → Prop) (extra : CallStep β → Prop)
    (shared : CallStep β → CallStep β → Prop) (r r' : AdviceRegistry β) (target : Target) (m : Method β)
    (args : List Value) (w v : World τ) : Prop where
  outcome : ((r.dispatch b target m args).start w).1 = ((r'.dispatch b target m args).start v).1
  world : ((r.dispatch b target m args).start w).2.Alike same ((r'.dispatch b target m args).start v).2
  steps : ∃ t last u last', r.Takes b target m args w t last ∧ r'.Takes b target m args v u last' ∧
    t.Alike b m same extra shared u ∧ List.Forall₂ (CallAlike same) (t.invocations b m) (u.invocations b m)

section

variable {b : Behaviours β τ} {m : Method β} {extra : CallStep β → Prop} {shared : CallStep β → CallStep β → Prop}

/-- The trace of a set, and without a set that of the empty one, tells the steps of a call. -/
theorem AdviceRegistry.takes_trace (b : Behaviours β τ) (r : AdviceRegistry β) (target : Target) (m : Method β)
    (args : List Value) (w : World τ) :
    let set := r.adviceSet? m.signature
    let taken := (set.getD AdviceSet.empty).trace b m (m.entered set target args w)
    r.Takes b target m args w taken.1 taken.2 := by
  intro set taken
  obtain ⟨hfollows, hrun⟩ :=
    trace_follows_performed b (set.getD AdviceSet.empty) m (m.entered set target args w)
  refine ⟨hfollows, hrun, ?_⟩
  rw [AdviceRegistry.dispatch_eq]
  exact m.start_advisedBy b set target args w

/-- In worlds that are alike, calls begin in states that are alike, with a set of advices or without. -/
theorem Method.entered_alike (m : Method β) (set set' : Option (AdviceSet β)) (target : Target) (args : List Value)
    {w v : World τ} (h : w.Alike same v) :
    CallAlike same (m.entered set target args w) (m.entered set' target args v) := by
  obtain ⟨hclock, hobjects, hstate⟩ := h
  cases set <;> cases set' <;>
    exact ⟨congrArg (JoinPoint.start target m.descriptor args) hclock, hclock, hobjects, hstate⟩

/-- From worlds that are alike, calls through sets that agree are alike. -/
theorem calls_alike (hextra : ∀ x, extra x → x.IsSilent b m)
    (hshared : ∀ x y, shared x y → CallStep.Similar b m same x y) {r r' : AdviceRegistry β}
    (h : ((r.adviceSet? m.signature).getD AdviceSet.empty).Agree extra shared
      ((r'.adviceSet? m.signature).getD AdviceSet.empty)) (target : Target) (args : List Value) {w v : World τ}
    (hworld : w.Alike same v) : CallsAlike b same extra shared r r' target m args w v := by
  have htakes := r.takes_trace b target m args w
  have htakes' := r'.takes_trace b target m args v
  obtain ⟨htrace, hlast⟩ := trace_alike hextra hshared h
    (m.entered_alike (r.adviceSet? m.signature) (r'.adviceSet? m.signature) target args hworld)
  dsimp only at htakes htakes'
  refine ⟨?_, ?_, _, _, _, _, htakes, htakes', htrace, htrace.invocations⟩
  · rw [htakes.comesTo, htakes'.comesTo, CallTrace.outcome, CallTrace.outcome, htrace.error? h.handlers, hlast.1]
  · rw [htakes.comesTo, htakes'.comesTo]
    exact hlast.2

end

namespace Behaviours.Respects

variable {b : Behaviours β τ} {extra : CallStep β → Prop} {shared : CallStep β → CallStep β → Prop}
  {bindings bindings' : Bindings β}

/-- Calls on an instance are similar for any bindings that have the same interceptors and make calls through advices
alike. -/
theorem invokeSignature (hb : b.Respects same) (hinterceptors : bindings.interceptors = bindings'.interceptors)
    (hadvices : ∀ target m args w v, World.Alike same w v →
      CallsAlike b same extra shared bindings.advices bindings'.advices target m args w v) (i : WovenInstance β)
    (signature : Signature) (args : List Value) :
    Action.Similar (World.Alike same) (i.invokeSignature b bindings signature args)
      (i.invokeSignature b bindings' signature args) := by
  unfold WovenInstance.invokeSignature
  split
  next => exact Action.similar_throw _
  next m _ =>
    unfold Dispatcher.dispatch
    split
    next =>
      intro w v hworld
      have hcalls := hadvices i.target m args w v hworld
      exact ⟨hcalls.outcome, hcalls.world⟩
    next =>
      rw [hinterceptors]
      exact hb.intercepted _ i.target m args

/-- Where code does not depend on the log, a call on an instance is similar to itself. -/
theorem invokeSignature_self (hb : b.Respects same) (bindings : Bindings β) (i : WovenInstance β)
    (signature : Signature) (args : List Value) :
    Action.Similar (World.Alike same) (i.invokeSignature b bindings signature args)
      (i.invokeSignature b bindings signature args) := by
  have hadvices (target : Target) (m : Method β) (args : List Value) (w v : World τ) (hworld : w.Alike same v) :
      CallsAlike b same (fun _ => False) Eq bindings.advices bindings.advices target m args w v := by
    refine calls_alike nofun ?_ (.refl (fun _ => rfl) _) target args hworld
    rintro x _ rfl
    exact CallStep.Similar.refl hb m x
  exact hb.invokeSignature rfl hadvices i signature args

end Behaviours.Respects

end AspectWeaver

import AspectWeaver.Proofs.Call.Steps

/-!
# The trace of a call

A call through a set of advices follows five plans, one for each phase; whether and how a later phase is
entered depends on the failures of the earlier ones. A `CallTrace` holds the steps that were taken, phase
by phase, and `CallTrace.Follows` says that they are those that the set asks for. The top is
`start_runCall`: the call ends where its trace ends, and its outcome is read off the failures in it.
-/

set_option autoImplicit false

namespace AspectWeaver

variable {β τ : Type}

/-! ## The plans of the phases -/

namespace AdviceSet

/-- First the before advices, in the order of their list. -/
def beforePlan (set : AdviceSet β) : List (CallStep β) := set.before.map .before

/-- Then the around advices in the order of their list, or the method itself if there are none; nothing
after a failure before. -/
def corePlan (set : AdviceSet β) : (before : Option Failure) → List (CallStep β)
  | some _ => []
  | none => match set.around with
    | [] => [.original]
    | advices => advices.map .around

/-- Then the afterReturning advices, from the end of their list to its beginning; nothing after an
earlier failure. -/
def afterReturningPlan (set : AdviceSet β) : (earlier : Option Failure) → List (CallStep β)
  | some _ => []
  | none => set.afterReturning.reverse.map .afterReturning

/-- Then, if the guarded part failed, the afterThrowing advices in the order of their list, each of which
is told the failure. -/
def afterThrowingPlan (set : AdviceSet β) : (before guarded : Option Failure) → List (CallStep β)
  | none, some f => set.afterThrowing.map fun a => .afterThrowing a f
  | _, _ => []

/-- At last the after advices, from the end of their list to its beginning, unless a before advice
failed. -/
def afterPlan (set : AdviceSet β) : (before : Option Failure) → List (CallStep β)
  | some _ => []
  | none => set.after.reverse.map .after

end AdviceSet

/-! ## Traces -/

/-- The steps that a call took, phase by phase. -/
structure CallTrace (β τ : Type) where
  before : List (TakenStep β τ)
  /-- The around advices, or the method itself. -/
  core : List (TakenStep β τ)
  afterReturning : List (TakenStep β τ)
  afterThrowing : List (TakenStep β τ)
  after : List (TakenStep β τ)

namespace CallTrace

/-- All steps, in the order in which they were taken. -/
def steps (t : CallTrace β τ) : List (TakenStep β τ) :=
  t.before ++ (t.core ++ (t.afterReturning ++ (t.afterThrowing ++ t.after)))

/-- The failure of the guarded part: of the around advices, the method or an afterReturning advice. -/
def guardedFailure? (t : CallTrace β τ) : Option Failure := failure? (t.core ++ t.afterReturning)

/-- The steps are those that a set of advices asks for. -/
structure Follows (t : CallTrace β τ) (set : AdviceSet β) : Prop where
  before : UpToFailure set.beforePlan t.before
  core : UpToFailure (set.corePlan (failure? t.before)) t.core
  afterReturning : UpToFailure (set.afterReturningPlan (failure? (t.before ++ t.core))) t.afterReturning
  afterThrowing : UpToFailure (set.afterThrowingPlan (failure? t.before) t.guardedFailure?) t.afterThrowing
  after : UpToFailure (set.afterPlan (failure? t.before)) t.after

/-- The failure that a call ends with: the first there is of that of a before advice, that of an after
advice, that of an afterThrowing advice, and that of the guarded part if no advice takes it away. -/
def error? (t : CallTrace β τ) (set : AdviceSet β) : Option Failure :=
  (failure? t.before).or <| (failure? t.after).or <| (failure? t.afterThrowing).or <|
    if set.afterThrowing.isEmpty then t.guardedFailure? else none

end CallTrace

/-- The trace of a call that starts in a state, and the state after it. -/
def AdviceSet.trace (b : Behaviours β τ) (set : AdviceSet β) (m : Method β) (s : CallState τ) :
    CallTrace β τ × CallState τ :=
  let before := attemptAll b m set.beforePlan s
  let core := attemptAll b m (set.corePlan (failure? before.1)) before.2
  let returned := attemptAll b m (set.afterReturningPlan (failure? (before.1 ++ core.1))) core.2
  let thrown := attemptAll b m
    (set.afterThrowingPlan (failure? before.1) (failure? (core.1 ++ returned.1))) returned.2
  let after := attemptAll b m (set.afterPlan (failure? before.1)) thrown.2
  (⟨before.1, core.1, returned.1, thrown.1, after.1⟩, after.2)

/-- The trace of a call is the one row of steps that its set asks for and that is taken from there. -/
theorem follows_performed_iff (b : Behaviours β τ) (set : AdviceSet β) (m : Method β)
    (s s' : CallState τ) (t : CallTrace β τ) :
    t.Follows set ∧ Performed b m s t.steps s' ↔ (t, s') = set.trace b m s := by
  constructor
  · rintro ⟨h, hrun⟩
    simp only [CallTrace.steps, performed_append] at hrun
    obtain ⟨s1, hbefore, s2, hcore, s3, hreturned, s4, hthrown, hafter⟩ := hrun
    have h1 := (performed_upToFailure_iff b m _ s s1 t.before).mp ⟨h.before, hbefore⟩
    have h2 := (performed_upToFailure_iff b m _ s1 s2 t.core).mp ⟨h.core, hcore⟩
    have h3 := (performed_upToFailure_iff b m _ s2 s3 t.afterReturning).mp ⟨h.afterReturning, hreturned⟩
    have h4 := (performed_upToFailure_iff b m _ s3 s4 t.afterThrowing).mp ⟨h.afterThrowing, hthrown⟩
    have h5 := (performed_upToFailure_iff b m _ s4 s' t.after).mp ⟨h.after, hafter⟩
    rw [CallTrace.guardedFailure?] at h4
    simp only [AdviceSet.trace, ← h1, ← h2, ← h3, ← h4, ← h5]
  · intro h
    obtain ⟨rfl, rfl⟩ := Prod.mk.inj h
    refine ⟨⟨?_, ?_, ?_, ?_, ?_⟩, ?_⟩
    · exact upToFailure_attemptAll b m _ _
    · exact upToFailure_attemptAll b m _ _
    · exact upToFailure_attemptAll b m _ _
    · exact upToFailure_attemptAll b m _ _
    · exact upToFailure_attemptAll b m _ _
    · simp only [CallTrace.steps, performed_append]
      exact ⟨_, performed_attemptAll b m _ _, _, performed_attemptAll b m _ _, _,
        performed_attemptAll b m _ _, _, performed_attemptAll b m _ _, performed_attemptAll b m _ _⟩

/-- The trace of a set follows its plans and is performed from the state in which the call begins. -/
theorem trace_follows_performed (b : Behaviours β τ) (set : AdviceSet β) (m : Method β)
    (s : CallState τ) :
    (set.trace b m s).1.Follows set ∧ Performed b m s (set.trace b m s).1.steps (set.trace b m s).2 :=
  (follows_performed_iff b set m s (set.trace b m s).2 (set.trace b m s).1).mpr rfl

/-! ## The call and its trace -/

namespace AdviceSet

variable (b : Behaviours β τ) (m : Method β)

/-- Running an advice before or after the method is performing its step. -/
theorem runOne_eq_perform (a : Advised β) :
    runOne b .before a = (CallStep.before a).perform b m ∧
    runOne b .afterReturning a = (CallStep.afterReturning a).perform b m ∧
    runOne b .after a = (CallStep.after a).perform b m := by
  simp only [CallStep.perform, CallStep.announce, CallStep.advice?, CallStep.code, CallStep.store,
    bind_assoc, pure_bind, bind_pure_unit]
  exact ⟨rfl, rfl, rfl⟩

/-- Running an advice around the method is performing its step. -/
theorem runAround_eq_perform (a : Advised β) : runAround b m a = (CallStep.around a).perform b m := by
  simp only [CallStep.perform, CallStep.announce, CallStep.advice?, CallStep.code, CallStep.store,
    bind_assoc, pure_bind]
  rfl

/-- Running an advice that is told a failure is performing its step. -/
theorem runThrowing_eq_perform (f : Failure) (a : Advised β) :
    runThrowing b f a = (CallStep.afterThrowing a f).perform b m := by
  simp only [CallStep.perform, CallStep.announce, CallStep.advice?, CallStep.code, CallStep.store,
    bind_assoc, pure_bind, bind_pure_unit]
  rfl

/-- Letting the call proceed and keeping its result is performing the step of the method. -/
theorem original_eq_perform :
    (do let result ← m.proceed b; storeResult result) = (CallStep.original : CallStep β).perform b m := by
  simp only [CallStep.perform, CallStep.announce, CallStep.advice?, CallStep.code, CallStep.store,
    bind_assoc, pure_bind]

/-- Running the advices of a list one after the other is taking the steps of a plan. -/
theorem forM_eq_perform {run : Advised β → Action (CallState τ) Unit} {step : Advised β → CallStep β}
    (h : ∀ a, run a = (step a).perform b m) (advices : List (Advised β)) :
    advices.forM run = (advices.map step).forM (CallStep.perform b m) := by
  rw [List.forM_eq_forM, List.forM_eq_forM, List.forM_map]
  congr 1
  exact funext h

/-- Running the core of a call is performing the steps of its plan. -/
theorem runCore_eq_forM (set : AdviceSet β) :
    set.runCore b m = (set.corePlan none).forM (CallStep.perform b m) := by
  unfold runCore corePlan
  cases set.around with
  | nil =>
      dsimp only
      rw [original_eq_perform, List.forM_eq_forM, List.forM_cons, List.forM_nil, bind_pure_unit]
  | cons a advices => exact forM_eq_perform b m (runAround_eq_perform b m) (a :: advices)

/-- The guarded part takes the steps of its two plans and comes to its first failure. -/
theorem start_runGuarded (set : AdviceSet β) (s : CallState τ) :
    (set.runGuarded b m).start s =
      let core := attemptAll b m (set.corePlan none) s
      let returned := attemptAll b m (set.afterReturningPlan (failure? core.1)) core.2
      (outcomeOf (failure? (core.1 ++ returned.1)), returned.2) := by
  unfold runGuarded
  rw [Action.start_bind, runCore_eq_forM, start_forM_perform]
  dsimp only
  rw [failure?_append]
  cases failure? (attemptAll b m (set.corePlan none) s).1 with
  | some f => rfl
  | none =>
      simp only [outcomeOf, Option.none_or]
      rw [forM_eq_perform b m (fun a => (runOne_eq_perform b m a).2.1), start_forM_perform]
      rfl

/-- After the guarded part, the afterThrowing advices are told its failure, if there is one; what stays
is the failure of one of them, or that of the guarded part if there are none. -/
theorem start_settle (set : AdviceSet β) (guarded : Option Failure) (s : CallState τ) :
    (set.settle b (outcomeOf guarded)).start s =
      let thrown := attemptAll b m (set.afterThrowingPlan none guarded) s
      (.ok ((failure? thrown.1).or (if set.afterThrowing.isEmpty then guarded else none)), thrown.2) := by
  unfold settle
  cases guarded with
  | none => simp [outcomeOf, afterThrowingPlan, attemptAll, failure?]
  | some f =>
      simp only [outcomeOf, afterThrowingPlan]
      cases set.afterThrowing with
      | nil => simp [attemptAll, failure?]
      | cons a advices =>
          dsimp only
          rw [Action.start_bind, forM_eq_perform b m (runThrowing_eq_perform b m f), Action.start_attempt,
            start_forM_perform]
          cases failure? (attemptAll b m ((a :: advices).map fun a => .afterThrowing a f) s).1 <;> rfl

/-- A call ends in the state in which its trace ends, with the failure that its trace shows or the result
that the join point holds there. -/
theorem start_runCall (set : AdviceSet β) (s : CallState τ) :
    (set.runCall b m).start s =
      let (t, last) := set.trace b m s
      match t.error? set with
      | some f => (.error f, last)
      | none => (.ok last.1.result, (last.1.setResult none, last.2)) := by
  unfold runCall trace
  rw [Action.start_bind, forM_eq_perform b m (fun a => (runOne_eq_perform b m a).1), start_forM_perform]
  rw [show set.before.map CallStep.before = set.beforePlan from rfl]
  generalize attemptAll b m set.beforePlan s = before
  cases hbefore : failure? before.1 with
  | some f =>
      simp [outcomeOf, corePlan, afterReturningPlan, afterThrowingPlan, afterPlan, attemptAll,
        hbefore, CallTrace.error?]
  | none =>
      simp only [outcomeOf, failure?_append, hbefore, Option.none_or]
      rw [Action.start_bind, Action.start_attempt, start_runGuarded]
      dsimp only
      rw [Action.start_bind, start_settle b m]
      dsimp only
      rw [Action.start_bind, forM_eq_perform b m (fun a => (runOne_eq_perform b m a).2.2),
        start_forM_perform]
      rw [show set.after.reverse.map CallStep.after = set.afterPlan none from rfl]
      simp only [CallTrace.error?, CallTrace.guardedFailure?, hbefore, Option.none_or, failure?_append]
      generalize attemptAll b m (set.corePlan none) before.2 = core
      generalize attemptAll b m (set.afterReturningPlan (failure? core.1)) core.2 = returned
      generalize (failure? core.1).or (failure? returned.1) = guarded
      generalize attemptAll b m (set.afterThrowingPlan none guarded) returned.2 = thrown
      generalize attemptAll b m (set.afterPlan none) thrown.2 = after
      -- a failure of an after advice comes before all that is pending
      cases failure? after.1 with
      | some f => rfl
      | none =>
          simp only [outcomeOf, Option.none_or]
          cases (failure? thrown.1).or (if set.afterThrowing.isEmpty then guarded else none) <;> rfl

end AdviceSet

/-! ## The call of a method with advices -/

/-- The state in which a call through a set of advices begins: the join point is new, and the call is
in the log. -/
def AdviceSet.enter (set : AdviceSet β) (target : Target) (m : Method β) (args : List Value)
    (w : World τ) : CallState τ :=
  (JoinPoint.start target m.descriptor args w.clock,
    w.record [⟨.trace, "Dispatching through advices",
      [("signature", .text m.signature.text), ("advices", .number set.size)]⟩])

/-- A call of a method with advices ends in the world in which its trace ends. -/
theorem start_dispatch {r : AdviceRegistry β} {m : Method β} {set : AdviceSet β}
    (h : r.adviceSet? m.signature = some set) (b : Behaviours β τ) (target : Target)
    (args : List Value) (w : World τ) :
    (r.dispatch b target m args).start w =
      let (t, last) := set.trace b m (set.enter target m args w)
      (match t.error? set with
        | some f => .error f
        | none => .ok last.1.result, last.2) := by
  unfold AdviceRegistry.dispatch
  rw [h]
  dsimp only
  rw [Action.start_bind]
  show (let (outcome, (_, after)) := (set.runCall b m).start (set.enter target m args w)
    (outcome, after)) = _
  rw [AdviceSet.start_runCall]
  dsimp only
  cases (set.trace b m (set.enter target m args w)).1.error? set <;> rfl

/-! ## A rehearsal -/

namespace Rehearsal

/-- Code is a number that it notes in the world, where the number zero fails. -/
def note (code : Nat) : Action (World (List Nat)) Unit :=
  Action.of fun w =>
    (if code = 0 then .error (Failure.ofText "Nothing to note") else .ok (), w.update (· ++ [code]))

def behaviours : Behaviours Nat (List Nat) where
  method code _ args := do
    note code
    pure args.head?
  advice code := Action.onSecond (note code)
  throwing code _ := Action.onSecond (note code)
  around code := do
    Around.ofAction (Action.onSecond (note code))
    Around.proceedOrFail
  intercept _ := Around.proceedOrFail

def target : Target := ⟨"Actor", 0⟩

def method : Method Nat := ⟨⟨"Stage", "play", []⟩, .typed "Actor" 4, none⟩

def advised (code : Nat) : Advised Nat := ⟨"note", 0, .custom code⟩

/-- Advices of all kinds; of those after the method returned, the one that runs first fails. -/
def advices : AdviceSet Nat :=
  ⟨[advised 1, advised 2], [advised 8, advised 7], [advised 3], [advised 5, advised 0], [advised 6]⟩

def registry : AdviceRegistry Nat := ⟨Table.empty.insert method.signature advices, []⟩

/-- The registry of the rehearsal holds its advices. -/
theorem adviceSet?_registry : registry.adviceSet? method.signature = some advices := by
  unfold registry AdviceRegistry.adviceSet?
  rw [Table.get?_insert, if_pos rfl]

end Rehearsal

end AspectWeaver

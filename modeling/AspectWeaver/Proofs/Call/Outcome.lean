import AspectWeaver.Proofs.Call.Trace

/-!
# What a call comes to

The top of this file is `dispatch_outcome`: a call through a set of advices ends with the failure that its
trace shows (`CallTrace.error?`), or with what was written last into the result of the join point. Written
are what the code of a step leaves there and what the call itself stores after the method and after each
around advice that succeeded.
-/

set_option autoImplicit false

namespace AspectWeaver

variable {β τ : Type} (b : Behaviours β τ) (m : Method β)

/-! ## The result of the join point -/

/-- What a step that was taken wrote into the result of the join point, in order: a change that its code
made there, and the result that its code gave to be stored. -/
def TakenStep.writes (x : TakenStep β τ) : List (Option Value) :=
  let (outcome, left) := (x.step.code b m).start (x.step.announced x.start)
  (if left.1.result = x.start.1.result then [] else [left.1.result]) ++
    match outcome with
    | .ok (some result) => [result]
    | _ => []

/-- What a call wrote into the result of the join point, in order. -/
def CallTrace.writes (t : CallTrace β τ) : List (Option Value) := t.steps.flatMap (TakenStep.writes b m)

/-- The last of two lists, one behind the other, is that of the second if it is not empty. -/
theorem getLastD_append {α : Type} (xs ys : List α) (a : α) :
    (xs ++ ys).getLastD a = ys.getLastD (xs.getLastD a) := by
  rw [List.getLastD_eq_getLast?, List.getLastD_eq_getLast?, List.getLastD_eq_getLast?, List.getLast?_append]
  cases ys.getLast? <;> rfl

/-- After a step the join point holds what the step wrote last, or else what it held before. -/
theorem result_finish (x : TakenStep β τ)
    (hx : (x.step.perform b m).start x.start = (x.outcome, x.finish)) :
    x.finish.1.result = (x.writes b m).getLastD x.start.1.result := by
  have hleft (left : CallState τ) :
      (if left.1.result = x.start.1.result then [] else [left.1.result]).getLastD x.start.1.result =
        left.1.result := by
    split
    next hsame => exact hsame.symm
    next => rfl
  rw [CallStep.start_perform] at hx
  unfold TakenStep.writes
  rcases hcode : (x.step.code b m).start (x.step.announced x.start) with ⟨(f | (_ | result)), left⟩
  all_goals
    rw [hcode] at hx
    obtain ⟨-, hfinish⟩ := Prod.mk.inj hx
    rw [← hfinish]
    dsimp only
    rw [getLastD_append, hleft]
  · rfl
  · rfl
  · rfl

/-- After a row of steps the join point holds what they wrote last, or else what it held before. -/
theorem result_of_performed {s s' : CallState τ} {taken : List (TakenStep β τ)}
    (hrun : Performed b m s taken s') :
    s'.1.result = (taken.flatMap (TakenStep.writes b m)).getLastD s.1.result := by
  induction taken generalizing s with
  | nil =>
      rw [Performed] at hrun
      rw [← hrun]
      rfl
  | cons x taken ih =>
      obtain ⟨rfl, hx, hrest⟩ := hrun
      rw [List.flatMap_cons, getLastD_append, ← result_finish b m x hx]
      exact ih hrest

/-! ## Failures -/

/-- Steps that were taken one after the other were each taken from the state before them. -/
theorem start_of_performed {s s' : CallState τ} {taken : List (TakenStep β τ)}
    (hrun : Performed b m s taken s') {x : TakenStep β τ} (hx : x ∈ taken) :
    (x.step.perform b m).start x.start = (x.outcome, x.finish) := by
  induction taken generalizing s with
  | nil => cases hx
  | cons y taken ih =>
      obtain ⟨rfl, hy, hrest⟩ := hrun
      rcases List.mem_cons.mp hx with rfl | hx
      · exact hy
      · exact ih hrest hx

/-- A step fails with the very failure that its code raised. -/
theorem code_of_outcome {x : TakenStep β τ} {f : Failure}
    (hx : (x.step.perform b m).start x.start = (x.outcome, x.finish)) (hf : x.outcome = .error f) :
    ((x.step.code b m).start (x.step.announced x.start)).1 = .error f := by
  rw [CallStep.start_perform, hf] at hx
  rcases hcode : (x.step.code b m).start (x.step.announced x.start) with ⟨(g | (_ | result)), left⟩
  · rw [hcode] at hx
    obtain ⟨hg, -⟩ := Prod.mk.inj hx
    cases hg
    rfl
  · rw [hcode] at hx
    cases hx
  · rw [hcode] at hx
    cases hx

/-- The failure that a trace shows was raised by one of its steps. -/
theorem CallTrace.exists_of_error? {t : CallTrace β τ} {set : AdviceSet β} {f : Failure}
    (h : t.error? set = some f) : ∃ x ∈ t.steps, x.outcome = .error f := by
  have hmem : ∀ taken : List (TakenStep β τ), taken ⊆ t.steps → failure? taken = some f →
      ∃ x ∈ t.steps, x.outcome = .error f := by
    intro taken hsub hf
    obtain ⟨x, hx, hout⟩ := exists_of_failure? hf
    exact ⟨x, hsub hx, hout⟩
  rw [error?, Option.or_eq_some_iff, Option.or_eq_some_iff, Option.or_eq_some_iff] at h
  rcases h with hbefore | ⟨-, hafter | ⟨-, hthrown | ⟨-, hguarded⟩⟩⟩
  · exact hmem t.before (fun x hx => by simp [steps, hx]) hbefore
  · exact hmem t.after (fun x hx => by simp [steps, hx]) hafter
  · exact hmem t.afterThrowing (fun x hx => by simp [steps, hx]) hthrown
  · have hguarded : t.guardedFailure? = some f := by
      by_cases hempty : set.afterThrowing.isEmpty
      · simpa [hempty] using hguarded
      · simp [hempty] at hguarded
    refine hmem (t.core ++ t.afterReturning) (fun x hx => ?_) hguarded
    rcases List.mem_append.mp hx with hx | hx
    · simp [steps, hx]
    · simp [steps, hx]

/-- The afterThrowing advices that ran were told the failure of the guarded part. -/
theorem CallTrace.Follows.told {t : CallTrace β τ} {set : AdviceSet β} (h : t.Follows set)
    {x : TakenStep β τ} (hx : x ∈ t.afterThrowing) :
    ∃ a f, x.step = .afterThrowing a f ∧ t.guardedFailure? = some f := by
  have hplan : x.step ∈ set.afterThrowingPlan (failure? t.before) t.guardedFailure? :=
    h.afterThrowing.isPrefix.subset (List.mem_map_of_mem hx)
  unfold AdviceSet.afterThrowingPlan at hplan
  split at hplan
  next f hbefore hguarded =>
    obtain ⟨a, -, ha⟩ := List.mem_map.mp hplan
    exact ⟨a, f, ha.symm, hguarded⟩
  next => cases hplan

/-! ## The outcome -/

/-- A call of a method with advices fails exactly with the failure that its trace shows: that of a before
advice, or else of an after advice, or else of an afterThrowing advice, or else of the guarded part where
there are no afterThrowing advices. Otherwise it returns what was written last into the result of the join
point. What it fails with is what the code of a step raised, and every afterThrowing advice that ran was
told the failure of the guarded part. -/
theorem dispatch_outcome (r : AdviceRegistry β) (set : AdviceSet β) (target : Target) (args : List Value)
    (w : World τ) (h : r.adviceSet? m.signature = some set) :
    ∃ (t : CallTrace β τ) (last : CallState τ),
      t.Follows set ∧ Performed b m (set.enter target m args w) t.steps last ∧
      ((r.dispatch b target m args).start w).1 = (match t.error? set with
        | some f => .error f
        | none => .ok ((t.writes b m).getLastD none)) ∧
      (∀ f, ((r.dispatch b target m args).start w).1 = .error f →
        ∃ x ∈ t.steps, ((x.step.code b m).start (x.step.announced x.start)).1 = .error f) ∧
      ∀ x ∈ t.afterThrowing, ∃ a f, x.step = .afterThrowing a f ∧ t.guardedFailure? = some f := by
  obtain ⟨hfollows, hrun⟩ := trace_follows_performed b set m (set.enter target m args w)
  refine ⟨_, _, hfollows, hrun, ?_, ?_, fun x hx => hfollows.told hx⟩
  · have hresult := result_of_performed b m hrun
    rw [start_dispatch h]
    dsimp only
    rw [hresult]
    rfl
  · intro f hf
    rw [start_dispatch h] at hf
    dsimp only at hf
    cases herror : (set.trace b m (set.enter target m args w)).1.error? set with
    | none =>
        rw [herror] at hf
        cases hf
    | some g =>
        rw [herror] at hf
        cases hf
        obtain ⟨x, hx, hout⟩ := CallTrace.exists_of_error? herror
        exact ⟨x, hx, code_of_outcome b m (start_of_performed b m hrun hx) hout⟩

section

open Rehearsal

/-- A failure after the method returned is taken away, and the call still gives what the method returned. -/
theorem dispatch_outcome_rehearsal :
    registry.adviceSet? method.signature = some advices ∧
    ∃ (t : CallTrace Nat (List Nat)) (last : CallState (List Nat)),
      t.Follows advices ∧
      Performed behaviours method (advices.enter target method [.bool true] (World.initial [])) t.steps last ∧
      t.guardedFailure? = some (Failure.ofText "Nothing to note") ∧ t.error? advices = none ∧
      (t.writes behaviours method).getLastD none = some (.bool true) := by
  refine ⟨adviceSet?_registry, ?_⟩
  obtain ⟨t, last, hfollows, hrun, houtcome, -, -⟩ := dispatch_outcome behaviours method registry advices target
    [.bool true] (World.initial []) adviceSet?_registry
  have ht := (follows_performed_iff behaviours advices method _ last t).mp ⟨hfollows, hrun⟩
  have ht : t = _ := congrArg Prod.fst ht
  have herror : t.error? advices = none := by
    rw [ht]
    rfl
  refine ⟨t, last, hfollows, hrun, ?_, herror, ?_⟩
  · rw [ht]
    rfl
  · rw [herror, start_dispatch adviceSet?_registry] at houtcome
    exact (Except.ok.inj houtcome).symm

end

end AspectWeaver

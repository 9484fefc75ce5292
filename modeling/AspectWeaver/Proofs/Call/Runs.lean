import AspectWeaver.Proofs.Call.Trace

/-!
# Which advices a call runs

Of each kind, a call runs advices in one of its phases only (`CallTrace.ran_eq_filterMap_phase`). A phase that
ends without a failure has run all that its plan asks for, so the advices that ran are those of the list of
their kind, and the two kinds that run after the method ran from the end of their list to its beginning
(`CallTrace.Follows.ran_eq`).
-/

set_option autoImplicit false

namespace AspectWeaver

variable {β τ : Type}

/-- The advice that a step runs, if it is of a given kind. -/
def CallStep.ofKind? (kind : AdviceKind) (step : CallStep β) : Option (Advised β) :=
  step.advice?.bind fun x => if x.1 = kind then some x.2 else none

namespace CallTrace

/-- The advices of a kind that a call ran, in order. -/
def ran (t : CallTrace β τ) (kind : AdviceKind) : List (Advised β) :=
  t.steps.filterMap fun x => x.step.ofKind? kind

/-- The phase in which the advices of a kind run. -/
def phase (t : CallTrace β τ) : AdviceKind → List (TakenStep β τ)
  | .before => t.before
  | .around => t.core
  | .afterReturning => t.afterReturning
  | .afterThrowing => t.afterThrowing
  | .after => t.after

/-- What a set of advices asks for in that phase. -/
def plan (t : CallTrace β τ) (set : AdviceSet β) : AdviceKind → List (CallStep β)
  | .before => set.beforePlan
  | .around => set.corePlan (failure? t.before)
  | .afterReturning => set.afterReturningPlan (failure? (t.before ++ t.core))
  | .afterThrowing => set.afterThrowingPlan (failure? t.before) t.guardedFailure?
  | .after => set.afterPlan (failure? t.before)

variable {t : CallTrace β τ} {set : AdviceSet β}

/-- In each phase a trace follows the plan of this phase up to its first failure. -/
theorem Follows.phase (h : t.Follows set) (kind : AdviceKind) : UpToFailure (t.plan set kind) (t.phase kind) := by
  cases kind with
  | before => exact h.before
  | around => exact h.core
  | afterReturning => exact h.afterReturning
  | afterThrowing => exact h.afterThrowing
  | after => exact h.after

/-- The plan of a phase runs advices of the list of its kind, or the method. -/
theorem advice?_of_mem_plan {phase : AdviceKind} {step : CallStep β} (h : step ∈ t.plan set phase) :
    step.advice? = none ∨ ∃ a ∈ set.ofKind phase, step.advice? = some (phase, a) := by
  have hmap {f : Advised β → CallStep β} (hf : ∀ a, (f a).advice? = some (phase, a)) {advices : List (Advised β)}
      (hmem : step ∈ advices.map f) : ∃ a ∈ advices, step.advice? = some (phase, a) := by
    obtain ⟨a, ha, rfl⟩ := List.mem_map.mp hmem
    exact ⟨a, ha, hf a⟩
  have hreverse {f : Advised β → CallStep β} (hf : ∀ a, (f a).advice? = some (phase, a))
      {advices : List (Advised β)} (hmem : step ∈ advices.reverse.map f) :
      ∃ a ∈ advices, step.advice? = some (phase, a) := by
    obtain ⟨a, ha, hstep⟩ := hmap hf hmem
    exact ⟨a, List.mem_reverse.mp ha, hstep⟩
  cases phase with
  | before => exact Or.inr (hmap (fun _ => rfl) h)
  | around =>
      dsimp only [plan] at h
      unfold AdviceSet.corePlan at h
      split at h
      next => cases h
      next =>
        split at h
        next =>
          rw [List.mem_singleton.mp h]
          exact Or.inl rfl
        next => exact Or.inr (hmap (fun _ => rfl) h)
  | afterReturning =>
      dsimp only [plan] at h
      unfold AdviceSet.afterReturningPlan at h
      split at h
      next => cases h
      next => exact Or.inr (hreverse (fun _ => rfl) h)
  | afterThrowing =>
      dsimp only [plan] at h
      unfold AdviceSet.afterThrowingPlan at h
      split at h
      next => exact Or.inr (hmap (fun _ => rfl) h)
      next => cases h
  | after =>
      dsimp only [plan] at h
      unfold AdviceSet.afterPlan at h
      split at h
      next => cases h
      next => exact Or.inr (hreverse (fun _ => rfl) h)

/-- The plan of a phase runs no advices of other kinds. -/
theorem ofKind?_of_mem_plan {phase kind : AdviceKind} (hne : phase ≠ kind) {step : CallStep β}
    (h : step ∈ t.plan set phase) : step.ofKind? kind = none := by
  rw [CallStep.ofKind?]
  rcases advice?_of_mem_plan h with hnone | ⟨a, -, hsome⟩
  · rw [hnone, Option.bind_none]
  · rw [hsome, Option.bind_some, if_neg hne]

/-- The advices of a kind run in the phase of the kind. -/
theorem Follows.ran_eq_filterMap_phase (h : t.Follows set) (kind : AdviceKind) :
    t.ran kind = (t.phase kind).filterMap fun x => x.step.ofKind? kind := by
  have hnone (phase : AdviceKind) (hne : phase ≠ kind) :
      ((t.phase phase).filterMap fun x => x.step.ofKind? kind) = [] := by
    rw [List.filterMap_eq_nil_iff]
    intro x hx
    exact ofKind?_of_mem_plan hne ((h.phase phase).isPrefix.subset (List.mem_map_of_mem hx))
  have hbefore := hnone .before
  have haround := hnone .around
  have hreturning := hnone .afterReturning
  have hthrowing := hnone .afterThrowing
  have hafter := hnone .after
  unfold ran steps
  simp only [List.filterMap_append]
  dsimp only [CallTrace.phase] at hbefore haround hreturning hthrowing hafter ⊢
  cases kind <;> simp [hbefore, haround, hreturning, hthrowing, hafter]

/-- A call runs no advices but those of its set. -/
theorem Follows.mem_ofKind (h : t.Follows set) {kind : AdviceKind} {a : Advised β} (ha : a ∈ t.ran kind) :
    a ∈ set.ofKind kind := by
  rw [h.ran_eq_filterMap_phase] at ha
  obtain ⟨x, hx, ha⟩ := List.mem_filterMap.mp ha
  have hplan : x.step ∈ t.plan set kind := (h.phase kind).isPrefix.subset (List.mem_map_of_mem hx)
  rw [CallStep.ofKind?] at ha
  rcases advice?_of_mem_plan hplan with hnone | ⟨a', ha', hsome⟩
  · rw [hnone] at ha
    cases ha
  · rw [hsome, Option.bind_some, if_pos rfl] at ha
    rwa [← Option.some.inj ha]

/-- A phase without a failure has run the advices of its plan. -/
theorem Follows.ran_of_success (h : t.Follows set) (kind : AdviceKind) (hsuccess : failure? (t.phase kind) = none) :
    t.ran kind = (t.plan set kind).filterMap (CallStep.ofKind? kind) := by
  rw [h.ran_eq_filterMap_phase, ← (h.phase kind).whole_of_success hsuccess, List.filterMap_map]
  rfl

/-- Steps that run advices of one kind give these advices back. -/
theorem filterMap_ofKind?_map {kind : AdviceKind} {f : Advised β → CallStep β}
    (hf : ∀ a, (f a).advice? = some (kind, a)) (advices : List (Advised β)) :
    (advices.map f).filterMap (CallStep.ofKind? kind) = advices := by
  have hsome (a : Advised β) : (CallStep.ofKind? kind ∘ f) a = some a := by
    rw [Function.comp_apply, CallStep.ofKind?, hf, Option.bind_some, if_pos rfl]
  rw [List.filterMap_map, funext hsome, List.filterMap_some]

/-- In a call whose before advices all succeeded, the advices of a phase without a failure are those of their
list. -/
theorem Follows.ran_eq (h : t.Follows set) (hbefore : failure? t.before = none) :
    t.ran .before = set.before ∧
    (failure? t.core = none → t.ran .around = set.around) ∧
    (t.guardedFailure? = none → t.ran .afterReturning = set.afterReturning.reverse) ∧
    (failure? t.after = none → t.ran .after = set.after.reverse) := by
  refine ⟨?_, ?_, ?_, ?_⟩
  · rw [h.ran_of_success .before hbefore]
    exact filterMap_ofKind?_map (fun _ => rfl) set.before
  · intro hcore
    rw [h.ran_of_success .around hcore]
    dsimp only [plan]
    unfold AdviceSet.corePlan
    rw [hbefore]
    dsimp only
    split
    next hempty => rw [hempty]; rfl
    next => exact filterMap_ofKind?_map (fun _ => rfl) _
  · intro hguarded
    rw [guardedFailure?, failure?_append, Option.or_eq_none_iff] at hguarded
    rw [h.ran_of_success .afterReturning hguarded.2]
    dsimp only [plan]
    unfold AdviceSet.afterReturningPlan
    rw [failure?_append, hbefore, hguarded.1]
    exact filterMap_ofKind?_map (fun _ => rfl) _
  · intro hafter
    rw [h.ran_of_success .after hafter]
    dsimp only [plan]
    unfold AdviceSet.afterPlan
    rw [hbefore]
    exact filterMap_ofKind?_map (fun _ => rfl) _

/-- A call without failures runs, of each kind but that which is told failures, all advices of its list. -/
theorem Follows.ran_perm (h : t.Follows set) (hsuccess : failure? t.steps = none) {kind : AdviceKind}
    (hkind : kind ≠ .afterThrowing) : (t.ran kind).Perm (set.ofKind kind) := by
  simp only [steps, failure?_append, Option.or_eq_none_iff] at hsuccess
  obtain ⟨hbefore, hcore, hreturned, -, hafter⟩ := hsuccess
  have hguarded : t.guardedFailure? = none := by
    rw [guardedFailure?, failure?_append, hcore, hreturned, Option.or_none]
  obtain ⟨hran, haround, hreturning, hlast⟩ := h.ran_eq hbefore
  cases kind with
  | before => exact List.Perm.of_eq hran
  | around => exact List.Perm.of_eq (haround hcore)
  | afterReturning =>
      rw [hreturning hguarded]
      exact List.reverse_perm _
  | afterThrowing => exact absurd rfl hkind
  | after =>
      rw [hlast hafter]
      exact List.reverse_perm _

end CallTrace

end AspectWeaver

import AspectWeaver.Call.Dispatch

/-!
# The steps of a call

A call through advices is a row of steps: one for every advice that runs, and one for the method itself
where no advice stands around it. This file says what a step does (`CallStep.perform`), what it means
that some steps were taken one after the other (`Performed`), and what it means that a plan was followed
up to its first failure (`UpToFailure`). The top is `performed_upToFailure_iff`: from a given state there
is one way to do that, the one that `attemptAll` computes.
-/

set_option autoImplicit false

namespace AspectWeaver

variable {β τ : Type}

/-- What the steps of a call work on: its join point and the world. -/
abbrev CallState (τ : Type) := JoinPoint × World τ

/-! ## One step -/

/-- The steps that a call is made of. -/
inductive CallStep (β : Type) where
  /-- Runs an advice before the method. -/
  | before (a : Advised β)
  /-- Runs an advice around the method and stores its result. -/
  | around (a : Advised β)
  /-- Invokes the method itself and stores its result. -/
  | original
  /-- Runs an advice after the method returned. -/
  | afterReturning (a : Advised β)
  /-- Runs an advice that is told a failure. -/
  | afterThrowing (a : Advised β) (f : Failure)
  /-- Runs an advice after everything else. -/
  | after (a : Advised β)

namespace CallStep

/-- The advice that a step runs, with its kind. -/
def advice? : CallStep β → Option (AdviceKind × Advised β)
  | .before a => some (.before, a)
  | .around a => some (.around, a)
  | .original => none
  | .afterReturning a => some (.afterReturning, a)
  | .afterThrowing a _ => some (.afterThrowing, a)
  | .after a => some (.after, a)

/-- Announces the advice of a step in the log. -/
def announce (step : CallStep β) : Action (CallState τ) Unit :=
  match step.advice? with
  | some (kind, a) => AdviceSet.announce kind a
  | none => pure ()

/-- Runs the code of a step: the advice, or the method. Code that stands around the method or is the
method gives a result for the join point; other code gives none. -/
def code (b : Behaviours β τ) (m : Method β) : CallStep β → Action (CallState τ) (Option (Option Value))
  | .before a | .afterReturning a | .after a => do
    a.body.run b
    pure none
  | .around a => do
    let result ← (a.body.course b).toAction (m.proceed b)
    pure (some result)
  | .original => do
    let result ← m.proceed b
    pure (some result)
  | .afterThrowing a f => do
    a.body.runThrowing b f
    pure none

/-- Stores the result that the code of a step gave. -/
def store : Option (Option Value) → Action (CallState τ) Unit
  | some result => storeResult result
  | none => pure ()

/-- Takes a step: announces it, runs its code and stores the result. -/
def perform (b : Behaviours β τ) (m : Method β) (step : CallStep β) : Action (CallState τ) Unit := do
  step.announce
  let result ← step.code b m
  store result

/-- The state in which the code of a step starts. -/
def announced (step : CallStep β) (s : CallState τ) : CallState τ := (step.announce.start s).2

/-- An announcement does not fail and leaves the join point as it is. -/
theorem start_announce (step : CallStep β) (s : CallState τ) :
    step.announce.start s = (.ok (), step.announced s) ∧ (step.announced s).1 = s.1 := by
  unfold announced announce
  cases step.advice? <;> exact ⟨rfl, rfl⟩

/-- What a step comes to, read off what its code comes to. -/
theorem start_perform (b : Behaviours β τ) (m : Method β) (step : CallStep β) (s : CallState τ) :
    (step.perform b m).start s = match (step.code b m).start (step.announced s) with
      | (.ok (some result), (jp, w)) => (.ok (), (jp.setResult result, w))
      | (.ok none, left) => (.ok (), left)
      | (.error f, left) => (.error f, left) := by
  unfold perform
  rw [Action.start_bind, (start_announce step s).1]
  simp only [Action.start_bind]
  rcases (step.code b m).start (step.announced s) with ⟨(f | (_ | result)), left⟩ <;> rfl

end CallStep

/-! ## Steps that were taken -/

/-- A step that was taken: the state before it, what came of it, and the state after it. -/
structure TakenStep (β τ : Type) where
  step : CallStep β
  start : CallState τ
  outcome : Except Failure Unit
  finish : CallState τ

/-- The failure of the first step that failed. -/
def failure? : List (TakenStep β τ) → Option Failure
  | [] => none
  | x :: rest => match x.outcome with
    | .error f => some f
    | .ok _ => failure? rest

/-- What a row of steps comes to: it ends with its first failure. -/
def outcomeOf : Option Failure → Except Failure Unit
  | none => .ok ()
  | some f => .error f

/-- Steps were taken one after the other, from a state to a state. -/
def Performed (b : Behaviours β τ) (m : Method β) :
    CallState τ → List (TakenStep β τ) → CallState τ → Prop
  | s, [], s' => s = s'
  | s, x :: rest, s' =>
    x.start = s ∧ (x.step.perform b m).start s = (x.outcome, x.finish) ∧ Performed b m x.finish rest s'

/-- A plan was followed up to its first failure: the steps are a beginning of the plan, all but the last
succeeded, and they are the whole plan unless the last one failed. -/
structure UpToFailure (plan : List (CallStep β)) (taken : List (TakenStep β τ)) : Prop where
  isPrefix : taken.map TakenStep.step <+: plan
  succeeded : ∀ x ∈ taken.dropLast, x.outcome = .ok ()
  whole : taken.map TakenStep.step = plan ∨ ∃ x f, taken.getLast? = some x ∧ x.outcome = .error f

/-- The first failure of two rows is that of the first, or else that of the second. -/
theorem failure?_append (xs ys : List (TakenStep β τ)) :
    failure? (xs ++ ys) = (failure? xs).or (failure? ys) := by
  induction xs with
  | nil => rfl
  | cons x xs ih =>
      simp only [List.cons_append, failure?]
      cases x.outcome with
      | error f => rfl
      | ok _ => exact ih

/-- The failure of a row of steps is what one of them came to. -/
theorem exists_of_failure? {taken : List (TakenStep β τ)} {f : Failure} (h : failure? taken = some f) :
    ∃ x ∈ taken, x.outcome = .error f := by
  induction taken with
  | nil => simp [failure?] at h
  | cons x taken ih =>
      cases hx : x.outcome with
      | error g =>
          have hg : g = f := by simpa [failure?, hx] using h
          exact ⟨x, List.mem_cons_self, by rw [hx, hg]⟩
      | ok u =>
          obtain ⟨y, hy, hout⟩ := ih (by simpa [failure?, hx] using h)
          exact ⟨y, List.mem_cons_of_mem x hy, hout⟩

/-- A row with a failed step in it has a failure. -/
theorem failure?_of_mem {taken : List (TakenStep β τ)} {x : TakenStep β τ} {f : Failure} (hx : x ∈ taken)
    (hf : x.outcome = .error f) : failure? taken ≠ none := by
  induction taken with
  | nil => cases hx
  | cons y taken ih =>
      rw [failure?]
      rcases List.mem_cons.mp hx with rfl | hx
      · rw [hf]
        exact Option.some_ne_none f
      · cases y.outcome with
        | error g => exact Option.some_ne_none g
        | ok _ => exact ih hx

/-- Steps that all succeeded are the whole plan. -/
theorem UpToFailure.whole_of_success {plan : List (CallStep β)} {taken : List (TakenStep β τ)}
    (h : UpToFailure plan taken) (hsuccess : failure? taken = none) : taken.map TakenStep.step = plan := by
  rcases h.whole with hwhole | ⟨x, f, hlast, hf⟩
  · exact hwhole
  · exact absurd hsuccess (failure?_of_mem (List.mem_of_getLast? hlast) hf)

/-- Two rows are performed one behind the other exactly if they meet in a state between. -/
theorem performed_append (b : Behaviours β τ) (m : Method β) (s s' : CallState τ)
    (xs ys : List (TakenStep β τ)) :
    Performed b m s (xs ++ ys) s' ↔ ∃ mid, Performed b m s xs mid ∧ Performed b m mid ys s' := by
  induction xs generalizing s with
  | nil => simp [Performed]
  | cons x xs ih =>
      simp only [List.cons_append, Performed, ih]
      constructor
      · rintro ⟨hs, hx, mid, h1, h2⟩
        exact ⟨mid, ⟨hs, hx, h1⟩, h2⟩
      · rintro ⟨mid, ⟨hs, hx, h1⟩, h2⟩
        exact ⟨hs, hx, mid, h1, h2⟩

/-! ## Following a plan -/

/-- Takes the steps of a plan until one fails, and gives the steps and the state after them. -/
def attemptAll (b : Behaviours β τ) (m : Method β) :
    List (CallStep β) → CallState τ → List (TakenStep β τ) × CallState τ
  | [], s => ([], s)
  | step :: plan, s =>
    match (step.perform b m).start s with
    | (.ok _, after) =>
      let (taken, last) := attemptAll b m plan after
      (⟨step, s, .ok (), after⟩ :: taken, last)
    | (.error f, after) => ([⟨step, s, .error f, after⟩], after)

/-- The steps that were attempted were performed, from the first state to the last. -/
theorem performed_attemptAll (b : Behaviours β τ) (m : Method β) (plan : List (CallStep β))
    (s : CallState τ) :
    Performed b m s (attemptAll b m plan s).1 (attemptAll b m plan s).2 := by
  induction plan generalizing s with
  | nil => rfl
  | cons step plan ih =>
      rcases h : (step.perform b m).start s with ⟨f | u, after⟩
      · simp [attemptAll, h, Performed]
      · have hrest := ih after
        simpa [attemptAll, h, Performed] using hrest

/-- A plan whose first step was taken is followed up to its first failure if that step failed and was
the last one, or if it succeeded and the rest is followed so. -/
theorem upToFailure_cons_iff (step : CallStep β) (plan : List (CallStep β)) (x : TakenStep β τ)
    (taken : List (TakenStep β τ)) :
    UpToFailure (step :: plan) (x :: taken) ↔ x.step = step ∧
      (((∃ f, x.outcome = .error f) ∧ taken = []) ∨ (x.outcome = .ok () ∧ UpToFailure plan taken)) := by
  constructor
  · rintro ⟨hpre, hsucc, hwhole⟩
    obtain ⟨hstep, hpre⟩ : x.step = step ∧ taken.map TakenStep.step <+: plan := by simpa using hpre
    refine ⟨hstep, ?_⟩
    cases taken with
    | nil =>
        cases hout : x.outcome with
        | error f => exact Or.inl ⟨⟨f, rfl⟩, rfl⟩
        | ok u =>
            refine Or.inr ⟨rfl, hpre, by simp, Or.inl ?_⟩
            simpa [hstep, hout] using hwhole
    | cons y taken =>
        have hx : x.outcome = .ok () := hsucc x (by simp)
        refine Or.inr ⟨hx, hpre, fun z hz => hsucc z (List.mem_cons_of_mem x hz), ?_⟩
        simpa [hstep] using hwhole
  · rintro ⟨hstep, ⟨⟨f, hf⟩, rfl⟩ | ⟨hok, hpre, hsucc, hwhole⟩⟩
    · exact ⟨by simp [hstep], by simp, Or.inr ⟨x, f, rfl, hf⟩⟩
    · refine ⟨by simpa [hstep] using hpre, ?_, ?_⟩
      · cases taken with
        | nil => simp
        | cons y taken =>
            rw [List.dropLast_cons_of_ne_nil (by simp)]
            intro z hz
            rcases List.mem_cons.mp hz with rfl | hz
            · exact hok
            · exact hsucc z hz
      · rcases hwhole with hall | ⟨y, f, hy, hf⟩
        · exact Or.inl (by rw [List.map_cons, hstep, hall])
        · exact Or.inr ⟨y, f, by rw [List.getLast?_cons, hy]; rfl, hf⟩

/-- The steps that were attempted follow the plan up to its first failure. -/
theorem upToFailure_attemptAll (b : Behaviours β τ) (m : Method β) (plan : List (CallStep β))
    (s : CallState τ) : UpToFailure plan (attemptAll b m plan s).1 := by
  induction plan generalizing s with
  | nil => exact ⟨List.prefix_rfl, by simp [attemptAll], Or.inl rfl⟩
  | cons step plan ih =>
      rcases h : (step.perform b m).start s with ⟨f | u, after⟩
      · simp [attemptAll, h, upToFailure_cons_iff]
      · simpa [attemptAll, h, upToFailure_cons_iff] using ih after

/-- From a given state there is one way to follow a plan up to its first failure. -/
theorem performed_upToFailure_iff (b : Behaviours β τ) (m : Method β) (plan : List (CallStep β))
    (s s' : CallState τ) (taken : List (TakenStep β τ)) :
    UpToFailure plan taken ∧ Performed b m s taken s' ↔ (taken, s') = attemptAll b m plan s := by
  constructor
  · rintro ⟨hplan, hrun⟩
    induction plan generalizing s taken with
    | nil =>
        have hnil : taken = [] := by simpa using hplan.isPrefix
        subst hnil
        rw [Performed] at hrun
        rw [attemptAll, hrun]
    | cons step plan ih =>
        rcases taken with _ | ⟨⟨_, start, outcome, finish⟩, taken⟩
        · simpa using hplan.whole
        · obtain ⟨hstart, hx, hrest⟩ := hrun
          obtain ⟨hstep, hcases⟩ := (upToFailure_cons_iff step plan _ taken).mp hplan
          dsimp only at hstart hx hrest hstep hcases
          subst hstart hstep
          rcases hcases with ⟨⟨f, rfl⟩, rfl⟩ | ⟨rfl, htail⟩
          · rw [Performed] at hrest
            simp [attemptAll, hx, hrest]
          · simp [attemptAll, hx, ← ih finish taken htail hrest]
  · intro h
    obtain ⟨rfl, rfl⟩ := Prod.mk.inj h
    exact ⟨upToFailure_attemptAll b m plan s, performed_attemptAll b m plan s⟩

/-- The steps of a plan as one action come to the same: it ends with the first failure. -/
theorem start_forM_perform (b : Behaviours β τ) (m : Method β) (plan : List (CallStep β))
    (s : CallState τ) :
    (plan.forM (CallStep.perform b m)).start s =
      (outcomeOf (failure? (attemptAll b m plan s).1), (attemptAll b m plan s).2) := by
  induction plan generalizing s with
  | nil => rfl
  | cons step plan ih =>
      rw [List.forM_eq_forM, List.forM_cons, Action.start_bind]
      rcases h : (step.perform b m).start s with ⟨f | u, after⟩
      · simp [attemptAll, h, failure?, outcomeOf]
      · rw [List.forM_eq_forM] at ih
        simp [attemptAll, h, failure?, ih after]

end AspectWeaver

import AspectWeaver.Proofs.Call.Alike
import AspectWeaver.Script.Behaviours

/-!
# Scripts do not see the log

A script can register aspects with the weaver on its stage and call methods of instances, and these calls run scripts
again. So stages count as alike if they differ only in their weavers, and these are told apart neither by registering
aspects nor by calls (`Inseparable`). The top is `respects_behaviours`: code depends neither on the log nor on which
of two such weavers is on the stage, however deeply its calls are nested.
-/

set_option autoImplicit false

namespace AspectWeaver.Script

open Around (Similar)

/-! ## Stages -/

/-- Two stages differ only in their weavers, which are related. -/
structure Stage.Alike (R : Weaver Code → Weaver Code → Prop) (s r : Stage) : Prop where
  weaver : R s.weaver r.weaver
  rest : s = r.withWeaver s.weaver

/-- Neither the registration of aspects nor calls tell related weavers apart, if calls run code that does not. -/
structure Inseparable [RegexEngine] (R : Weaver Code → Weaver Code → Prop) : Prop where
  registerAspect : ∀ {w v : Weaver Code}, R w v → ∀ a : Aspect Code,
    (w.registerAspect a).value.2 = (v.registerAspect a).value.2 ∧
      R (w.registerAspect a).value.1 (v.registerAspect a).value.1
  call : ∀ {w v : Weaver Code}, R w v → ∀ b : Behaviours Code Stage, b.Respects (Stage.Alike R) →
    ∀ (i : WovenInstance Code) (signature : Signature) (args : List Value),
      Action.Similar (World.Alike (Stage.Alike R)) (i.invokeSignature b w.bindings signature args)
        (i.invokeSignature b v.bindings signature args)

variable {R : Weaver Code → Weaver Code → Prop}

namespace Stage.Alike

variable {s r : Stage} (h : s.Alike R r)

include h

/-- What does not depend on the weaver is the same on stages that are alike. -/
theorem view_eq {α : Type} (view : Stage → α) (hview : ∀ s w, view (s.withWeaver w) = view s) : view s = view r := by
  rw [h.rest, hview]

/-- A change that neither depends on the weaver nor changes it leaves stages alike. -/
theorem change {f : Stage → Stage} (hf : ∀ s w, f (s.withWeaver w) = (f s).withWeaver w) : (f s).Alike R (f r) := by
  have hkept (s : Stage) : (f s).weaver = s.weaver := (congrArg Stage.weaver (hf s s.weaver) :)
  refine ⟨?_, ?_⟩
  · rw [hkept, hkept]
    exact h.weaver
  · rw [hkept]
    exact (congrArg f h.rest).trans (hf r s.weaver)

end Stage.Alike

/-- Counting the calls of an object leaves the weaver alone. -/
theorem withWeaver_count (target : Target) (change : Counters → Counters) (s : Stage) (w : Weaver Code) :
    (s.withWeaver w).count target change = (s.count target change).withWeaver w := by
  have hcounters : (s.withWeaver w).countersOf target = s.countersOf target := rfl
  unfold Stage.count
  rw [hcounters]
  cases s.countersOf target <;> rfl

/-! ## Looking and changing -/

/-- Scenes are alike if their join points are equal and their worlds alike. -/
abbrev SceneAlike (R : Weaver Code → Weaver Code → Prop) : Scene → Scene → Prop := CallAlike (Stage.Alike R)

section

variable {α : Type}

/-- A value alone is similar to itself. -/
theorem similar_pure (a : α) : Similar (SceneAlike R) (pure a) (pure a) := Around.similar_done (.ok a)

/-- Looking at the scene is similar to itself if what is seen is the same on scenes that are alike. -/
theorem similar_look {view : Scene → α} (h : ∀ s r, SceneAlike R s r → view s = view r) :
    Similar (SceneAlike R) (look view) (look view) :=
  fun _ _ _ s r hsr => ⟨congrArg Except.ok (h s r hsr), hsr, .nil⟩

/-- What is read may differ, if what is done with it then does not. -/
theorem similar_look_bind {γ : Type} {view : Scene → α} {next : α → Around Scene γ}
    (h : ∀ s r, SceneAlike R s r → Similar (SceneAlike R) (next (view s)) (next (view r))) :
    Similar (SceneAlike R) (look view >>= next) (look view >>= next) :=
  fun x y hcall s r hsr => h s r hsr x y hcall s r hsr

/-- Changes that keep scenes alike are similar. -/
theorem similar_change {f g : Scene → Scene} (h : ∀ s r, SceneAlike R s r → SceneAlike R (f s) (g r)) :
    Similar (SceneAlike R) (change f) (change g) :=
  fun _ _ _ s r hsr => ⟨rfl, h s r hsr, .nil⟩

/-- A change of the stage that leaves the weaver alone is similar to itself. -/
theorem similar_changeStage {f : Stage → Stage} (hf : ∀ s w, f (s.withWeaver w) = (f s).withWeaver w) :
    Similar (SceneAlike R) (changeStage f) (changeStage f) := by
  refine similar_change ?_
  rintro ⟨jp, w⟩ ⟨_, v⟩ ⟨rfl, hworld⟩
  exact ⟨rfl, hworld.clock, hworld.objects, hworld.state.change hf⟩

/-- Writing a line is similar to itself. -/
theorem similar_note (line : String) : Similar (SceneAlike R) (note line) (note line) :=
  similar_changeStage fun _ _ => rfl

/-- A change of the join point is similar to itself. -/
theorem similar_changeJoinPoint (site : Site) (f : JoinPoint → JoinPoint) :
    Similar (SceneAlike R) (changeJoinPoint site f) (changeJoinPoint site f) := by
  have hchange : Similar (SceneAlike R) (change fun s => (f s.1, s.2)) (change fun s => (f s.1, s.2)) :=
    similar_change fun _ _ h => ⟨congrArg f h.1, h.2⟩
  cases site with
  | body => exact similar_pure ()
  | advice => exact hchange
  | throwing f => exact hchange
  | around => exact hchange

/-- Looking at the join point is similar to itself. -/
theorem similar_lookHere (view : JoinPoint → α) :
    Similar (SceneAlike R) (look fun s => view s.1) (look fun s => view s.1) :=
  similar_look fun _ _ h => congrArg view h.1

/-- Waiting is similar to itself. -/
theorem similar_sleep (milliseconds : Nat) :
    Similar (SceneAlike R) (change fun s => (s.1, s.2.wait milliseconds))
      (change fun s => (s.1, s.2.wait milliseconds)) := by
  refine similar_change ?_
  rintro s r ⟨hjp, hworld⟩
  exact ⟨hjp, congrArg (· + milliseconds) hworld.clock, hworld.objects, hworld.state⟩

/-- Reading the counters of the target is similar to itself. -/
theorem similar_countersHere : Similar (SceneAlike R) countersHere countersHere := by
  refine similar_look ?_
  rintro ⟨jp, w⟩ ⟨_, v⟩ ⟨rfl, hworld⟩
  exact hworld.state.view_eq (Stage.countersOf · jp.target) fun _ _ => rfl

end

/-! ## Expressions -/

/-- Reading an argument, or failing over its type, is similar to itself. -/
theorem similar_typedArgument (site : Site) (index : Nat) (type : ValueType) :
    Similar (SceneAlike R) (typedArgument site index type) (typedArgument site index type) := by
  refine (similar_lookHere fun jp => argument type jp.args index).bind fun found => ?_
  rcases found with f | value
  · cases site with
    | body => exact Around.similar_done _
    | advice => exact similar_pure none
    | throwing f => exact similar_pure none
    | around => exact similar_pure none
  · exact similar_pure (some value)

mutual

/-- No expression depends on the log or on the weaver. -/
theorem similar_eval (site : Site) (last : Option Value) :
    (e : Expr) → Similar (SceneAlike R) (e.eval site last) (e.eval site last)
  | .constant value => similar_pure value
  | .typedArg index type => similar_typedArgument site index type
  | .anyArg index => similar_lookHere fun jp => jp.args[index]?
  | .argCount => similar_lookHere fun jp => some (Value.int32 (Int32.ofNat jp.args.length))
  | .last => similar_pure last
  | .result => similar_lookHere fun jp => jp.result
  | .resultAs type => similar_lookHere fun jp => jp.resultAs? type
  | .takeResult =>
    (similar_lookHere fun jp => jp.result).bind fun value =>
      (similar_changeJoinPoint site fun jp => jp.setResult none).bind fun _ => similar_pure value
  | .param name => similar_lookHere fun jp => jp.param? name
  | .paramAs name type => similar_lookHere fun jp => jp.paramAs? type name
  | .calls => similar_countersHere.bind fun counters =>
    similar_pure (counters.map fun c => Value.int32 c.calls.toInt32)
  | .state => similar_countersHere.bind fun counters =>
    similar_pure (counters.map fun c => Value.int32 c.state.toInt32)
  | .targetIs typeName => similar_lookHere fun jp => some (Value.bool (jp.target.typeName == typeName))
  | .sum parts => (similar_evalAll site last parts).bind fun values =>
    similar_pure (some (Value.int32 (values.foldl (fun n v => n + addend v) 0)))
  | .concat parts => (similar_evalAll site last parts).bind fun values =>
    similar_pure (some (Value.text (String.join (values.map shown))))

/-- Evaluating a list of expressions is similar to itself. -/
theorem similar_evalAll (site : Site) (last : Option Value) :
    (es : List Expr) → Similar (SceneAlike R) (evalAll site last es) (evalAll site last es)
  | [] => similar_pure []
  | e :: rest =>
    (similar_eval site last e).bind fun value =>
      (similar_evalAll site last rest).bind fun values => similar_pure (value :: values)

end

/-! ## Steps -/

/-- Replacing an argument is similar to itself. -/
theorem similar_replaceArgument (site : Site) (index : Nat) (value : Option Value) :
    Similar (SceneAlike R) (replaceArgument site index value) (replaceArgument site index value) := by
  refine (similar_lookHere fun jp => jp.args.length).bind fun count => ?_
  split
  next => exact similar_pure ()
  next v _ =>
    split
    next => exact similar_changeJoinPoint _ _
    next => exact similar_note _
  next => exact similar_note _

/-- Letting the call proceed from a script is similar to itself. -/
theorem similar_proceedHere (site : Site) : Similar (SceneAlike R) (proceedHere site) (proceedHere site) := by
  cases site with
  | around => exact Around.similar_tryProceed
  | body => exact similar_pure _
  | advice => exact similar_pure _
  | throwing f => exact similar_pure _

/-- What a script makes of the outcome of a call is similar to itself. -/
theorem similar_settleCall (guarded : Bool) (outcome : Except Failure (Option Value)) :
    Similar (SceneAlike R) (settleCall guarded outcome) (settleCall guarded outcome) := by
  rcases outcome with f | value
  · cases guarded with
    | true => exact (similar_note _).bind fun _ => similar_pure _
    | false => exact Around.similar_done _
  · exact similar_pure _

/-- Registering an aspect from a script is similar to itself if it does not separate the weavers. -/
theorem similar_registerHere [RegexEngine] (hR : Inseparable R) (aspect : Aspect Code) :
    Similar (SceneAlike R) (registerHere aspect) (registerHere aspect) := by
  unfold registerHere
  -- the weavers that are read may differ, so the registrations with both are compared
  refine similar_look_bind ?_
  rintro ⟨jp, w⟩ ⟨_, v⟩ ⟨rfl, hworld⟩
  obtain ⟨hanswer, hweaver⟩ := hR.registerAspect hworld.state.weaver aspect
  dsimp only
  generalize w.state.weaver.registerAspect aspect = registered at hanswer hweaver ⊢
  generalize v.state.weaver.registerAspect aspect = registered' at hanswer hweaver ⊢
  obtain ⟨⟨weaver, outcome⟩, events⟩ := registered
  obtain ⟨⟨weaver', outcome'⟩, events'⟩ := registered'
  dsimp only at hanswer hweaver ⊢
  subst hanswer
  refine Around.Similar.bind ?_ fun _ => ?_
  · refine similar_change ?_
    rintro ⟨jp, w⟩ ⟨_, v⟩ ⟨rfl, hworld⟩
    refine ⟨rfl, hworld.clock, hworld.objects, hweaver, ?_⟩
    show w.state.withWeaver weaver = v.state.withWeaver weaver
    rw [hworld.state.rest]
    rfl
  · cases outcome with
    | ok bound => exact similar_note ("bound " ++ toString bound)
    | error e => exact similar_note ("rejected: " ++ e.message)

/-- Nested calls depend neither on the log nor on which of two related weavers is on the stage. -/
def CallsBlindly (R : Weaver Code → Weaver Code → Prop) (call : NestedCall) : Prop :=
  ∀ name method params args, Action.Similar (World.Alike (Stage.Alike R)) (call name method params args)
    (call name method params args)

variable {call : NestedCall}

mutual

/-- No step depends on the log, nor on which of two related weavers is on the stage, if nested calls do not. -/
theorem similar_step [RegexEngine] (hR : Inseparable R) (hcall : CallsBlindly R call) (site : Site)
    (last : Option Value) :
    (step : Step) → Similar (SceneAlike R) (step.run call site last) (step.run call site last)
  | .log line => by
    unfold Step.run
    exact (similar_note line).bind fun _ => similar_pure _
  | .display e => by
    unfold Step.run
    exact (similar_eval site last e).bind fun value => (similar_note _).bind fun _ => similar_pure _
  | .ret e => by
    unfold Step.run
    exact (similar_eval site last e).bind fun value => similar_pure _
  | .fail f => by
    unfold Step.run
    exact Around.similar_done _
  | .failUntil count f => by
    unfold Step.run
    refine similar_countersHere.bind fun counters => ?_
    rcases counters with _ | c
    · exact similar_pure _
    · dsimp only
      split
      next => exact Around.similar_done _
      next => exact similar_pure _
  | .whileCallsBelow count steps => by
    unfold Step.run
    refine similar_countersHere.bind fun counters => ?_
    rcases counters with _ | c
    · exact similar_pure _
    · dsimp only
      split
      next => exact similar_steps hR hcall site last steps
      next => exact similar_pure _
  | .addState n => by
    unfold Step.run
    exact (similar_lookHere fun jp => jp.target).bind fun target =>
      (similar_changeStage fun s w => withWeaver_count target _ s w).bind fun _ => similar_pure _
  | .sleep milliseconds => by
    unfold Step.run
    exact (similar_sleep milliseconds).bind fun _ => similar_pure _
  | .setResult e => by
    unfold Step.run
    exact (similar_eval site last e).bind fun value =>
      (similar_changeJoinPoint site _).bind fun _ => similar_pure _
  | .setParam name e => by
    unfold Step.run
    refine (similar_eval site last e).bind fun value => ?_
    cases value with
    | none => exact (similar_pure ()).bind fun _ => similar_pure _
    | some value => exact (similar_changeJoinPoint site _).bind fun _ => similar_pure _
  | .setArg index e => by
    unfold Step.run
    exact (similar_eval site last e).bind fun value =>
      (similar_replaceArgument site index value).bind fun _ => similar_pure _
  | .pushArg e => by
    unfold Step.run
    refine (similar_eval site last e).bind fun value => ?_
    cases value with
    | none => exact (similar_pure ()).bind fun _ => similar_pure _
    | some value => exact (similar_changeJoinPoint site _).bind fun _ => similar_pure _
  | .popArg => by
    unfold Step.run
    exact (similar_changeJoinPoint site _).bind fun _ => similar_pure _
  | .clearArgs => by
    unfold Step.run
    exact (similar_changeJoinPoint site _).bind fun _ => similar_pure _
  | .showArgs => by
    unfold Step.run
    exact (similar_lookHere fun jp => jp.args).bind fun args => (similar_note _).bind fun _ => similar_pure _
  | .showCall => by
    unfold Step.run
    refine (similar_lookHere callLine).bind fun line => ?_
    cases site with
    | body => exact (similar_pure ()).bind fun _ => similar_pure _
    | advice => exact (similar_note line).bind fun _ => similar_pure _
    | throwing f => exact (similar_note line).bind fun _ => similar_pure _
    | around => exact (similar_note line).bind fun _ => similar_pure _
  | .describe => by
    unfold Step.run
    exact (similar_lookHere (descriptionLine site)).bind fun line => (similar_note line).bind fun _ => similar_pure _
  | .showFailure => by
    unfold Step.run
    exact (similar_note _).bind fun _ => similar_pure _
  | .rethrow start => by
    unfold Step.run
    exact Around.similar_done _
  | .proceed guarded => by
    unfold Step.run
    exact (similar_proceedHere site).bind fun outcome => similar_settleCall guarded outcome
  | .invoke guarded instanceName method params args => by
    unfold Step.run
    exact (similar_evalAll site last args).bind fun values =>
      (Around.similar_ofAction (hcall instanceName method params (values.filterMap id)).onSecond.attempt).bind
        fun outcome => similar_settleCall guarded outcome
  | .register aspect => by
    unfold Step.run
    exact (similar_registerHere hR aspect).bind fun _ => similar_pure _

/-- No list of steps depends on the log, nor on which of two related weavers is on the stage. -/
theorem similar_steps [RegexEngine] (hR : Inseparable R) (hcall : CallsBlindly R call) (site : Site)
    (last : Option Value) :
    (steps : List Step) → Similar (SceneAlike R) (runSteps call site last steps) (runSteps call site last steps)
  | [] => by
    unfold runSteps
    exact similar_pure _
  | step :: rest => by
    unfold runSteps
    refine (similar_step hR hcall site last step).bind fun progress => ?_
    cases progress with
    | next last => exact similar_steps hR hcall site last rest
    | ended result => exact similar_pure _

end

/-- No script depends on the log, nor on which of two related weavers is on the stage. -/
theorem similar_runScript [RegexEngine] (hR : Inseparable R) (hcall : CallsBlindly R call) (site : Site)
    (steps : List Step) :
    Similar (SceneAlike R) (runScript call site steps) (runScript call site steps) := by
  refine (similar_steps hR hcall site none steps).bind fun progress => ?_
  cases progress <;> exact similar_pure _

/-! ## Stock and sample code -/

/-- One attempt at a call is similar to itself. -/
theorem similar_tryOnce (attempt : Nat) : Similar (SceneAlike R) (tryOnce attempt) (tryOnce attempt) := by
  refine Around.similar_tryProceed.bind fun outcome => ?_
  cases outcome with
  | ok value => exact similar_pure _
  | error f => exact (similar_note _).bind fun _ => similar_pure _

/-- The interceptor that counts its calls is similar to itself. -/
theorem similar_counter (i : Interceptor Code) :
    Similar (SceneAlike R) (StockInterceptor.counter.course i) (StockInterceptor.counter.course i) := by
  refine similar_look_bind ?_
  rintro ⟨jp, w⟩ ⟨_, v⟩ ⟨rfl, hworld⟩
  have hcount : (w.state.tally i).1 = (v.state.tally i).1 :=
    hworld.state.view_eq (fun s => (s.tally i).1) fun _ _ => rfl
  have hstage : Stage.Alike R (w.state.tally i).2 (v.state.tally i).2 :=
    hworld.state.change (f := fun s => (s.tally i).2) fun _ _ => rfl
  dsimp only
  rw [hcount]
  refine Around.Similar.bind ?_ fun _ => similar_pure _
  refine similar_change ?_
  rintro ⟨jp, w⟩ ⟨_, v⟩ ⟨rfl, hworld⟩
  exact ⟨rfl, hworld.clock, hworld.objects, hstage⟩

/-- Every stock interceptor is similar to itself. -/
theorem similar_stock (i : Interceptor Code) (interceptor : StockInterceptor) :
    Similar (SceneAlike R) (interceptor.course i) (interceptor.course i) := by
  cases interceptor with
  | double => exact Around.similar_proceedOrFail.bind fun value => similar_pure _
  | shortCircuit => exact similar_pure _
  | audit =>
      exact (similar_lookHere fun jp => "audit " ++ jp.signature.text).bind fun line =>
        (similar_note line).bind fun _ => Around.similar_proceedOrFail
  | counter => exact similar_counter i
  | retry =>
      refine (similar_tryOnce 1).bind fun value => ?_
      cases value with
      | some value => exact similar_pure _
      | none =>
          refine (similar_tryOnce 2).bind fun value => ?_
          cases value with
          | some value => exact similar_pure _
          | none => exact Around.similar_proceedOrFail
  | swallow =>
      refine Around.similar_tryProceed.bind fun outcome => ?_
      cases outcome <;> exact similar_pure _
  | increment =>
      have hchange (f : JoinPoint → JoinPoint) := similar_changeJoinPoint (R := R) .around f
      exact (hchange fun jp => { jp with args := jp.args.map raised }).bind fun _ =>
        Around.similar_proceedOrFail.bind fun value =>
          (hchange fun jp => jp.setResult value).bind fun _ => similar_pure value
  | failFast => exact Around.similar_done _

/-- Every sample of code around a call is similar to itself. -/
theorem similar_sample (code : SampleCode) : Similar (SceneAlike R) code.course code.course := by
  cases code with
  | shout => exact Around.similar_proceedOrFail.bind fun value => similar_pure _
  | greet => exact Around.similar_proceedOrFail
  | plain => exact Around.similar_proceedOrFail
  | quote => exact Around.similar_proceedOrFail
  | free => exact Around.similar_proceedOrFail

/-! ## Code in each place -/

section

variable [RegexEngine] (hR : Inseparable R) {call : NestedCall} (hcall : CallsBlindly R call)

include hR hcall

/-- Code as the body of a method is similar to itself. -/
theorem similar_runMethod (code : Code) (target : Target) (args : List Value) :
    Action.Similar (World.Alike (Stage.Alike R)) (code.runMethod call target args)
      (code.runMethod call target args) := by
  cases code with
  | script steps =>
      intro w v hworld
      have hscript := (similar_runScript hR hcall .body steps).toAction (Action.similar_pure none)
      obtain ⟨houtcome, -, hafter⟩ := hscript
        (JoinPoint.start target default args w.clock, w.update (Stage.countCall target))
        (JoinPoint.start target default args v.clock, v.update (Stage.countCall target))
        ⟨congrArg (JoinPoint.start target default args) hworld.clock, hworld.clock, hworld.objects,
          hworld.state.change fun s w => withWeaver_count target _ s w⟩
      exact ⟨houtcome, hafter⟩
  | sample code => exact fun w v hworld => ⟨rfl, hworld⟩
  | stock interceptor => exact Action.similar_pure none

/-- Code as an advice is similar to itself. -/
theorem similar_runAdvice (site : Site) (code : Code) :
    Action.Similar (SceneAlike R) (code.runAdvice call site) (code.runAdvice call site) := by
  cases code with
  | script steps =>
      exact ((similar_runScript hR hcall site steps).toAction (Action.similar_pure none)).bind fun _ =>
        Action.similar_pure ()
  | sample code => exact Action.similar_pure ()
  | stock interceptor => exact Action.similar_pure ()

/-- Code around a call is similar to itself. -/
theorem similar_course (code : Code) : Similar (SceneAlike R) (code.course call) (code.course call) := by
  cases code with
  | script steps => exact similar_runScript hR hcall .around steps
  | sample code => exact similar_sample code
  | stock interceptor => exact Around.similar_proceedOrFail

/-- Code depends neither on the log nor on which of two related weavers is on the stage, if its nested calls do
not. -/
theorem respects_behavioursWith : (behavioursWith call).Respects (Stage.Alike R) where
  method := similar_runMethod hR hcall
  advice := similar_runAdvice hR hcall .advice
  throwing code f := similar_runAdvice hR hcall (.throwing f) code
  around := similar_course hR hcall
  intercept i := by
    show Similar (SceneAlike R) (interceptorCourse call i) (interceptorCourse call i)
    unfold interceptorCourse
    split
    next interceptor _ => exact similar_stock i interceptor
    next => exact similar_course hR hcall _

end

/-! ## Nested calls -/

variable [RegexEngine]

/-- Calls on kept instances do not depend on the log if the code that they run does not. -/
theorem callsBlindly_callKept (hR : Inseparable R) {b : Behaviours Code Stage} (hb : b.Respects (Stage.Alike R)) :
    CallsBlindly R (callKept b) := by
  intro name method params args w v hworld
  have hinstances : w.state.instances = v.state.instances := hworld.state.view_eq Stage.instances fun _ _ => rfl
  have halone : w.state.standAlone = v.state.standAlone := hworld.state.view_eq Stage.standAlone fun _ _ => rfl
  unfold callKept
  rw [Action.start_of, Action.start_of, hinstances]
  cases v.state.instances.get? name with
  | none => exact ⟨rfl, hworld⟩
  | some kept =>
      dsimp only
      unfold Stage.bindingsOf
      cases kept.home with
      | weaver => exact hR.call hworld.state.weaver b hb kept.woven _ args w v hworld
      | standAlone =>
          dsimp only
          rw [halone]
          exact hb.invokeSignature_self v.state.standAlone kept.woven _ args w v hworld

/-- Calls from scripts do not depend on the log, however deep they are nested. -/
theorem callsBlindly_nestedCall (hR : Inseparable R) (depth : Nat) : CallsBlindly R (nestedCall depth) := by
  -- the code in a nested call may itself nest calls one level less deeply
  induction depth with
  | zero => exact fun _ _ _ _ => Action.similar_throw _
  | succ depth ih => exact callsBlindly_callKept hR (respects_behavioursWith hR ih)

/-- What code does depends neither on the log nor on which of two related weavers is on the stage. -/
theorem respects_behaviours (hR : Inseparable R) : behaviours.Respects (Stage.Alike R) :=
  respects_behavioursWith hR (callsBlindly_nestedCall hR maxDepth)

/-- A weaver is not separated from itself. -/
theorem inseparable_eq : Inseparable Eq where
  registerAspect h a := by
    subst h
    exact ⟨rfl, rfl⟩
  call h b hb i signature args := by
    subst h
    exact hb.invokeSignature_self _ i signature args

/-- On one and the same stage, what code does does not depend on the log. -/
theorem respects_behaviours_eq : behaviours.Respects Eq := by
  have hsame : Stage.Alike Eq = Eq := by
    funext s r
    refine propext ⟨?_, ?_⟩
    · rintro ⟨hweaver, hrest⟩
      rw [hweaver] at hrest
      exact hrest
    · rintro rfl
      exact ⟨rfl, rfl⟩
  rw [← hsame]
  exact respects_behaviours inseparable_eq

end AspectWeaver.Script

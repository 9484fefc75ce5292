import AspectWeaver.Proofs.Call.Trace
import AspectWeaver.Proofs.Weaver.Chains
import AspectWeaver.Proofs.Weaver.Intercepted
import AspectWeaver.Proofs.Weaver.Modes

/-!
# What a woven instance sees

A `Loom` is a weaver with the instances that were made from it, and a run of it mixes registrations, creations
and calls. An instance keeps the table and the dispatcher that its type had when it was made
(`Loom.instances_after`), while the bindings are those of the moment of the call (`Loom.weaver_after`). The top
is `Loom.call?_after`: what a call on an instance does, told by the moment in which the instance was made and by
all registrations before the call.
-/

set_option autoImplicit false

namespace AspectWeaver

variable {β τ : Type}

/-! ## Calls through advices -/

/-- A call of a method through a set of advices, or the method itself without one. -/
def Method.advisedBy (b : Behaviours β τ) (m : Method β) (set : Option (AdviceSet β)) (target : Target)
    (args : List Value) : Action (World τ) (Option Value) :=
  match set with
  | none => m.invoke b target args
  | some set => do
    World.tell .trace "Dispatching through advices"
      [("signature", .text m.signature.text), ("advices", .number set.size)]
    withJoinPoint target m.descriptor args (set.runCall b m)

/-- A call through the advices of a registry is one through the set that the signature has there. -/
theorem AdviceRegistry.dispatch_eq (b : Behaviours β τ) (r : AdviceRegistry β) (target : Target) (m : Method β)
    (args : List Value) : r.dispatch b target m args = m.advisedBy b (r.adviceSet? m.signature) target args := by
  unfold dispatch Method.advisedBy
  cases r.adviceSet? m.signature <;> rfl

/-- A call that is left to an interceptor depends on what methods and interceptors do, and on nothing else. -/
theorem Method.handledBy_congr {b other : Behaviours β τ} (hmethod : other.method = b.method)
    (hintercept : other.intercept = b.intercept) (m : Method β) (interceptor : Option (Interceptor β))
    (target : Target) (args : List Value) :
    m.handledBy other interceptor target args = m.handledBy b interceptor target args := by
  obtain ⟨method, advice, throwing, around, intercept⟩ := b
  dsimp only at hmethod hintercept
  subst hmethod hintercept
  rfl

namespace WovenInstance

variable (b : Behaviours β τ) (bindings : Bindings β) {i : WovenInstance β} {s : Signature} {m : Method β}

/-- A call with a signature that the table of the instance does not have fails. -/
theorem invokeSignature_of_missing (h : i.descriptor.methodBySignature? s = none) (args : List Value) :
    i.invokeSignature b bindings s args =
      throw (Failure.ofWeave (.methodNotFound i.descriptor.name s.text)) := by
  unfold invokeSignature
  rw [h]

/-- A call with a signature of the table goes through what the dispatcher asks for: the advices of the signature or
its interceptor. -/
theorem invokeSignature_of_found (h : i.descriptor.methodBySignature? s = some m) (args : List Value) :
    (i.dispatcher = .advices → i.invokeSignature b bindings s args =
      m.advisedBy b (bindings.advices.adviceSet? s) i.target args) ∧
    (i.dispatcher = .interceptors → i.invokeSignature b bindings s args =
      m.handledBy b (bindings.interceptors.binding? s) i.target args) := by
  have hsame : m.signature = s := by simpa using List.find?_some h
  unfold invokeSignature
  rw [h]
  dsimp only
  constructor
  · intro hadvices
    rw [hadvices, ← hsame]
    exact bindings.advices.dispatch_eq b i.target m args
  · intro hinterceptors
    rw [hinterceptors, ← hsame]
    exact bindings.interceptors.dispatch_eq b i.target m args

end WovenInstance

/-! ## Looms -/

/-- What happens with a weaver and its instances. The operations stand in the order in which they begin. -/
inductive LoomOp (β : Type) where
  | register (op : WeaverOp β)
  | create (typeName : String)
  | weave (typeName : String) (target : Target)
  /-- Calls the method of a signature on one of the instances, which are counted from the first. -/
  | call (index : Nat) (signature : Signature) (args : List Value)

namespace LoomOp

def registration? : LoomOp β → Option (WeaverOp β)
  | .register op => some op
  | _ => none

/-- The type that an operation makes an instance of. -/
def typeName? : LoomOp β → Option String
  | .create typeName | .weave typeName _ => some typeName
  | _ => none

end LoomOp

/-- A weaver, the instances that were made from it, in order, and the world in which they are called. -/
structure Loom (β τ : Type) where
  weaver : Weaver β
  instances : List (WovenInstance β)
  world : World τ

namespace Loom

def opened (name : String) (config : WeaverConfig) (world : World τ) : Loom β τ :=
  ⟨Weaver.new name config, [], world⟩

/-- The instance that an operation makes, if it makes one. -/
def made? (s : Loom β τ) : LoomOp β → Option (WovenInstance β)
  | .create typeName => match (s.weaver.createWovenInstance typeName s.world).1 with
    | .ok made => made
    | .error _ => none
  | .weave typeName target => s.weaver.weaveInstance typeName target
  | _ => none

/-- What a call on one of the instances does; without the instance there is no call. -/
def call? (b : Behaviours β τ) (s : Loom β τ) (index : Nat) (signature : Signature) (args : List Value) :
    Option (Action (World τ) (Option Value)) :=
  s.instances[index]?.map fun i => i.invokeSignature b s.weaver.bindings signature args

def worldAfter [RegexEngine] (b : Behaviours β τ) (s : Loom β τ) : LoomOp β → World τ
  | .register op => s.world.record (s.weaver.eventsBy op)
  | .create typeName => (s.weaver.createWovenInstance typeName s.world).2
  | .weave _ _ => s.world
  | .call index signature args => match s.call? b index signature args with
    | some call => (call.start s.world).2
    | none => s.world

def step [RegexEngine] (b : Behaviours β τ) (s : Loom β τ) (op : LoomOp β) : Loom β τ where
  weaver := s.weaver.after op.registration?.toList
  instances := s.instances ++ (s.made? op).toList
  world := s.worldAfter b op

def after [RegexEngine] (b : Behaviours β τ) (s : Loom β τ) (ops : List (LoomOp β)) : Loom β τ := ops.foldl (step b) s

def registrations (ops : List (LoomOp β)) : List (WeaverOp β) := ops.filterMap LoomOp.registration?

variable (b : Behaviours β τ) (s : Loom β τ)

/-- Two rows of operations, one behind the other, are run one after the other. -/
theorem after_append [RegexEngine] (earlier later : List (LoomOp β)) :
    s.after b (earlier ++ later) = (s.after b earlier).after b later := List.foldl_append

/-- Creations and calls leave the weaver as it is. -/
theorem weaver_after [RegexEngine] (ops : List (LoomOp β)) :
    (s.after b ops).weaver = s.weaver.after (registrations ops) := by
  induction ops generalizing s with
  | nil => rfl
  | cons op ops ih =>
      have hcons : registrations (op :: ops) = op.registration?.toList ++ registrations ops := by
        cases op <;> rfl
      rw [hcons, Weaver.after_append]
      exact ih (s.step b op)

/-- Instances stay as they were made, whatever happens later. -/
theorem instances_after [RegexEngine] (ops : List (LoomOp β)) : s.instances <+: (s.after b ops).instances := by
  induction ops generalizing s with
  | nil => exact List.prefix_rfl
  | cons op ops ih => exact (List.prefix_append _ _).trans (ih (s.step b op))

/-- What an operation makes is an object that is woven as its type is registered at the moment. -/
theorem exists_of_made? {s : Loom β τ} {op : LoomOp β} {i : WovenInstance β} (h : s.made? op = some i) :
    ∃ typeName r target, op.typeName? = some typeName ∧ s.weaver.registration? typeName = some r ∧
      i = r.weave target := by
  cases op with
  | register op => cases h
  | call index signature args => cases h
  | weave typeName target =>
      obtain ⟨r, hr, rfl⟩ := Option.map_eq_some_iff.mp h
      exact ⟨typeName, r, target, rfl, hr, rfl⟩
  | create typeName =>
      unfold made? at h
      dsimp only at h
      cases hr : s.weaver.registration? typeName with
      | none =>
          unfold Weaver.createWovenInstance at h
          rw [hr] at h
          cases h
      | some r =>
          rw [Weaver.createWovenInstance_of_registration hr] at h
          by_cases hconcrete : r.descriptor.isConcrete = true
          · rw [if_pos hconcrete] at h
            cases h
            exact ⟨typeName, r, _, rfl, hr, rfl⟩
          · rw [if_neg hconcrete] at h
            cases h

/-- An instance is found where it was put when it was made. -/
theorem getElem?_after [RegexEngine] {s : Loom β τ} {op : LoomOp β} {i : WovenInstance β} (h : s.made? op = some i)
    (later : List (LoomOp β)) : ((s.step b op).after b later).instances[s.instances.length]? = some i := by
  obtain ⟨rest, hrest⟩ := instances_after b (s.step b op) later
  rw [← hrest, step, h, Option.toList_some, List.append_assoc, List.getElem?_append_right (Nat.le_refl _),
    Nat.sub_self]
  rfl

/-- Take any run on a new weaver that mixes registrations, creations and calls, and an instance that is made in
it. The instance stays there with the table that the catalog held for its type when it was made: a call finds the
methods of this table with their bodies, or fails because there is none of the signature. If the type was woven
for aspects at that moment, a call runs through the advices that all registrations before the call bound to
the signature, also those after the creation. If it was woven for interceptors, a call is left to the interceptor
that the signature is bound to, or runs the method itself without one, and never depends on the advices that are
bound or on what advices do, whatever became of the type. -/
theorem call?_after [RegexEngine] (name : String) (config : WeaverConfig) (world : World τ)
    (earlier later : List (LoomOp β)) {op : LoomOp β} {i : WovenInstance β}
    (hmade : ((opened name config world).after b earlier).made? op = some i) :
    let creation := (opened name config world).after b earlier
    let now := (opened name config world).after b (earlier ++ op :: later)
    let history := (Weaver.new name config).history (registrations (earlier ++ op :: later))
    ∃ typeName t mode, op.typeName? = some typeName ∧ creation.weaver.mode? typeName = some mode ∧
      creation.weaver.catalog.resolve? typeName = some t ∧ i.descriptor = t ∧
      now.instances[creation.instances.length]? = some i ∧
      ∀ signature args,
        let call := now.call? b creation.instances.length signature args
        (t.methodBySignature? signature = none →
          call = some (throw (Failure.ofWeave (.methodNotFound typeName signature.text)))) ∧
        ∀ m, t.methodBySignature? signature = some m →
          let advices := (history.filter fun x => x.signature = signature).map Binding.advice
          let interceptor := now.weaver.bindings.interceptors.binding? signature
          (mode = .aspects → call = some (m.advisedBy b
            (if advices.isEmpty then none else some (advices.foldl AdviceSet.push AdviceSet.empty)) i.target args)) ∧
          (mode = .intercepts → call = some (m.handledBy b interceptor i.target args) ∧
            ∀ (other : Behaviours β τ) (advices : AdviceRegistry β), other.method = b.method →
              other.intercept = b.intercept →
              i.invokeSignature other { now.weaver.bindings with advices := advices } signature args =
                m.handledBy b interceptor i.target args) := by
  intro creation now history
  obtain ⟨typeName, r, target, hop, hr, rfl⟩ := exists_of_made? hmade
  have hnow : now.weaver = (Weaver.new name config).after (registrations (earlier ++ op :: later)) :=
    weaver_after b (opened name config world) _
  have hcreation : creation.weaver.Coherent := by
    show ((opened name config world).after b earlier).weaver.Coherent
    rw [weaver_after]
    exact (Weaver.coherent_new name config).after _
  have hfits := hcreation.fit typeName r hr
  have hdispatcher : (r.weave target).dispatcher = r.mode.dispatcher := hfits.dispatcher
  have hkept : now.instances[creation.instances.length]? = some (r.weave target) := by
    show ((opened name config world).after b (earlier ++ op :: later)).instances[_]? = _
    rw [after_append]
    exact getElem?_after b hmade later
  refine ⟨typeName, r.descriptor, r.mode, hop, ?_, hfits.descriptor, rfl, hkept, ?_⟩
  · unfold Weaver.mode?
    rw [show creation.weaver.registration? typeName = some r from hr]
    rfl
  intro signature args call
  have hcall : call = some ((r.weave target).invokeSignature b now.weaver.bindings signature args) := by
    show (now.instances[creation.instances.length]?).map _ = _
    rw [hkept]
    rfl
  have hname : r.descriptor.name = typeName := hcreation.catalog.name_of_resolve? typeName _ hfits.descriptor
  refine ⟨?_, ?_⟩
  · intro hnone
    rw [hcall, WovenInstance.invokeSignature_of_missing b _ hnone args, ← hname]
    rfl
  · intro m hm advices interceptor
    refine ⟨?_, ?_⟩
    · intro hmode
      rw [hmode] at hdispatcher
      have hset : now.weaver.bindings.advices.adviceSet? signature = AdviceRegistry.extend none advices := by
        rw [hnow]
        exact Weaver.adviceSet?_after_eq_extend _ _ signature
      rw [hcall, (WovenInstance.invokeSignature_of_found b _ hm args).1 hdispatcher, hset,
        AdviceRegistry.extend_none]
    · intro hmode
      rw [hmode] at hdispatcher
      -- the registry of advices does not occur in what the interceptors handle
      refine ⟨?_, ?_⟩
      · rw [hcall, (WovenInstance.invokeSignature_of_found b _ hm args).2 hdispatcher]
      · intro other advices hmethod hintercept
        rw [(WovenInstance.invokeSignature_of_found other _ hm args).2 hdispatcher]
        exact Method.handledBy_congr hmethod hintercept m interceptor _ args

/-! ## Instances from before and after a switch -/

/-- An aspect with one advice, code of a given number, for the method `load` of the type `a.C`. -/
def advising (code : Nat) : Aspect Nat := (Aspect.empty "A").declare .before "a.C.load()" 0 (.custom code)

/-- A type with a marked method is registered as a target. -/
def targeted : List (LoomOp Nat) :=
  [.register (.registerType (Weaver.store [Weaver.load])), .register (.registerInterceptTarget "a.C")]

def advised : List (LoomOp Nat) := [.register (.registerAspect (advising 3))]

/-- Another aspect comes, and then the type is registered anew with another method. -/
def renewed : List (LoomOp Nat) :=
  [.register (.registerAspect (advising 4)), .register (.registerType (Weaver.store [Weaver.save]))]

/-- As at a rehearsal, where an interceptor notes the number of its marker too before the call goes on. -/
def noting : Behaviours Nat (List Nat) where
  method := Rehearsal.behaviours.method
  advice := Rehearsal.behaviours.advice
  throwing := Rehearsal.behaviours.throwing
  around := Rehearsal.behaviours.around
  intercept i := Rehearsal.behaviours.around i.marker.code

/-- A loom with two instances, one made before the type was woven for an aspect and one after it. -/
def outlived : Loom Nat (List Nat) :=
  (opened "weaver" {} (World.initial [])).after noting
    (targeted ++ .create "a.C" :: (advised ++ .create "a.C" :: renewed))

/-- A call on the older instance notes the number of its interceptor, which fails, and nothing else; a call on
the younger one notes both advices and then the method. -/
theorem call?_after_renewal :
    outlived.weaver.registration? "a.C" = some ⟨Weaver.store [Weaver.save], .aspects, .advices⟩ ∧
      outlived.instances = [⟨Weaver.store [Weaver.load], ⟨"C", 0⟩, .interceptors⟩,
        ⟨Weaver.store [Weaver.load], ⟨"C", 1⟩, .advices⟩] ∧
      (∃ call, outlived.call? noting 0 Weaver.load.signature [.int32 9] = some call ∧
        call = Weaver.load.handledBy noting (some ⟨"weaver", 0, Weaver.refusal⟩) ⟨"C", 0⟩ [.int32 9] ∧
        (call.start (World.initial [])).1 = .error (Failure.ofText "Nothing to note") ∧
        (call.start (World.initial [])).2.state = [0]) ∧
      (∃ call, outlived.call? noting 1 Weaver.load.signature [.int32 9] = some call ∧
        call = Weaver.load.advisedBy noting
          (some ⟨[⟨"A::before#0", 0, .custom 3⟩, ⟨"A::before#0", 0, .custom 4⟩], [], [], [], []⟩) ⟨"C", 1⟩ [.int32 9] ∧
        (call.start (World.initial [])).1 = .ok (some (.int32 9)) ∧
        (call.start (World.initial [])).2.state = [3, 4, 1]) ∧
      ∀ index < 2, outlived.call? noting index Weaver.save.signature [] =
        some (throw (Failure.ofWeave (.methodNotFound "a.C" "a.C.save()"))) := by
  let start : Loom Nat (List Nat) := opened "weaver" {} (World.initial [])
  have hfirst : (start.after noting targeted).made? (.create "a.C") =
      some ⟨Weaver.store [Weaver.load], ⟨"C", 0⟩, .interceptors⟩ := rfl
  have hsecond : (start.after noting (targeted ++ .create "a.C" :: advised)).made? (.create "a.C") =
      some ⟨Weaver.store [Weaver.load], ⟨"C", 1⟩, .advices⟩ := rfl
  obtain ⟨_, _, _, hname, hmode, hfound, -, -, hfirst⟩ := call?_after noting "weaver" {} (World.initial [])
    targeted (advised ++ .create "a.C" :: renewed) hfirst
  cases hname
  cases hmode
  cases hfound
  obtain ⟨_, _, _, hname, hmode, hfound, -, -, hsecond⟩ := call?_after noting "weaver" {}
    (World.initial []) (targeted ++ .create "a.C" :: advised) renewed hsecond
  cases hname
  cases hmode
  cases hfound
  refine ⟨rfl, rfl, ⟨_, ?_, rfl, rfl, rfl⟩, ⟨_, ?_, rfl, rfl, rfl⟩, ?_⟩
  · exact (((hfirst Weaver.load.signature [.int32 9]).2 Weaver.load rfl).2 rfl).1
  · exact ((hsecond Weaver.load.signature [.int32 9]).2 Weaver.load rfl).1 rfl
  · intro index hindex
    match index with
    | 0 => exact (hfirst Weaver.save.signature []).1 rfl
    | 1 => exact (hsecond Weaver.save.signature []).1 rfl

end Loom

end AspectWeaver

import AspectWeaver.Regex.Standard
import AspectWeaver.Script.Sample

/-!
# Sessions

A session is a history of steps on one world: types and aspects are registered, instances are woven and
called, bindings are looked up. Every step is a `SessionStep`, which changes the world and gives an
answer; what it traced and logged is found in the world afterwards.
-/

set_option autoImplicit false

namespace AspectWeaver

open Script (Code Home Kept Stage Step)

/-- A step of a session. -/
abbrev SessionStep (α : Type) := StateM (World Stage) α

namespace Session

/-- The world at the beginning of a session. -/
def start (config : WeaverConfig) (countedTypes : List String) : World Stage :=
  World.initial (Stage.new config countedTypes)

/-- The world at the beginning of a session on the weaver of a program, which has loaded what the
program publishes. -/
def startProgram (config : WeaverConfig) (countedTypes : List String) (inventory : Inventory Code) :
    World Stage :=
  let made := Weaver.ofProgram "global" config inventory
  ((start config countedTypes).record made.events).update (Stage.withWeaver made.value)

/-- The world with an empty trace and an empty log. -/
def quiet (w : World Stage) : World Stage :=
  { w with log := [], state := { w.state with trace := [] } }

/-- Reads something off the stage. -/
def ask {α : Type} (view : Stage → α) : SessionStep α := do pure (view (← get).state)

/-- Takes a step that only computes and logs. -/
def logged {α : Type} (compute : Stage → Logged α) : SessionStep α := do
  let x ← ask compute
  modify (World.record x.events)
  pure x.value

/-- Takes a step of the weaver and puts the changed weaver on the stage. -/
def weaving {α : Type} (step : Weaver Code → Logged (Weaver Code × α)) : SessionStep α := do
  let (weaver, answer) ← logged fun s => step s.weaver
  modify (World.update (Stage.withWeaver weaver))
  pure answer

/-- Takes a step that may fail and gives its outcome. -/
def acting {α : Type} (x : Action (World Stage) α) : SessionStep (Except Failure α) := fun w =>
  x.start w

/-! ## Types and aspects -/

/-- A method that a type is to have. -/
structure MethodSpec where
  name : String
  params : List String
  /-- The code of the method; without any it is only declared. -/
  body : Option Code
  interceptor : Option (InterceptorMarker Code)
deriving Inhabited

/-- Adds a method to a type. -/
def addMethod (t : TypeDescriptor Code) (m : MethodSpec) : Logged (TypeDescriptor Code) :=
  let added := match m.body with
    | some code => t.method m.name m.params code
    | none => t.declare m.name m.params
  match m.interceptor with
  | some marker => added.interceptedBy marker
  | none => pure added

/-- Builds a type from its methods and registers it. An interceptor may come too early, before any
method. -/
def registerType (t : TypeDescriptor Code) (early : Option (InterceptorMarker Code))
    (methods : List MethodSpec) : SessionStep (TypeDescriptor Code) :=
  weaving fun w => do
    let t ← match early with
      | some marker => t.interceptedBy marker
      | none => pure t
    let t ← methods.foldlM addMethod t
    let w ← w.registerType t
    pure (w, t)

/-- Registers an aspect and gives the number of bindings. -/
def registerAspect (a : Aspect Code) : SessionStep (Except WeaveError Nat) :=
  weaving fun w => w.registerAspect a

/-- Registers a type as a target of its interceptors and gives the number of bindings. -/
def registerTarget (typeName : String) : SessionStep (Except WeaveError Nat) :=
  weaving fun w => w.registerInterceptTarget typeName

/-- Loads an inventory and gives the number of its aspects. -/
def load (inventory : Inventory Code) : SessionStep (Except WeaveError Nat) :=
  weaving fun w => w.loadRegistered inventory

/-- The type of a name. -/
def type? (name : String) : SessionStep (Option (TypeDescriptor Code)) :=
  ask fun s => s.weaver.catalog.resolve? name

/-! ## Instances -/

/-- Keeps a woven instance under a name and gives it back. -/
def keep (name : String) (home : Home) (woven : WovenInstance Code) :
    SessionStep (WovenInstance Code) := do
  modify (World.update (Stage.keep name woven home))
  pure woven

/-- Makes an object of a type. -/
def newTarget (typeName : String) : SessionStep Target := fun w => w.newTarget typeName

/-- Makes an object of a registered type. -/
def instantiate (t : TypeDescriptor Code) : SessionStep (Except WeaveError Target) := fun w =>
  t.instantiate w

/-- Makes a woven object of a type and keeps it under a name; types that are not woven give none. -/
def create (typeName name : String) : SessionStep (Except WeaveError (Option (WovenInstance Code))) := do
  let weaver ← ask Stage.weaver
  match ← (fun w => weaver.createWovenInstance typeName w : SessionStep _) with
  | .ok (some woven) => do pure (.ok (some (← keep name .weaver woven)))
  | .ok none => pure (.ok none)
  | .error e => pure (.error e)

/-- Weaves an object and keeps the woven one under a name: the object of the instance `share`, or a new
one if there is no such instance. -/
def weave (typeName targetType share name : String) : SessionStep (Option (WovenInstance Code)) := do
  let shared ← ask fun s => (s.instances.get? share).map fun kept => kept.woven.target
  let target ← match shared with
    | some target => pure target
    | none => newTarget targetType
  let weaver ← ask Stage.weaver
  match weaver.weaveInstance typeName target with
  | some woven => do pure (some (← keep name .weaver woven))
  | none => pure none

/-- Makes an object of a type, weaves it over the bindings that stand alone, and keeps it. -/
def createAlone (t : TypeDescriptor Code) (mode : WeaveMode) (name : String) :
    SessionStep (Except WeaveError (WovenInstance Code)) := do
  match ← (fun w => (Registration.mk t mode mode.dispatcher).create w : SessionStep _) with
  | .ok woven => do pure (.ok (← keep name .standAlone woven))
  | .error e => pure (.error e)

/-! ## Calls -/

/-- How a call came out, and the object it was made on. -/
structure CallReport where
  outcome : Except Failure (Option Value)
  target : Target
deriving Inhabited

/-- Makes a call on the woven instance of a name; without such an instance there is no call. -/
def calling (name : String)
    (call : WovenInstance Code → Bindings Code → Action (World Stage) (Option Value)) :
    SessionStep (Option CallReport) := do
  match ← ask fun s => s.instances.get? name with
  | none => pure none
  | some kept => do
    let bindings ← ask fun s => s.bindingsOf kept.home
    let outcome ← acting (call kept.woven bindings)
    pure (some ⟨outcome, kept.woven.target⟩)

/-- Calls the method of a signature on the woven instance of a name. -/
def invokeSignature (name : String) (signature : Signature) (args : List Value) :
    SessionStep (Option CallReport) :=
  calling name fun woven bindings => woven.invokeSignature Script.behaviours bindings signature args

/-- Calls a method of a given name and parameter types on the woven instance of a name. -/
def invoke (name method : String) (params : List String) (args : List Value) :
    SessionStep (Option CallReport) :=
  calling name fun woven bindings => woven.invoke Script.behaviours bindings method params args

/-- Calls a method directly on a new object, without any weaving. -/
def invokeDirect (m : Method Code) (targetType : String) (args : List Value) :
    SessionStep CallReport := do
  let target ← newTarget targetType
  let outcome ← acting (m.invoke Script.behaviours target args)
  pure ⟨outcome, target⟩

/-- Runs steps around a call that nobody dispatched, and gives the join point as they left it. -/
def runAround (m : Method Code) (targetType : String) (args : List Value) (steps : List Step) :
    SessionStep (CallReport × JoinPoint) := do
  let target ← newTarget targetType
  fun w =>
    let b := Script.behaviours
    let jp := JoinPoint.start target m.descriptor args w.clock
    let (outcome, (left, after)) := (b.around (.script steps)).run (m.proceed b) (jp, w)
    ((⟨outcome, target⟩, left), after)

/-- The counters of an object, if it has any. -/
def counters (target : Target) : SessionStep (Option Script.Counters) :=
  ask fun s => s.countersOf target

/-! ## Bindings that stand alone -/

/-- Binds one declaration to all methods that its selector selects, whatever their namespace. -/
def bindDeclaration (d : Declaration Code) : SessionStep (Except WeaveError Nat) := do
  match Pointcut.compile d.selector with
  | .error e => pure (.error e)
  | .ok p => do
    let methods ← ask fun s => p.select s.weaver.catalog
    let advices ← logged fun s => s.standAlone.advices.bind methods d.advice
    modify (World.update fun s => s.withStandAlone { s.standAlone with advices := advices })
    pure (.ok methods.length)

/-- Binds the declarations of an aspect one by one. -/
def bind (a : Aspect Code) : SessionStep (List (Except WeaveError Nat)) :=
  a.declarations.mapM bindDeclaration

/-- The advices that the bindings of a home have for a signature. -/
def adviceSet? (home : Home) (signature : Signature) : SessionStep (Option (AdviceSet Code)) :=
  ask fun s => (s.bindingsOf home).advices.adviceSet? signature

/-- Puts the advices for a signature aside under a name; says whether there were any. -/
def snapshot (signature : Signature) (name : String) : SessionStep Bool := do
  match ← adviceSet? .standAlone signature with
  | some set => do
    modify (World.update fun s => { s with snapshots := s.snapshots.insert name set })
    pure true
  | none => pure false

/-- Puts other interceptors in place of those of a home. -/
def setInterceptors (home : Home) (interceptors : InterceptorRegistry Code) : SessionStep Unit :=
  modify (World.update fun s =>
    match home with
    | .weaver => s.withWeaver (s.weaver.withInterceptors interceptors)
    | .standAlone => s.withStandAlone { s.standAlone with interceptors := interceptors })

/-- Binds a method to an interceptor and gives the number of interceptors made so far. -/
def bindInterceptor (signature : Signature) (marker : InterceptorMarker Code) : SessionStep Nat := do
  let interceptors ← logged fun s => s.standAlone.interceptors.bind signature marker
  setInterceptors .standAlone interceptors
  pure interceptors.singletonCount

/-- Fetches the interceptor of a kind, which is made if it is not there. -/
def fetch (home : Home) (marker : InterceptorMarker Code) : SessionStep (Interceptor Code) := do
  let (interceptors, interceptor) ← logged fun s => (s.bindingsOf home).interceptors.fetch marker
  setInterceptors home interceptors
  pure interceptor

/-- The interceptor that a method is bound to. -/
def binding? (home : Home) (signature : Signature) : SessionStep (Option (Interceptor Code)) :=
  ask fun s => (s.bindingsOf home).interceptors.binding? signature

/-- How many interceptors the registry of a home has made. -/
def singletonCount (home : Home) : SessionStep Nat :=
  ask fun s => (s.bindingsOf home).interceptors.singletonCount

/-- The type names of all interceptors that were made, those of the weaver first. -/
def created : SessionStep (List String) :=
  ask fun s => (s.weaver.bindings.interceptors.singletons.values ++
    s.standAlone.interceptors.singletons.values).map (·.marker.typeName)

end Session

end AspectWeaver

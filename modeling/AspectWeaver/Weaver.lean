import AspectWeaver.Advice.Registry
import AspectWeaver.Aspect
import AspectWeaver.Config.Weaver
import AspectWeaver.Interceptor

/-!
# The weaver

A weaver keeps the catalog of types, the advices and interceptors bound to their methods, and for each
woven type how its calls are dispatched. Types are woven in two ways: by registering an aspect that
selects one of their methods, or by registering the type as a target of the interceptors in its method
table. Aspects win: a type woven for interceptors is switched over, and never back. Types in excluded
namespaces are never woven.
-/

set_option autoImplicit false

namespace AspectWeaver

/-- How the calls on a type are dispatched. -/
inductive WeaveMode where
  | aspects
  | intercepts
deriving DecidableEq, Inhabited, Repr

def WeaveMode.label : WeaveMode → String
  | .aspects => "Aspects"
  | .intercepts => "Intercepts"

/-- The two ways in which a weaver can handle a call. -/
inductive Dispatcher where
  | advices
  | interceptors
deriving DecidableEq, Inhabited, Repr

/-- What handles the calls on a type that is woven in a given way. -/
def WeaveMode.dispatcher : WeaveMode → Dispatcher
  | .aspects => .advices
  | .intercepts => .interceptors

structure Registration (β : Type) where
  descriptor : TypeDescriptor β
  mode : WeaveMode
  /-- What handles the calls on its instances. -/
  dispatcher : Dispatcher
deriving Inhabited

/-- What dispatching needs to know: the bound advices and the bound interceptors. -/
structure Bindings (β : Type) where
  advices : AdviceRegistry β
  interceptors : InterceptorRegistry β
deriving Inhabited

/-- Nothing bound yet; the interceptors made for these bindings belong to `name`. -/
def Bindings.empty {β : Type} (name : String) : Bindings β :=
  ⟨AdviceRegistry.empty, InterceptorRegistry.empty name⟩

structure Weaver (β : Type) where
  config : WeaverConfig
  catalog : Catalog β
  bindings : Bindings β
  /-- The woven types, each under its name. -/
  registrations : Table String (Registration β)
deriving Inhabited

namespace Weaver

variable [RegexEngine] {β : Type}

/-- A weaver that knows no types; its interceptors belong to `name`. -/
def new (name : String) (config : WeaverConfig) : Weaver β :=
  ⟨config, Catalog.empty, Bindings.empty name, Table.empty⟩

/-- Whether a type is woven. -/
def isWoven (w : Weaver β) (typeName : String) : Bool := w.registrations.contains typeName

/-- How a type is woven, if it is. -/
def registration? (w : Weaver β) (typeName : String) : Option (Registration β) :=
  w.registrations.get? typeName

/-- The advices bound to a signature. -/
def adviceSet? (w : Weaver β) (signature : Signature) : Option (AdviceSet β) :=
  w.bindings.advices.adviceSet? signature

def withAdvices (w : Weaver β) (advices : AdviceRegistry β) : Weaver β :=
  { w with bindings := { w.bindings with advices := advices } }

def withInterceptors (w : Weaver β) (interceptors : InterceptorRegistry β) : Weaver β :=
  { w with bindings := { w.bindings with interceptors := interceptors } }

/-- Registers a type; if its name is woven already, it stays woven as before with the new methods. -/
def registerType (w : Weaver β) (t : TypeDescriptor β) : Logged (Weaver β) := do
  let catalog ← w.catalog.register t
  let registrations := match w.registrations.get? t.name with
    | some old => w.registrations.insert t.name { old with descriptor := t }
    | none => w.registrations
  pure { w with catalog := catalog, registrations := registrations }

/-- The methods that a pointcut selects, without those of excluded types, which are logged. -/
def select (w : Weaver β) (p : Pointcut) : Logged (List (MatchedMethod β)) := do
  let skipped := (p.select w.catalog).filter fun m => w.config.isExcluded m.declaringType.name
  skipped.forM fun m =>
    Logged.tell .debug "Skipping method in excluded namespace"
      [("signature", .text m.method.signature.text)]
  pure ((p.select w.catalog).filter fun m => !w.config.isExcluded m.declaringType.name)

/-- Marks a type as woven for aspects. -/
def markAspectTarget (w : Weaver β) (t : TypeDescriptor β) : Logged (Weaver β) := do
  let marked := { w with registrations := w.registrations.insert t.name ⟨t, .aspects, .advices⟩ }
  match w.registrations.get? t.name with
  | some ⟨_, .aspects, _⟩ => pure w
  | some ⟨_, .intercepts, _⟩ => do
    Logged.tell .warn "Type was woven for interceptors, switching to aspect dispatch"
      [("type_name", .text t.name)]
    pure marked
  | none => pure marked

/-- Binds one declaration of an aspect and gives the number of bindings. -/
def bindDeclaration (w : Weaver β) (aspect : String) (p : Pointcut) (advice : Advice β) :
    Logged (Weaver β × Nat) := do
  let methods ← w.select p
  if methods.isEmpty then
    if w.config.warnUnmatchedSelectors then
      Logged.tell .warn "Selector matched no method"
        [("aspect", .text aspect), ("selector", .text p.selector)]
    pure (w, 0)
  else
    let advices ← w.bindings.advices.bind methods advice
    let w ← methods.foldlM (fun w m => markAspectTarget w m.declaringType) (w.withAdvices advices)
    pure (w, methods.length)

/-- The pointcuts of an aspect, each with its advice; the first selector that is none spoils all. -/
def compileAspect (a : Aspect β) : Except WeaveError (List (Pointcut × Advice β)) :=
  a.declarations.mapM fun d => do
    let p ← Pointcut.compile d.selector
    pure (p, d.advice)

/-- Binds the declarations of an aspect one after the other and gives the number of all bindings. -/
def bindAll (w : Weaver β) (aspect : String) : List (Pointcut × Advice β) → Logged (Weaver β × Nat)
  | [] => pure (w, 0)
  | (p, advice) :: rest => do
    let (w, here) ← w.bindDeclaration aspect p advice
    let (w, later) ← bindAll w aspect rest
    pure (w, here + later)

/-- Registers an aspect and gives the number of bindings. If one of its selectors is malformed, nothing
happens. -/
def registerAspect (w : Weaver β) (a : Aspect β) : Logged (Weaver β × Except WeaveError Nat) :=
  match compileAspect a with
  | .error e => pure (w, .error e)
  | .ok compiled => do
    let (w, bound) ← w.bindAll a.name compiled
    Logged.tell .info "Registered aspect"
      [("aspect", .text a.name), ("advices", .number a.size), ("bound", .number bound)]
    pure (w, .ok bound)

/-- The methods of a type that are marked for an interceptor, with their markers. -/
def markedMethods (t : TypeDescriptor β) : List (Signature × InterceptorMarker β) :=
  t.methods.filterMap fun m => m.interceptor.map fun marker => (m.signature, marker)

/-- Binds the marked methods of a type to their interceptors and gives the number of bindings. Nothing
happens to types that are not concrete, excluded, woven already or without marked methods. -/
def registerInterceptTarget (w : Weaver β) (typeName : String) :
    Logged (Weaver β × Except WeaveError Nat) :=
  match w.catalog.resolve? typeName with
  | none => pure (w, .error (.typeNotFound typeName))
  | some t =>
    if !t.isConcrete || w.config.isExcluded t.name || w.isWoven t.name then do
      Logged.tell .debug "Skipping intercept target" [("type_name", .text typeName)]
      pure (w, .ok 0)
    else
      let marked := markedMethods t
      if marked.isEmpty then pure (w, .ok 0)
      else do
        let interceptors ← marked.foldlM (fun r (signature, marker) => r.bind signature marker)
          w.bindings.interceptors
        Logged.tell .debug "Registered intercept target"
          [("type_name", .text typeName), ("bound", .number marked.length)]
        let registrations := w.registrations.insert t.name ⟨t, .intercepts, .interceptors⟩
        pure ({ w.withInterceptors interceptors with registrations := registrations },
          .ok marked.length)

end Weaver

end AspectWeaver

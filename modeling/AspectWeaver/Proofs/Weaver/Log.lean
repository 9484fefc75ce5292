import AspectWeaver.Proofs.Weaver.Run

/-!
# What registrations log

Registering an aspect logs one part for each of its declarations and a closing event. A part says which methods of
excluded types were skipped, warns if nothing was bound, and names the bindings and the types that they switched
from interceptors to aspects (`Weaver.declarationLog`, `Weaver.registerAspect_log`). The other registrations
use other messages, and all events are debug events or more important (`Weaver.all_registerAspect`,
`Weaver.all_registerType`, `Weaver.all_registerInterceptTarget`).
-/

set_option autoImplicit false

namespace AspectWeaver

variable {β : Type}

/-! ## Events -/

namespace Event

/-- The content of a field, if the event has it. -/
def field? (e : Event) (name : String) : Option FieldValue := e.fields.lookup name

/-- An event with one of some messages that is a debug event or more important. -/
def IsOneOf (messages : List String) (e : Event) : Prop :=
  e.message ∈ messages ∧ e.level.verbosity ≤ Level.debug.verbosity

instance (messages : List String) (e : Event) : Decidable (e.IsOneOf messages) := inferInstanceAs (Decidable (_ ∧ _))

end Event

/-- The events of a log that have a message. -/
def saying (message : String) (log : List Event) : List Event := log.filter fun e => e.message = message

/-- What is kept of a log when events are recorded from a level up. -/
def recorded (level : Level) (log : List Event) : List Event :=
  log.filter fun e => e.level.verbosity ≤ level.verbosity

/-- The events with a message in two logs are those of the first and then those of the second. -/
@[simp] theorem saying_append (message : String) (earlier later : List Event) :
    saying message (earlier ++ later) = saying message earlier ++ saying message later :=
  List.filter_append earlier later

/-- What is recorded of two logs is what is recorded of the first and then of the second. -/
theorem recorded_append (level : Level) (earlier later : List Event) :
    recorded level (earlier ++ later) = recorded level earlier ++ recorded level later :=
  List.filter_append earlier later

/-- A log is recorded as a whole if no event in it is more verbose than the level. -/
theorem recorded_eq_self {level : Level} {log : List Event} (h : ∀ e ∈ log, e.level.verbosity ≤ level.verbosity) :
    recorded level log = log :=
  List.filter_eq_self.mpr fun e he => decide_eq_true (h e he)

/-- Where no event has a message, none is found that says it. -/
theorem saying_eq_nil {message : String} {log : List Event} (h : ∀ e ∈ log, e.message ≠ message) :
    saying message log = [] := by
  apply List.filter_eq_nil_iff.mpr
  intro e he
  simpa using h e he

/-- Events that have one message are all said or none. -/
theorem saying_map {α : Type} (f : α → Event) {text : String} (h : ∀ x, (f x).message = text) (message : String)
    (xs : List α) : saying message (xs.map f) = if text = message then xs.map f else [] := by
  unfold saying
  rw [List.filter_map]
  by_cases htext : text = message <;> simp [Function.comp_def, h, htext]

/-- An event under a condition says something if the condition holds and the event says it. -/
theorem saying_ite {message : String} {e : Event} (c : Prop) [Decidable c] :
    saying message (if c then [e] else []) = if c ∧ e.message = message then [e] else [] := by
  by_cases hc : c <;> by_cases he : e.message = message <;> simp [saying, hc, he]

namespace Logged

variable {α γ : Type} {P : Event → Prop}

/-- All that a step logs has a property. -/
def All (P : Event → Prop) (x : Logged α) : Prop := ∀ e ∈ x.events, P e

/-- A value alone logs nothing, so all that it logs has any property. -/
theorem all_pure (a : α) : (pure a : Logged α).All P := by
  intro e he
  cases he

/-- All that telling an event logs has a property if the event has it. -/
theorem all_tell {level : Level} {message : String} {fields : List (String × FieldValue)}
    (h : P ⟨level, message, fields⟩) : (tell level message fields).All P := by
  intro e he
  rw [events_tell, List.mem_singleton] at he
  rwa [he]

/-- All that two steps log has a property if all that each of them logs has it. -/
theorem All.bind {x : Logged α} {f : α → Logged γ} (hx : x.All P) (hf : (f x.value).All P) : (x >>= f).All P := by
  intro e he
  rw [events_bind, List.mem_append] at he
  exact he.elim (hx e) (hf e)

/-- All that a loop logs has a property if all that each round logs has it. -/
theorem all_foldlM {f : α → γ → Logged α} (h : ∀ a x, (f a x).All P) (l : List γ) (a : α) :
    (l.foldlM f a).All P := by
  induction l generalizing a with
  | nil => exact all_pure a
  | cons x l ih =>
      rw [List.foldlM_cons]
      exact (h a x).bind (ih _)

/-- A step whose messages are all others says nothing with this one. -/
theorem All.saying_eq_nil {x : Logged α} {messages : List String} (h : x.All (·.IsOneOf messages)) {message : String}
    (hnone : message ∉ messages) : saying message x.events = [] :=
  AspectWeaver.saying_eq_nil fun e he hsame => hnone (hsame ▸ (h e he).1)

/-- A loop over a list logs what its rounds log, one after the other. -/
theorem events_forM (f : γ → Logged Unit) (l : List γ) : (l.forM f).events = l.flatMap fun x => (f x).events := by
  induction l with
  | nil => rfl
  | cons x l ih => rw [List.forM_eq_forM, List.forM_cons, events_bind, ← List.forM_eq_forM, ih, List.flatMap_cons]

end Logged

/-! ## The events of aspects -/

/-- The event of a binding. -/
def Binding.event (x : Binding β) : Event :=
  ⟨.debug, "Bound advice",
    [("signature", .text x.signature.text), ("advice", .text x.advice.name), ("kind", .text x.advice.kind.name),
      ("order", .number x.advice.order)]⟩

/-- The event of a selected method that is not bound because its type is excluded. -/
def MatchedMethod.skipping (m : MatchedMethod β) : Event :=
  ⟨.debug, "Skipping method in excluded namespace", [("signature", .text m.method.signature.text)]⟩

/-- The warning about a declaration that binds nothing. -/
def unmatched (aspect selector : String) : Event :=
  ⟨.warn, "Selector matched no method", [("aspect", .text aspect), ("selector", .text selector)]⟩

/-- The warning about a type that goes over from interceptors to aspects. -/
def switching (typeName : String) : Event :=
  ⟨.warn, "Type was woven for interceptors, switching to aspect dispatch", [("type_name", .text typeName)]⟩

/-- The event that closes the registration of an aspect. -/
def Aspect.registered (a : Aspect β) (bound : Nat) : Event :=
  ⟨.info, "Registered aspect", [("aspect", .text a.name), ("advices", .number a.size), ("bound", .number bound)]⟩

/-- The events of bindings have the message of bindings and no other. -/
theorem saying_event (message : String) (xs : List (Binding β)) :
    saying message (xs.map Binding.event) = if "Bound advice" = message then xs.map Binding.event else [] :=
  saying_map Binding.event (fun _ => rfl) message xs

/-- The events of skipped methods have the message of skipped methods and no other. -/
theorem saying_skipping (message : String) (ms : List (MatchedMethod β)) :
    saying message (ms.map MatchedMethod.skipping) =
      if "Skipping method in excluded namespace" = message then ms.map MatchedMethod.skipping else [] :=
  saying_map MatchedMethod.skipping (fun _ => rfl) message ms

/-- The events of switched types have the message of switched types and no other. -/
theorem saying_switching (message : String) (types : List String) :
    saying message (types.map switching) =
      if "Type was woven for interceptors, switching to aspect dispatch" = message then types.map switching else [] :=
  saying_map switching (fun _ => rfl) message types

/-- The messages that only the registration of an aspect uses. -/
def aspectMessages : List String :=
  ["Bound advice", "Skipping method in excluded namespace", "Selector matched no method",
    "Type was woven for interceptors, switching to aspect dispatch", "Registered aspect"]

/-- The event of a binding has a message of aspects. -/
theorem isOneOf_event (x : Binding β) : x.event.IsOneOf aspectMessages := by
  simp [Event.IsOneOf, Binding.event, aspectMessages, Level.verbosity]

/-- The event of a skipped method has a message of aspects. -/
theorem isOneOf_skipping (m : MatchedMethod β) : m.skipping.IsOneOf aspectMessages := by
  simp [Event.IsOneOf, MatchedMethod.skipping, aspectMessages, Level.verbosity]

/-- The warning about a selector without methods has a message of aspects. -/
theorem isOneOf_unmatched (aspect selector : String) : (unmatched aspect selector).IsOneOf aspectMessages := by
  simp [Event.IsOneOf, unmatched, aspectMessages, Level.verbosity]

/-- The event of a switched type has a message of aspects. -/
theorem isOneOf_switching (typeName : String) : (switching typeName).IsOneOf aspectMessages := by
  simp [Event.IsOneOf, switching, aspectMessages, Level.verbosity]

/-- The event of a registered aspect has a message of aspects. -/
theorem isOneOf_registered (a : Aspect β) (bound : Nat) : (a.registered bound).IsOneOf aspectMessages := by
  simp [Event.IsOneOf, Aspect.registered, aspectMessages, Level.verbosity]

/-! ## Switched types -/

/-- How a type is woven, by the table of registrations. -/
def modeIn (registrations : Table String (Registration β)) (typeName : String) : Option WeaveMode :=
  (registrations.get? typeName).map (·.mode)

/-- The types that bindings switch from interceptors to aspects, one after the other. -/
def switched (registrations : Table String (Registration β)) : List (Binding β) → List String
  | [] => []
  | x :: xs =>
    let later := switched (markFor registrations x) xs
    if modeIn registrations x.typeName = some .intercepts then x.typeName :: later else later

/-- Bindings switch types, and those after them switch what is still woven for interceptors then. -/
theorem switched_append (registrations : Table String (Registration β)) (xs ys : List (Binding β)) :
    switched registrations (xs ++ ys) = switched registrations xs ++ switched (xs.foldl markFor registrations) ys := by
  induction xs generalizing registrations with
  | nil => rfl
  | cons x xs ih =>
      rw [List.cons_append, switched, switched, ih, List.foldl_cons]
      split <;> rfl

/-! ## Registering an aspect -/

/-- The engine does not change a pointcut. -/
theorem Pointcut.eq_of_built [RegexEngine] {p q : Pointcut} (h : p.built = .ok q) : q = p := by
  unfold built at h
  split at h
  next =>
    cases h
    rfl
  next => cases h

/-- A pointcut keeps the text that it was made from. -/
theorem Pointcut.selector_of_compile [RegexEngine] {selector : String} {p : Pointcut} (h : compile selector = .ok p) :
    p.selector = selector := by
  unfold compile at h
  split at h
  next => rw [eq_of_built h, ofParts]
  next => cases h

namespace Weaver

/-- The methods that a pointcut selects at the moment and that belong to excluded types. -/
def skipped [RegexEngine] (w : Weaver β) (p : Pointcut) : List (MatchedMethod β) :=
  (p.select w.catalog).filter fun m => w.config.isExcluded m.declaringType.name

/-- Selecting methods logs those that are skipped. -/
theorem events_select [RegexEngine] (w : Weaver β) (p : Pointcut) :
    (w.select p).events = (w.skipped p).map MatchedMethod.skipping := by
  unfold select
  rw [Logged.events_bind, Logged.events_forM, Logged.events_pure, List.append_nil]
  exact List.map_eq_flatMap.symm

/-- Binding an advice to methods logs each binding. -/
theorem events_bind (r : AdviceRegistry β) (advice : Advice β) (methods : List (MatchedMethod β)) :
    (r.bind methods advice).events = (methods.map (Binding.mk advice)).map Binding.event := by
  unfold AdviceRegistry.bind
  induction methods generalizing r with
  | nil => rfl
  | cons m methods ih =>
      rw [List.foldlM_cons, Logged.events_bind, ih]
      rfl

/-- Marking a type for aspects logs that it is switched, if it is. -/
theorem events_markAspectTarget (w : Weaver β) (x : Binding β) :
    (w.markAspectTarget x.matched.declaringType).events = (switched w.registrations [x]).map switching := by
  unfold markAspectTarget
  split
  next hold => simp [switched, modeIn, Binding.typeName, hold]
  next hold => simp [switched, modeIn, Binding.typeName, switching, hold]
  next hold => simp [switched, modeIn, Binding.typeName, hold]

/-- Marking the types of several methods logs those that are switched. -/
theorem events_foldlM_markAspectTarget (w : Weaver β) (advice : Advice β) (methods : List (MatchedMethod β)) :
    (methods.foldlM (fun w m => markAspectTarget w m.declaringType) w).events =
      (switched w.registrations (methods.map (Binding.mk advice))).map switching := by
  induction methods generalizing w with
  | nil => rfl
  | cons m methods ih =>
      have hsplit := switched_append w.registrations [⟨advice, m⟩] (methods.map (Binding.mk advice))
      rw [List.singleton_append] at hsplit
      rw [List.foldlM_cons, Logged.events_bind, ih, events_markAspectTarget w ⟨advice, m⟩,
        value_markAspectTarget w ⟨advice, m⟩, List.map_cons, hsplit, List.map_append]
      rfl

/-- What the registration of an aspect logs for one declaration. -/
def declarationLog [RegexEngine] (w : Weaver β) (aspect : String) (p : Pointcut) (advice : Advice β) : List Event :=
  let bindings := (w.selected p).map (Binding.mk advice)
  (w.skipped p).map MatchedMethod.skipping ++
    (if bindings = [] ∧ w.config.warnUnmatchedSelectors = true then [unmatched aspect p.selector] else []) ++
    bindings.map Binding.event ++ (switched w.registrations bindings).map switching

/-- Of each message, the log of a declaration has the events of one of its four parts. -/
theorem saying_declarationLog [RegexEngine] (message : String) (w : Weaver β) (aspect : String) (p : Pointcut)
    (advice : Advice β) :
    saying message (w.declarationLog aspect p advice) =
      let bindings := (w.selected p).map (Binding.mk advice)
      (if "Skipping method in excluded namespace" = message then (w.skipped p).map MatchedMethod.skipping else []) ++
      (if (bindings = [] ∧ w.config.warnUnmatchedSelectors = true) ∧ "Selector matched no method" = message then
        [unmatched aspect p.selector] else []) ++
      (if "Bound advice" = message then bindings.map Binding.event else []) ++
      if "Type was woven for interceptors, switching to aspect dispatch" = message then
        (switched w.registrations bindings).map switching else [] := by
  simp only [declarationLog, saying_append, saying_skipping, saying_ite, saying_event, saying_switching, unmatched]

/-- Binding a declaration logs what the log of the declaration says. -/
theorem events_bindDeclaration [RegexEngine] (w : Weaver β) (aspect : String) (p : Pointcut) (advice : Advice β) :
    (w.bindDeclaration aspect p advice).events = w.declarationLog aspect p advice := by
  have hselect : (w.select p).value = w.selected p := rfl
  unfold bindDeclaration declarationLog
  rw [Logged.events_bind, events_select, hselect]
  cases hempty : (w.selected p).isEmpty with
  | true =>
      rw [if_pos rfl, List.isEmpty_iff.mp hempty]
      cases w.config.warnUnmatchedSelectors <;> simp [switched, unmatched]
  | false =>
      have hsome : w.selected p ≠ [] := List.isEmpty_eq_false_iff.mp hempty
      rw [if_neg Bool.false_ne_true, Logged.events_bind, events_bind, Logged.events_bind,
        events_foldlM_markAspectTarget _ advice]
      simp [hsome, withAdvices]

/-- What the registration of an aspect logs for its declarations, one part for each. -/
def declarationLogs [RegexEngine] (w : Weaver β) (aspect : String) : List (Pointcut × Advice β) → List (List Event)
  | [] => []
  | (p, advice) :: rest =>
    w.declarationLog aspect p advice ::
      (w.bindEach ((w.selected p).map (Binding.mk advice))).declarationLogs aspect rest

/-- Binding all declarations logs their logs, one after the other. -/
theorem events_bindAll [RegexEngine] (w : Weaver β) (aspect : String) (compiled : List (Pointcut × Advice β)) :
    (w.bindAll aspect compiled).events = (w.declarationLogs aspect compiled).flatten := by
  induction compiled generalizing w with
  | nil => rfl
  | cons x compiled ih =>
      obtain ⟨p, advice⟩ := x
      unfold bindAll
      rw [Logged.events_bind, events_bindDeclaration, value_bindDeclaration]
      dsimp only
      rw [Logged.events_bind, ih, Logged.events_pure, List.append_nil, declarationLogs, List.flatten_cons]

/-- The log of a declaration tells each of its bindings. -/
theorem saying_bound_declarationLog [RegexEngine] (w : Weaver β) (aspect : String) (p : Pointcut) (advice : Advice β) :
    saying "Bound advice" (w.declarationLog aspect p advice) =
      ((w.selected p).map (Binding.mk advice)).map Binding.event := by
  rw [saying_declarationLog]
  simp

/-- The log of a declaration tells each type that it switches. -/
theorem saying_switching_declarationLog [RegexEngine] (w : Weaver β) (aspect : String) (p : Pointcut)
    (advice : Advice β) :
    saying "Type was woven for interceptors, switching to aspect dispatch" (w.declarationLog aspect p advice) =
      (switched w.registrations ((w.selected p).map (Binding.mk advice))).map switching := by
  rw [saying_declarationLog]
  simp

/-- What a part of a log tells about a declaration: its bindings, the methods that are skipped, and a warning if
there are no bindings and such warnings are wanted. -/
structure Tells [RegexEngine] (w : Weaver β) (aspect : String) (d : Declaration β) (p : Pointcut)
    (part : List Event) : Prop where
  pointcut : Pointcut.compile d.selector = .ok p
  bound : saying "Bound advice" part = ((w.selected p).map (Binding.mk d.advice)).map Binding.event
  skipped : saying "Skipping method in excluded namespace" part = (w.skipped p).map MatchedMethod.skipping
  unmatched : saying "Selector matched no method" part =
    if saying "Bound advice" part = [] ∧ w.config.warnUnmatchedSelectors = true then [unmatched aspect d.selector]
    else []

/-- The log of a declaration tells what it binds, skips and switches, and warns if it selects nothing. -/
theorem tells_declarationLog [RegexEngine] (w : Weaver β) (aspect : String) {d : Declaration β} {p : Pointcut}
    (h : Pointcut.compile d.selector = .ok p) : w.Tells aspect d p (w.declarationLog aspect p d.advice) := by
  refine ⟨h, w.saying_bound_declarationLog aspect p d.advice, ?_, ?_⟩
  · rw [saying_declarationLog]
    simp
  · rw [saying_bound_declarationLog, saying_declarationLog, Pointcut.selector_of_compile h]
    simp

/-- Bindings change neither what is selected nor what is excluded. -/
theorem Tells.of_bindEach [RegexEngine] {w : Weaver β} {xs : List (Binding β)} {aspect : String}
    {d : Declaration β} {p : Pointcut} {part : List Event} (h : (w.bindEach xs).Tells aspect d p part) :
    w.Tells aspect d p part :=
  ⟨h.pointcut, h.bound, h.skipped, h.unmatched⟩

/-- Each declaration has its part. -/
theorem forall₂_tells [RegexEngine] (w : Weaver β) (aspect : String) {declarations : List (Declaration β)}
    {compiled : List (Pointcut × Advice β)}
    (h : List.Forall₂ (fun d x => Pointcut.compile d.selector = .ok x.1 ∧ x.2 = d.advice) declarations compiled) :
    List.Forall₂ (fun d part => ∃ p, w.Tells aspect d p part) declarations (w.declarationLogs aspect compiled) := by
  induction h generalizing w with
  | nil => exact .nil
  | @cons d x _ _ hd _ ih =>
      obtain ⟨p, advice⟩ := x
      obtain ⟨hp, rfl⟩ := hd
      refine .cons ⟨p, w.tells_declarationLog aspect hp⟩ ?_
      have hrest := ih (w.bindEach ((w.selected p).map (Binding.mk d.advice)))
      exact hrest.imp fun _ _ ⟨q, hq⟩ => ⟨q, hq.of_bindEach⟩

/-- Over all declarations, the bindings are those that they make one after the other. -/
theorem saying_declarationLogs [RegexEngine] (w : Weaver β) (aspect : String) (compiled : List (Pointcut × Advice β)) :
    let log := (w.declarationLogs aspect compiled).flatten
    let bindings := compiled.flatMap fun x => (w.selected x.1).map (Binding.mk x.2)
    saying "Bound advice" log = bindings.map Binding.event ∧
      saying "Type was woven for interceptors, switching to aspect dispatch" log =
        (switched w.registrations bindings).map switching := by
  induction compiled generalizing w with
  | nil => exact ⟨rfl, rfl⟩
  | cons x compiled ih =>
      obtain ⟨hbound, hswitched⟩ := ih (w.bindEach ((w.selected x.1).map (Binding.mk x.2)))
      dsimp only at hbound hswitched ⊢
      rw [declarationLogs, List.flatten_cons, List.flatMap_cons, saying_append, saying_append, hbound, hswitched,
        saying_bound_declarationLog, saying_switching_declarationLog, switched_append, List.map_append,
        List.map_append]
      exact ⟨rfl, rfl⟩

/-- Registering an aspect logs its declarations, one after the other, and then how much was bound. -/
theorem registerAspect_log [RegexEngine] (w : Weaver β) {a : Aspect β} {compiled : List (Pointcut × Advice β)}
    (h : compileAspect a = .ok compiled) :
    (w.registerAspect a).events =
      (w.declarationLogs a.name compiled).flatten ++ [a.registered (w.bindingsOf a).length] := by
  unfold registerAspect
  rw [h]
  dsimp only
  rw [Logged.events_bind, events_bindAll, value_bindAll, flatMap_of_compileAspect w h]
  rfl

/-- The log of a declaration has messages of aspects alone. -/
theorem isOneOf_declarationLog [RegexEngine] (w : Weaver β) (aspect : String) (p : Pointcut) (advice : Advice β) :
    ∀ e ∈ w.declarationLog aspect p advice, e.IsOneOf aspectMessages := by
  intro e he
  rw [declarationLog, List.mem_append, List.mem_append, List.mem_append] at he
  rcases he with ((he | he) | he) | he
  · obtain ⟨m, -, rfl⟩ := List.mem_map.mp he
    exact isOneOf_skipping m
  · split at he
    next =>
      rw [List.mem_singleton.mp he]
      exact isOneOf_unmatched aspect p.selector
    next => cases he
  · obtain ⟨x, -, rfl⟩ := List.mem_map.mp he
    exact isOneOf_event x
  · obtain ⟨typeName, -, rfl⟩ := List.mem_map.mp he
    exact isOneOf_switching typeName

/-- Each part of the log of an aspect is the log of one declaration. -/
theorem mem_declarationLogs [RegexEngine] {w : Weaver β} {aspect : String} {compiled : List (Pointcut × Advice β)}
    {part : List Event} (h : part ∈ w.declarationLogs aspect compiled) :
    ∃ (v : Weaver β) (p : Pointcut) (advice : Advice β), part = v.declarationLog aspect p advice := by
  induction compiled generalizing w with
  | nil => cases h
  | cons x compiled ih =>
      rcases List.mem_cons.mp h with rfl | h
      · exact ⟨w, x.1, x.2, rfl⟩
      · exact ih h

/-- Registering an aspect logs messages of aspects alone. -/
theorem all_registerAspect [RegexEngine] (w : Weaver β) (a : Aspect β) :
    (w.registerAspect a).All (·.IsOneOf aspectMessages) := by
  intro e he
  cases h : compileAspect a with
  | error reason =>
      rw [registerAspect_of_malformed w h] at he
      cases he
  | ok compiled =>
      rw [registerAspect_log w h, List.mem_append, List.mem_flatten] at he
      rcases he with ⟨part, hpart, he⟩ | he
      · obtain ⟨v, p, advice, rfl⟩ := mem_declarationLogs hpart
        exact isOneOf_declarationLog v a.name p advice e he
      · rw [List.mem_singleton.mp he]
        exact isOneOf_registered a _

/-! ## Other registrations -/

/-- Registering a type logs that it is registered and nothing else. -/
theorem all_registerType (w : Weaver β) (t : TypeDescriptor β) :
    (w.registerType t).All (·.IsOneOf ["Registered type"]) := by
  have hregister : (w.catalog.register t).All (·.IsOneOf ["Registered type"]) :=
    (Logged.all_tell (by simp [Event.IsOneOf, Level.verbosity])).bind (Logged.all_pure _)
  exact hregister.bind (Logged.all_pure _)

/-- The messages that only the registration of a target uses. -/
def targetMessages : List String :=
  ["Skipping intercept target", "Created interceptor singleton", "Bound interceptor", "Registered intercept target"]

/-- Binding a method to an interceptor logs messages of targets alone. -/
theorem all_bindInterceptor (r : InterceptorRegistry β) (s : Signature) (marker : InterceptorMarker β) :
    (r.bind s marker).All (·.IsOneOf targetMessages) := by
  have hfetch : (r.fetch marker).All (·.IsOneOf targetMessages) := by
    unfold InterceptorRegistry.fetch
    split
    next => exact Logged.all_pure _
    next =>
      exact (Logged.all_tell (by simp [Event.IsOneOf, targetMessages, Level.verbosity])).bind (Logged.all_pure _)
  refine hfetch.bind ?_
  exact (Logged.all_tell (by simp [Event.IsOneOf, targetMessages, Level.verbosity])).bind (Logged.all_pure _)

/-- Registering a target logs messages of targets alone. -/
theorem all_registerInterceptTarget (w : Weaver β) (typeName : String) :
    (w.registerInterceptTarget typeName).All (·.IsOneOf targetMessages) := by
  have hlog (fields : List (String × FieldValue)) {message : String} (h : message ∈ targetMessages) :
      ∀ e ∈ [Event.mk .debug message fields], e.IsOneOf targetMessages := by
    intro e he
    rw [List.mem_singleton.mp he]
    exact ⟨h, Nat.le_refl _⟩
  cases hfound : w.catalog.resolve? typeName with
  | none =>
      rw [registerInterceptTarget_of_unknown hfound]
      exact List.forall_mem_nil _
  | some t =>
      by_cases ht : w.IsTarget t
      · rw [registerInterceptTarget_of_isTarget hfound ht]
        intro e he
        rcases List.mem_append.mp he with he | he
        · have hbind (r : InterceptorRegistry β) (x : Signature × InterceptorMarker β) :
              (r.bind x.1 x.2).All (·.IsOneOf targetMessages) := all_bindInterceptor r x.1 x.2
          exact Logged.all_foldlM hbind _ _ e he
        · exact hlog _ (by decide) e he
      · rcases registerInterceptTarget_of_not_isTarget hfound ht with h | h
        · rw [h]
          exact List.forall_mem_nil _
        · rw [h]
          exact hlog _ (by decide)

end Weaver

end AspectWeaver

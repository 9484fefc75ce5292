import AspectWeaver.Proofs.Weaver.Log
import AspectWeaver.Proofs.Weaver.Modes
import AspectWeaver.Proofs.Weaver.Singletons

/-!
# Interceptors are a function of the history

A run binds marked methods to interceptors only where it registers a type as a target with a positive
answer; these methods with their markers, in order, are its markings. What the run leaves in the
interceptor registry is what they leave there, bound one after the other (`after_interceptors`). The top is
`interceptors_after`, which also says when the registration of a target fails, when it binds nothing, and
that the interceptor of a kind is made only once and is the same from then on.
-/

set_option autoImplicit false

namespace AspectWeaver

variable {β : Type}

/-! ## Steps that make no interceptor -/

namespace Logged

/-- Nothing that a step logs is the creation of an interceptor. -/
def MakesNone {α : Type} (x : Logged α) : Prop :=
  ∀ e ∈ x.events, e.message ≠ "Created interceptor singleton"

/-- There are no creations in the log of a step that makes no interceptor. -/
theorem MakesNone.creations_eq_nil {α : Type} {x : Logged α} (h : x.MakesNone) :
    InterceptorRegistry.creations x.events = [] := by
  unfold InterceptorRegistry.creations
  rw [List.filter_eq_nil_iff]
  intro e he hmessage
  exact h e he (of_decide_eq_true hmessage)

/-- A step makes no interceptor if all that it logs has other messages. -/
theorem All.makesNone {α : Type} {x : Logged α} {messages : List String} (h : x.All (·.IsOneOf messages))
    (hnone : "Created interceptor singleton" ∉ messages) : x.MakesNone := by
  intro e he hmessage
  exact hnone (hmessage ▸ (h e he).1)

end Logged

namespace Weaver

/-- Registering a type makes no interceptor. -/
theorem makesNone_registerType (w : Weaver β) (t : TypeDescriptor β) : (w.registerType t).MakesNone :=
  (w.all_registerType t).makesNone (by decide)

/-- Registering an aspect makes no interceptor. -/
theorem makesNone_registerAspect [RegexEngine] (w : Weaver β) (a : Aspect β) : (w.registerAspect a).MakesNone :=
  (w.all_registerAspect a).makesNone (by decide)

end Weaver

/-! ## Registering a target -/

namespace Weaver

variable {w : Weaver β} {typeName : String} {t : TypeDescriptor β}

/-- A type that is no target is answered with zero, and no interceptor is made. -/
theorem answer_of_not_isTarget (h : w.catalog.resolve? typeName = some t) (ht : ¬ w.IsTarget t) :
    (w.registerInterceptTarget typeName).value = (w, .ok 0) ∧
      (w.registerInterceptTarget typeName).MakesNone := by
  rcases registerInterceptTarget_of_not_isTarget h ht with h | h
  · rw [h]
    exact ⟨rfl, nofun⟩
  · rw [h]
    refine ⟨rfl, ?_⟩
    intro e he
    rw [List.mem_singleton.mp he]
    show "Skipping intercept target" ≠ "Created interceptor singleton"
    decide

/-- What the registration of a target logs as made is what the registry has more than before. -/
theorem creations_of_isTarget (h : w.catalog.resolve? typeName = some t) (ht : w.IsTarget t) :
    (w.intercepting t).bindings.interceptors.accounts = w.bindings.interceptors.accounts ++
      InterceptorRegistry.creations (w.registerInterceptTarget typeName).events := by
  have hlast : (Logged.tell .debug "Registered intercept target"
      [("type_name", .text typeName), ("bound", .number (markedMethods t).length)]).MakesNone :=
    Logged.all_tell (by simp)
  have hnone := hlast.creations_eq_nil
  rw [Logged.events_tell] at hnone
  rw [registerInterceptTarget_of_isTarget h ht, InterceptorRegistry.creations_append, hnone, List.append_nil]
  exact creations_foldlM w.bindings.interceptors (markedMethods t)

/-- A type has as many marked methods as entries of its table carry a marker. -/
theorem length_markedMethods (t : TypeDescriptor β) :
    (markedMethods t).length = t.methods.countP fun m => m.interceptor.isSome := by
  unfold markedMethods
  rw [List.length_filterMap_eq_countP]
  simp only [Option.isSome_map]

/-- The marked methods of a type are the methods of its table that carry a marker. -/
theorem mem_markedMethods (t : TypeDescriptor β) (s : Signature) (marker : InterceptorMarker β) :
    (s, marker) ∈ markedMethods t ↔ ∃ m ∈ t.methods, m.signature = s ∧ m.interceptor = some marker := by
  unfold markedMethods
  simp only [List.mem_filterMap, Option.map_eq_some_iff, Prod.mk.injEq]
  constructor
  · rintro ⟨m, hm, _, hmarker, hs, rfl⟩
    exact ⟨m, hm, hs, hmarker⟩
  · rintro ⟨m, hm, hs, hmarker⟩
    exact ⟨m, hm, marker, hmarker, hs, rfl⟩

/-- A type has no marked methods exactly if no method carries a marker. -/
theorem markedMethods_eq_nil_iff (t : TypeDescriptor β) :
    markedMethods t = [] ↔ ∀ m ∈ t.methods, m.interceptor = none := by
  rw [← List.length_eq_zero_iff, length_markedMethods, List.countP_eq_zero]
  simp only [Bool.not_eq_true, Option.isSome_eq_false_iff, Option.isNone_iff_eq_none]

/-- A type is no target if it is not concrete, or excluded, or woven already, or has no marked methods. -/
theorem not_isTarget_iff : ¬ w.IsTarget t ↔ t.isConcrete = false ∨ w.config.isExcluded t.name = true ∨
    w.isWoven t.name = true ∨ ∀ m ∈ t.methods, m.interceptor = none := by
  rw [← markedMethods_eq_nil_iff]
  constructor
  · intro h
    by_contra hready
    simp only [not_or, Bool.not_eq_false, Bool.not_eq_true] at hready
    obtain ⟨hconcrete, hincluded, hunwoven, hmarked⟩ := hready
    exact h ⟨hconcrete, hincluded, hunwoven, hmarked⟩
  · rintro (h | h | h | h) ht
    · exact Bool.false_ne_true (h.symm.trans ht.concrete)
    · exact Bool.false_ne_true (ht.included.symm.trans h)
    · exact Bool.false_ne_true (ht.unwoven.symm.trans h)
    · exact ht.marked h

/-- What the registration of a target answers, and that it changes nothing unless the answer is positive. -/
theorem registerInterceptTarget_answer (hw : w.Coherent) (typeName : String) :
    let answer := (w.registerInterceptTarget typeName).value
    (∀ e, answer.2 = .error e ↔ e = .typeNotFound typeName ∧ w.catalog.resolve? typeName = none) ∧
    (answer.2 = .ok 0 ↔ ∃ t, w.catalog.resolve? typeName = some t ∧
      (t.isConcrete = false ∨ w.config.isExcluded typeName = true ∨ w.isWoven typeName = true ∨
        ∀ m ∈ t.methods, m.interceptor = none)) ∧
    (∀ n, 0 < n → answer.2 = .ok n → ∃ t, w.catalog.resolve? typeName = some t ∧
      n = t.methods.countP fun m => m.interceptor.isSome) ∧
    ((∀ n, 0 < n → answer.2 ≠ .ok n) → answer.1 = w) := by
  intro answer
  cases hfound : w.catalog.resolve? typeName with
  | none =>
      have hanswer : answer = (w, .error (.typeNotFound typeName)) := by
        simp only [answer, registerInterceptTarget_of_unknown hfound]
      rw [hanswer]
      refine ⟨?_, ?_, ?_, fun _ => rfl⟩
      · intro e
        rw [Except.error.injEq, eq_comm, and_iff_left rfl]
      · simp
      · intro n _ hn
        cases hn
  | some t =>
      have hname : t.name = typeName := hw.catalog.name_of_resolve? typeName t hfound
      subst hname
      simp only [Option.some.injEq, exists_eq_left', ← not_isTarget_iff, ← length_markedMethods]
      by_cases ht : w.IsTarget t
      · have hanswer : answer = (w.intercepting t, .ok (markedMethods t).length) :=
          congrArg Logged.value (registerInterceptTarget_of_isTarget hfound ht)
        have hpos : 0 < (markedMethods t).length := List.length_pos_iff.mpr ht.marked
        rw [hanswer]
        refine ⟨?_, ?_, ?_, ?_⟩
        · simp
        · simp [ht, ht.marked]
        · intro n _ hn
          cases hn
          rfl
        · intro hnone
          exact absurd rfl (hnone _ hpos)
      · have hanswer : answer = (w, .ok 0) := (answer_of_not_isTarget hfound ht).1
        rw [hanswer]
        refine ⟨?_, ?_, ?_, fun _ => rfl⟩
        · simp
        · simp [ht]
        · intro n hpos hn
          cases hn
          exact absurd hpos (Nat.lt_irrefl 0)

end Weaver

/-! ## Runs -/

namespace Weaver

/-- What the registrations of a run give, one after the other. -/
def gather [RegexEngine] {α : Type} (f : Weaver β → WeaverOp β → List α) (w : Weaver β) : List (WeaverOp β) → List α
  | [] => []
  | op :: ops => f w op ++ (w.apply op).gather f ops

/-- What two runs give, one after the other, is what the first gives and then what the second gives. -/
theorem gather_append [RegexEngine] {α : Type} (f : Weaver β → WeaverOp β → List α) (w : Weaver β)
    (earlier later : List (WeaverOp β)) :
    w.gather f (earlier ++ later) = w.gather f earlier ++ (w.after earlier).gather f later := by
  induction earlier generalizing w with
  | nil => rfl
  | cons op earlier ih =>
      rw [List.cons_append, gather, gather, ih, List.append_assoc]
      rfl

/-- The history of a run is what its registrations bind, gathered. -/
theorem history_eq_gather [RegexEngine] (w : Weaver β) (ops : List (WeaverOp β)) :
    w.history ops = w.gather bindingsBy ops := by
  induction ops generalizing w with
  | nil => rfl
  | cons op ops ih => rw [history, gather, ih]

/-- Something is gathered in a run exactly if one of its registrations gives it. -/
theorem mem_gather [RegexEngine] {α : Type} (f : Weaver β → WeaverOp β → List α) (w : Weaver β)
    (ops : List (WeaverOp β)) (x : α) : x ∈ w.gather f ops ↔ w.Occurs ops fun v op => x ∈ f v op := by
  induction ops generalizing w with
  | nil => exact ⟨nofun, fun h => absurd h (not_occurs_nil w _)⟩
  | cons op ops ih => rw [gather, List.mem_append, ih, occurs_cons]

/-- The marked methods that a registration binds, with their markers: those of a type that is registered as
a target with a positive answer. -/
def markingsBy (w : Weaver β) : WeaverOp β → List (Signature × InterceptorMarker β)
  | .registerInterceptTarget typeName =>
    match (w.registerInterceptTarget typeName).value.2, w.catalog.resolve? typeName with
    | .ok (_ + 1), some t => markedMethods t
    | _, _ => []
  | _ => []

/-- The marked methods that a run binds, in order. -/
def markings [RegexEngine] (w : Weaver β) (ops : List (WeaverOp β)) : List (Signature × InterceptorMarker β) :=
  w.gather markingsBy ops

/-- What a registration logs. -/
def eventsBy [RegexEngine] (w : Weaver β) : WeaverOp β → List Event
  | .registerType t => (w.registerType t).events
  | .registerAspect a => (w.registerAspect a).events
  | .registerInterceptTarget typeName => (w.registerInterceptTarget typeName).events

/-- What a run logs, in order. -/
def log [RegexEngine] (w : Weaver β) (ops : List (WeaverOp β)) : List Event := w.gather eventsBy ops

/-- A type is registered as a target with a positive answer, and a method of a given signature carries a
given marker in its table at that moment. -/
def BindsMarker (s : Signature) (marker : InterceptorMarker β) (w : Weaver β) (op : WeaverOp β) : Prop :=
  ∃ typeName n t, op = .registerInterceptTarget typeName ∧
    (w.registerInterceptTarget typeName).value.2 = .ok n ∧ 0 < n ∧
    w.catalog.resolve? typeName = some t ∧ ∃ m ∈ t.methods, m.signature = s ∧ m.interceptor = some marker

/-- A registration marks a signature exactly if it binds a target whose table carries the marker. -/
theorem mem_markingsBy (w : Weaver β) (op : WeaverOp β) (s : Signature) (marker : InterceptorMarker β) :
    (s, marker) ∈ w.markingsBy op ↔ BindsMarker s marker w op := by
  constructor
  · intro h
    cases op with
    | registerType t => cases h
    | registerAspect a => cases h
    | registerInterceptTarget typeName =>
        unfold markingsBy at h
        dsimp only at h
        split at h
        next n t hn hfound =>
          exact ⟨typeName, n + 1, t, rfl, hn, Nat.succ_pos n, hfound, (mem_markedMethods t s marker).mp h⟩
        next => cases h
  · rintro ⟨typeName, n, t, rfl, hn, hpos, hfound, hm⟩
    cases n with
    | zero => exact absurd hpos (Nat.lt_irrefl 0)
    | succ n =>
        unfold markingsBy
        dsimp only
        rw [hn, hfound]
        exact (mem_markedMethods t s marker).mpr hm

/-- The markings of a run are what its targets bound. -/
theorem mem_markings [RegexEngine] (w : Weaver β) (ops : List (WeaverOp β)) (s : Signature)
    (marker : InterceptorMarker β) :
    (s, marker) ∈ w.markings ops ↔ w.Occurs ops (BindsMarker s marker) := by
  refine (mem_gather markingsBy w ops (s, marker)).trans ?_
  simp only [mem_markingsBy]

/-- A registration leaves the interceptors alone, or it registers a target and binds its marked methods. -/
theorem interceptors_cases [RegexEngine] (w : Weaver β) (op : WeaverOp β) :
    ((w.apply op).bindings.interceptors = w.bindings.interceptors ∧ w.markingsBy op = [] ∧
      InterceptorRegistry.creations (w.eventsBy op) = []) ∨
    ∃ typeName t, op = .registerInterceptTarget typeName ∧ w.catalog.resolve? typeName = some t ∧
      w.IsTarget t ∧ w.apply op = w.intercepting t ∧ w.markingsBy op = markedMethods t := by
  cases op with
  | registerType t => exact Or.inl ⟨rfl, rfl, (makesNone_registerType w t).creations_eq_nil⟩
  | registerAspect a =>
      refine Or.inl ⟨?_, rfl, (makesNone_registerAspect w a).creations_eq_nil⟩
      rw [apply_registerAspect]
      rfl
  | registerInterceptTarget typeName =>
      unfold markingsBy eventsBy apply
      dsimp only
      cases hfound : w.catalog.resolve? typeName with
      | none =>
          rw [registerInterceptTarget_of_unknown hfound]
          exact Or.inl ⟨rfl, rfl, rfl⟩
      | some t =>
          by_cases ht : w.IsTarget t
          · have hvalue := congrArg Logged.value (registerInterceptTarget_of_isTarget hfound ht)
            have hpos : (markedMethods t).length ≠ 0 := fun h => ht.marked (List.length_eq_zero_iff.mp h)
            obtain ⟨n, hn⟩ := Nat.exists_eq_succ_of_ne_zero hpos
            refine Or.inr ⟨typeName, t, rfl, hfound, ht, ?_, ?_⟩
            · rw [hvalue]
            · rw [hvalue]
              dsimp only
              rw [hn]
          · obtain ⟨hvalue, hevents⟩ := answer_of_not_isTarget hfound ht
            rw [hvalue]
            exact Or.inl ⟨rfl, rfl, hevents.creations_eq_nil⟩

/-- A registration binds its markings, one after the other, and does nothing else to the interceptors. -/
theorem interceptors_apply [RegexEngine] (w : Weaver β) (op : WeaverOp β) :
    (w.apply op).bindings.interceptors = bindMarked w.bindings.interceptors (w.markingsBy op) := by
  rcases interceptors_cases w op with ⟨hsame, hnone, -⟩ | ⟨typeName, t, -, -, -, happly, hmarked⟩
  · rw [hsame, hnone]
    rfl
  · rw [happly, hmarked]
    rfl

/-- What a registration logs as made is what the registry has more than before. -/
theorem creations_apply [RegexEngine] (w : Weaver β) (op : WeaverOp β) :
    (w.apply op).bindings.interceptors.accounts =
      w.bindings.interceptors.accounts ++ InterceptorRegistry.creations (w.eventsBy op) := by
  rcases interceptors_cases w op with ⟨hsame, -, hnone⟩ | ⟨typeName, t, rfl, hfound, ht, happly, -⟩
  · rw [hsame, hnone, List.append_nil]
  · rw [happly]
    exact creations_of_isTarget hfound ht

/-- The interceptors after a run are those of its markings, bound one after the other. -/
theorem after_interceptors [RegexEngine] (w : Weaver β) (ops : List (WeaverOp β)) :
    (w.after ops).bindings.interceptors = bindMarked w.bindings.interceptors (w.markings ops) := by
  induction ops generalizing w with
  | nil => rfl
  | cons op ops ih =>
      show ((w.apply op).after ops).bindings.interceptors = _
      rw [ih, interceptors_apply]
      exact List.foldl_append.symm

/-- What a run logs as made is what the registry has more than before. -/
theorem creations_log [RegexEngine] (w : Weaver β) (ops : List (WeaverOp β)) :
    (w.after ops).bindings.interceptors.accounts =
      w.bindings.interceptors.accounts ++ InterceptorRegistry.creations (w.log ops) := by
  induction ops generalizing w with
  | nil => exact (List.append_nil _).symm
  | cons op ops ih =>
      have hrest := ih (w.apply op)
      unfold log at hrest ⊢
      rw [gather, InterceptorRegistry.creations_append, ← List.append_assoc, ← creations_apply]
      exact hrest

section

variable (name : String) (config : WeaverConfig) (ops : List (WeaverOp β))

/-- After a run from a new weaver, the interceptor of a kind is that of the first marker of the kind. -/
theorem singleton_after_new [RegexEngine] (id : TypeId) :
    ((new name config).after ops).bindings.interceptors.singletons.get? id =
      (firstMarker? ((new name config).markings ops) id).map (Interceptor.mk name
        (((new name config).after ops).bindings.interceptors.singletons.keys.idxOf id)) := by
  rw [after_interceptors]
  exact singleton_bindMarked name _ id

/-- After a run from a new weaver, a signature is bound to the interceptor of the kind of its last marker. -/
theorem binding?_after_new [RegexEngine] (s : Signature) :
    ((new name config).after ops).bindings.interceptors.binding? s =
      (lastMarker? ((new name config).markings ops) s).bind fun marker =>
        ((new name config).after ops).bindings.interceptors.singletons.get? marker.typeId := by
  rw [after_interceptors, binding?_bindMarked]
  cases lastMarker? ((new name config).markings ops) s <;> rfl

end

/-- After any run from a new weaver there is one interceptor of each kind that a bound marker names, and no
other. The run made it once, from the first marker of its kind, numbered the interceptors in the order in
which it made them, and told of each of them in the log; two of them are one and the same only if they are
of one kind, and no later run replaces any. Each signature is bound to the interceptor of the marker that
was bound to it last, and it is bound exactly when a target that was registered with a positive answer
marked it at that moment. Registering a target fails exactly when its name is unknown and answers zero
exactly when there is nothing to bind or the type may not be woven; a positive answer is the number of
marked entries, and any other answer leaves the weaver as it was. -/
theorem interceptors_after [RegexEngine] (name : String) (config : WeaverConfig) (ops : List (WeaverOp β)) :
    let start : Weaver β := Weaver.new name config
    let w := start.after ops
    let marked := start.markings ops
    let registry := w.bindings.interceptors
    (∀ s marker, (s, marker) ∈ marked ↔ start.Occurs ops (BindsMarker s marker)) ∧
    registry.singletons.keys.Nodup ∧
    registry.made = registry.singletons.keys.length ∧
    (∀ id, (id ∈ registry.singletons.keys ↔ ∃ x ∈ marked, x.2.typeId = id) ∧
      registry.singletons.get? id =
        (firstMarker? marked id).map (Interceptor.mk name (registry.singletons.keys.idxOf id))) ∧
    InterceptorRegistry.creations (start.log ops) = registry.singletons.keys.filterMap (fun id =>
      (firstMarker? marked id).map fun marker => InterceptorRegistry.creation marker.typeName) ∧
    (∀ id i, registry.singletons.get? id = some i → ∀ id' i', registry.singletons.get? id' = some i' →
      (i.same i' = true ↔ id = id')) ∧
    (∀ more id i, registry.singletons.get? id = some i →
      (w.after more).bindings.interceptors.singletons.get? id = some i) ∧
    (∀ s, registry.binding? s =
      (lastMarker? marked s).bind fun marker => registry.singletons.get? marker.typeId) ∧
    (∀ s, (registry.binding? s).isSome = true ↔ ∃ marker, start.Occurs ops (BindsMarker s marker)) ∧
    ∀ typeName, let answer := (w.registerInterceptTarget typeName).value
      (∀ e, answer.2 = .error e ↔ e = .typeNotFound typeName ∧ w.catalog.resolve? typeName = none) ∧
      (answer.2 = .ok 0 ↔ ∃ t, w.catalog.resolve? typeName = some t ∧
        (t.isConcrete = false ∨ config.isExcluded typeName = true ∨ w.isWoven typeName = true ∨
          ∀ m ∈ t.methods, m.interceptor = none)) ∧
      (∀ n, 0 < n → answer.2 = .ok n → ∃ t, w.catalog.resolve? typeName = some t ∧
        n = t.methods.countP fun m => m.interceptor.isSome) ∧
      ((∀ n, 0 < n → answer.2 ≠ .ok n) → answer.1 = w) := by
  intro start w marked registry
  have hoccurs (s : Signature) (marker : InterceptorMarker β) :
      (s, marker) ∈ marked ↔ start.Occurs ops (BindsMarker s marker) := mem_markings start ops s marker
  have hregistry : registry = bindMarked (InterceptorRegistry.empty name) marked := after_interceptors start ops
  have hkeys : registry.singletons.keys = (marked.map fun x => x.2.typeId).eraseDups := by
    rw [hregistry]
    exact keys_bindMarked name marked
  have hnodup : registry.singletons.keys.Nodup := by
    rw [hkeys]
    exact Catalog.nodup_eraseDups _
  have hmade : registry.made = registry.singletons.keys.length := by
    rw [hregistry]
    exact made_bindMarked name marked
  have hsingleton (id : TypeId) : registry.singletons.get? id =
      (firstMarker? marked id).map (Interceptor.mk name (registry.singletons.keys.idxOf id)) :=
    singleton_after_new name config ops id
  have hbinding (s : Signature) : registry.binding? s =
      (lastMarker? marked s).bind fun marker => registry.singletons.get? marker.typeId :=
    binding?_after_new name config ops s
  refine ⟨hoccurs, hnodup, hmade, ?_, ?_, ?_, ?_, hbinding, ?_, ?_⟩
  · intro id
    refine ⟨?_, hsingleton id⟩
    rw [hkeys, List.mem_eraseDups, List.mem_map]
  · have hlog : registry.accounts = InterceptorRegistry.creations (start.log ops) := creations_log start ops
    rw [← hlog, InterceptorRegistry.accounts, Table.values_eq_filterMap hnodup, List.map_filterMap]
    apply List.filterMap_congr
    intro id _
    rw [hsingleton, Option.map_map]
    rfl
  · intro id i hi id' i' hi'
    have hmem : id ∈ registry.singletons.keys := (registry.singletons.mem_keys_iff id).mpr ⟨i, hi⟩
    rw [hsingleton] at hi hi'
    obtain ⟨first, -, rfl⟩ := Option.map_eq_some_iff.mp hi
    obtain ⟨first', -, rfl⟩ := Option.map_eq_some_iff.mp hi'
    simp only [Interceptor.same, decide_true, Bool.true_and, decide_eq_true_eq, List.idxOf_inj hmem]
  · intro more id i hi
    rw [after_interceptors]
    exact singleton_bindMarked_of_some hi _
  · intro s
    simp only [← hoccurs]
    rw [hbinding, ← lastMarker?_isSome_iff]
    cases hlast : lastMarker? marked s with
    | none => rfl
    | some marker =>
        obtain ⟨i, hi⟩ := exists_singleton_bindMarked (InterceptorRegistry.empty name) (mem_of_lastMarker? hlast)
        rw [← hregistry] at hi
        rw [Option.bind_some, hi]
        rfl
  · intro typeName
    have hanswer := registerInterceptTarget_answer ((coherent_new name config).after ops) typeName
    rw [config_after] at hanswer
    exact hanswer

end Weaver

end AspectWeaver

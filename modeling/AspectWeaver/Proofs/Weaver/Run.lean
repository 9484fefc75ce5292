import AspectWeaver.Proofs.Weaver.Catalog
import AspectWeaver.Weaver
import Mathlib.Data.List.Forall2

/-!
# Runs of a weaver

A run is a row of registrations: of types, of aspects and of targets for interceptors. An aspect that is
registered with success makes one binding for every method that one of its declarations selects at that
moment and that does not belong to an excluded type (`Weaver.bindingsOf`); the bindings of all aspects of
a run, in order, are its history. The top is `registerAspect_eq`, which says all that the registration of
an aspect does: it fails and changes nothing, or it makes its bindings one after the other.
-/

set_option autoImplicit false

namespace AspectWeaver

variable {β : Type}

/-- An advice and a method that it is bound to. -/
structure Binding (β : Type) where
  advice : Advice β
  matched : MatchedMethod β

namespace Binding

/-- The signature that the advice is bound to. -/
def signature (x : Binding β) : Signature := x.matched.method.signature

/-- The name of the type that declares the method. -/
def typeName (x : Binding β) : String := x.matched.declaringType.name

end Binding

/-! ## What one binding does -/

/-- Adds the advice of a binding to the set of its signature. -/
def AdviceRegistry.add (r : AdviceRegistry β) (x : Binding β) : AdviceRegistry β :=
  (bindOne x.advice r x.matched).value

/-- Marks the type of a binding as woven for aspects, if it is not marked so already. -/
def markFor (registrations : Table String (Registration β)) (x : Binding β) :
    Table String (Registration β) :=
  match registrations.get? x.typeName with
  | some ⟨_, .aspects, _⟩ => registrations
  | _ => registrations.insert x.typeName ⟨x.matched.declaringType, .aspects, .advices⟩

/-- Makes bindings one after the other. -/
def Weaver.bindEach (w : Weaver β) (xs : List (Binding β)) : Weaver β :=
  { w.withAdvices (xs.foldl AdviceRegistry.add w.bindings.advices) with
    registrations := xs.foldl markFor w.registrations }

/-! ## Registering an aspect -/

namespace Weaver

/-- The methods that a pointcut selects at the moment, without those of excluded types. -/
def selected [RegexEngine] (w : Weaver β) (p : Pointcut) : List (MatchedMethod β) :=
  (p.select w.catalog).filter fun m => !w.config.isExcluded m.declaringType.name

/-- The bindings that an aspect makes at the moment, in the order of its declarations. -/
def bindingsOf [RegexEngine] (w : Weaver β) (a : Aspect β) : List (Binding β) :=
  a.declarations.flatMap fun d =>
    match Pointcut.compile d.selector with
    | .ok p => (w.selected p).map fun m => ⟨d.advice, m⟩
    | .error _ => []

/-- Two rows of bindings are made one after the other. -/
theorem bindEach_append (w : Weaver β) (xs ys : List (Binding β)) :
    w.bindEach (xs ++ ys) = (w.bindEach xs).bindEach ys := by
  simp only [bindEach, withAdvices, List.foldl_append]

/-- Marking a type for aspects changes the registrations and nothing else. -/
theorem value_markAspectTarget (w : Weaver β) (x : Binding β) :
    (w.markAspectTarget x.matched.declaringType).value =
      { w with registrations := markFor w.registrations x } := by
  unfold markAspectTarget markFor
  dsimp only [Binding.typeName]
  rcases w.registrations.get? x.matched.declaringType.name with _ | ⟨t, _ | _, d⟩ <;> rfl

/-- Marking the types of several methods changes the registrations and nothing else. -/
theorem value_foldlM_markAspectTarget (w : Weaver β) (advice : Advice β)
    (methods : List (MatchedMethod β)) :
    (methods.foldlM (fun w m => markAspectTarget w m.declaringType) w).value =
      { w with registrations := (methods.map (Binding.mk advice)).foldl markFor w.registrations } := by
  rw [Logged.value_foldlM]
  induction methods generalizing w with
  | nil => rfl
  | cons m methods ih =>
      rw [List.foldl_cons, ih, value_markAspectTarget w ⟨advice, m⟩]
      rfl

/-- Binding an advice to methods adds the bindings one after the other. -/
theorem value_bind (r : AdviceRegistry β) (advice : Advice β) (methods : List (MatchedMethod β)) :
    (r.bind methods advice).value =
      (methods.map (Binding.mk advice)).foldl AdviceRegistry.add r := by
  unfold AdviceRegistry.bind
  rw [Logged.value_foldlM, List.foldl_map]
  rfl

/-- One declaration makes a binding for each method that it selects. -/
theorem value_bindDeclaration [RegexEngine] (w : Weaver β) (aspect : String) (p : Pointcut) (advice : Advice β) :
    (w.bindDeclaration aspect p advice).value =
      (w.bindEach ((w.selected p).map (Binding.mk advice)), (w.selected p).length) := by
  have hselect : (w.select p).value = w.selected p := rfl
  unfold bindDeclaration
  rw [Logged.value_bind, hselect]
  cases hempty : (w.selected p).isEmpty with
  | true =>
      rw [if_pos rfl, List.isEmpty_iff.mp hempty]
      split <;> rfl
  | false =>
      rw [if_neg Bool.false_ne_true, Logged.value_bind, value_bind, Logged.value_bind,
        value_foldlM_markAspectTarget _ advice]
      rfl

/-- The declarations of an aspect make their bindings one after the other; none of them changes what the
next one selects. -/
theorem value_bindAll [RegexEngine] (w : Weaver β) (aspect : String) (compiled : List (Pointcut × Advice β)) :
    (w.bindAll aspect compiled).value =
      (w.bindEach (compiled.flatMap fun x => (w.selected x.1).map (Binding.mk x.2)),
        (compiled.flatMap fun x => (w.selected x.1).map (Binding.mk x.2)).length) := by
  induction compiled generalizing w with
  | nil => rfl
  | cons x compiled ih =>
      obtain ⟨p, advice⟩ := x
      -- bindings touch neither the catalog nor the configuration
      have hselected (xs : List (Binding β)) (q : Pointcut) : (w.bindEach xs).selected q = w.selected q :=
        rfl
      unfold bindAll
      rw [Logged.value_bind, value_bindDeclaration]
      dsimp only
      rw [Logged.value_bind, ih]
      simp only [hselected, List.flatMap_cons, bindEach_append, List.length_append, List.length_map]
      rfl

/-- The pointcuts of an aspect are those of its declarations, in order, each with the advice of its own. -/
theorem forall₂_compileAspect [RegexEngine] {a : Aspect β} {compiled : List (Pointcut × Advice β)}
    (h : compileAspect a = .ok compiled) :
    List.Forall₂ (fun d x => Pointcut.compile d.selector = .ok x.1 ∧ x.2 = d.advice) a.declarations compiled := by
  unfold compileAspect at h
  generalize a.declarations = declarations at h ⊢
  induction declarations generalizing compiled with
  | nil =>
      cases h
      exact .nil
  | cons d declarations ih =>
      rw [List.mapM_cons] at h
      cases hd : Pointcut.compile d.selector with
      | error e =>
          rw [hd] at h
          cases h
      | ok p =>
          rw [hd] at h
          cases hrest : declarations.mapM (fun d => do
              let p ← Pointcut.compile d.selector
              pure (p, d.advice) : Declaration β → Except WeaveError (Pointcut × Advice β)) with
          | error e =>
              rw [hrest] at h
              cases h
          | ok rest =>
              rw [hrest] at h
              cases h
              exact .cons ⟨hd, rfl⟩ (ih hrest)

/-- An aspect whose selectors can all be read asks for the bindings of its declarations. -/
theorem flatMap_of_compileAspect [RegexEngine] (w : Weaver β) {a : Aspect β} {compiled : List (Pointcut × Advice β)}
    (h : compileAspect a = .ok compiled) :
    compiled.flatMap (fun x => (w.selected x.1).map (Binding.mk x.2)) = w.bindingsOf a := by
  have hcompiled := forall₂_compileAspect h
  clear h
  unfold bindingsOf
  generalize a.declarations = declarations at hcompiled
  induction hcompiled with
  | nil => rfl
  | cons hd _ ih =>
      obtain ⟨hp, hadvice⟩ := hd
      rw [List.flatMap_cons, List.flatMap_cons, ih, hp, hadvice]

/-- A malformed selector leaves no trace, neither in the weaver nor in the log. -/
theorem registerAspect_of_malformed [RegexEngine] (w : Weaver β) {a : Aspect β} {e : WeaveError}
    (h : compileAspect a = .error e) : w.registerAspect a = ⟨(w, .error e), []⟩ := by
  unfold registerAspect
  rw [h]
  rfl

/-- An aspect with selectors that are accepted is bound, and the answer is the number of its bindings. -/
theorem registerAspect_of_compileAspect [RegexEngine] (w : Weaver β) {a : Aspect β}
    {compiled : List (Pointcut × Advice β)} (h : compileAspect a = .ok compiled) :
    (w.registerAspect a).value = (w.bindEach (w.bindingsOf a), .ok (w.bindingsOf a).length) := by
  unfold registerAspect
  rw [h]
  dsimp only
  rw [Logged.value_bind, value_bindAll, flatMap_of_compileAspect w h]
  rfl

/-- Registering an aspect fails and changes nothing, or makes the bindings that the aspect asks for, and
gives their number. -/
theorem registerAspect_eq [RegexEngine] (w : Weaver β) (a : Aspect β) :
    (∃ e, (w.registerAspect a).value = (w, .error e)) ∨
      (w.registerAspect a).value = (w.bindEach (w.bindingsOf a), .ok (w.bindingsOf a).length) := by
  cases h : compileAspect a with
  | error e =>
      refine Or.inl ⟨e, ?_⟩
      rw [registerAspect_of_malformed w h]
  | ok compiled => exact Or.inr (registerAspect_of_compileAspect w h)

/-- An aspect binds its advices to the methods that its declarations select, where the type may be woven. -/
theorem mem_bindingsOf [RegexEngine] (w : Weaver β) (a : Aspect β) (x : Binding β) :
    x ∈ w.bindingsOf a ↔ ∃ d ∈ a.declarations, ∃ p, Pointcut.compile d.selector = .ok p ∧
      ∃ m ∈ p.select w.catalog, w.config.isExcluded m.declaringType.name = false ∧ x = ⟨d.advice, m⟩ := by
  unfold bindingsOf selected
  rw [List.mem_flatMap]
  constructor
  · rintro ⟨d, hd, hx⟩
    cases hp : Pointcut.compile d.selector with
    | error e =>
        rw [hp] at hx
        cases hx
    | ok p =>
        rw [hp] at hx
        obtain ⟨m, hm, rfl⟩ := List.mem_map.mp hx
        obtain ⟨hm, hincluded⟩ := List.mem_filter.mp hm
        exact ⟨d, hd, p, hp, m, hm, by simpa using hincluded, rfl⟩
  · rintro ⟨d, hd, p, hp, m, hm, hincluded, rfl⟩
    refine ⟨d, hd, ?_⟩
    rw [hp]
    exact List.mem_map_of_mem (List.mem_filter.mpr ⟨hm, by simpa using hincluded⟩)

end Weaver

/-! ## Runs -/

/-- A registration with a weaver. -/
inductive WeaverOp (β : Type) where
  | registerType (t : TypeDescriptor β)
  | registerAspect (a : Aspect β)
  | registerInterceptTarget (typeName : String)

namespace Weaver

/-- The weaver after a registration. -/
def apply [RegexEngine] (w : Weaver β) : WeaverOp β → Weaver β
  | .registerType t => (w.registerType t).value
  | .registerAspect a => (w.registerAspect a).value.1
  | .registerInterceptTarget typeName => (w.registerInterceptTarget typeName).value.1

/-- The weaver after a run. -/
def after [RegexEngine] (w : Weaver β) (ops : List (WeaverOp β)) : Weaver β := ops.foldl apply w

/-- The bindings that a registration makes: those of an aspect that is registered with success. -/
def bindingsBy [RegexEngine] (w : Weaver β) : WeaverOp β → List (Binding β)
  | .registerAspect a => match (w.registerAspect a).value.2 with
    | .ok _ => w.bindingsOf a
    | .error _ => []
  | _ => []

/-- The bindings that a run makes, in order. -/
def history [RegexEngine] (w : Weaver β) : List (WeaverOp β) → List (Binding β)
  | [] => []
  | op :: ops => w.bindingsBy op ++ (w.apply op).history ops

/-- Registering an aspect makes the bindings of that registration and nothing else. -/
theorem apply_registerAspect [RegexEngine] (w : Weaver β) (a : Aspect β) :
    w.apply (.registerAspect a) = w.bindEach (w.bindingsBy (.registerAspect a)) := by
  unfold apply bindingsBy
  dsimp only
  rcases registerAspect_eq w a with ⟨e, h⟩ | h
  · rw [h]
    rfl
  · rw [h]

/-- Of all registrations only that of an aspect binds advices, and only if it succeeds. -/
theorem mem_bindingsBy [RegexEngine] (w : Weaver β) (op : WeaverOp β) (x : Binding β) :
    x ∈ w.bindingsBy op ↔
      ∃ a n, op = .registerAspect a ∧ (w.registerAspect a).value.2 = .ok n ∧ x ∈ w.bindingsOf a := by
  cases op with
  | registerType t =>
      refine ⟨nofun, ?_⟩
      rintro ⟨a, n, hop, -⟩
      cases hop
  | registerInterceptTarget typeName =>
      refine ⟨nofun, ?_⟩
      rintro ⟨a, n, hop, -⟩
      cases hop
  | registerAspect a =>
      unfold bindingsBy
      dsimp only
      constructor
      · intro hx
        split at hx
        next n hn => exact ⟨a, n, rfl, hn, hx⟩
        next => cases hx
      · rintro ⟨a', n, hop, hn, hx⟩
        cases hop
        rw [hn]
        exact hx

/-- Makes the bindings of marked methods to their interceptors one after the other. -/
def bindMarked (r : InterceptorRegistry β) (marked : List (Signature × InterceptorMarker β)) :
    InterceptorRegistry β :=
  marked.foldl (fun r x => (r.bind x.1 x.2).value) r

/-! ## Registering a target -/

/-- A type whose marked methods a weaver binds when it is registered as a target. -/
structure IsTarget (w : Weaver β) (t : TypeDescriptor β) : Prop where
  concrete : t.isConcrete = true
  included : w.config.isExcluded t.name = false
  unwoven : w.isWoven t.name = false
  marked : markedMethods t ≠ []

/-- The weaver after the marked methods of a type were bound. -/
def intercepting (w : Weaver β) (t : TypeDescriptor β) : Weaver β :=
  { w.withInterceptors (bindMarked w.bindings.interceptors (markedMethods t)) with
    registrations := w.registrations.insert t.name ⟨t, .intercepts, .interceptors⟩ }

section

variable {w : Weaver β} {typeName : String} {t : TypeDescriptor β}

/-- A target of an unknown name is refused, and nothing happens. -/
theorem registerInterceptTarget_of_unknown (h : w.catalog.resolve? typeName = none) :
    w.registerInterceptTarget typeName = ⟨(w, .error (.typeNotFound typeName)), []⟩ := by
  unfold registerInterceptTarget
  rw [h]
  rfl

/-- A type that is no target is answered with zero and leaves the weaver as it was. -/
theorem registerInterceptTarget_of_not_isTarget (h : w.catalog.resolve? typeName = some t)
    (ht : ¬ w.IsTarget t) :
    w.registerInterceptTarget typeName = ⟨(w, .ok 0), []⟩ ∨
      w.registerInterceptTarget typeName =
        ⟨(w, .ok 0), [⟨.debug, "Skipping intercept target", [("type_name", .text typeName)]⟩]⟩ := by
  unfold registerInterceptTarget
  rw [h]
  dsimp only
  split
  next => exact Or.inr rfl
  next hready =>
    split
    next => exact Or.inl rfl
    next hmarked =>
      simp only [Bool.or_eq_true, not_or, Bool.not_eq_true, Bool.not_eq_false'] at hready
      obtain ⟨⟨hconcrete, hincluded⟩, hunwoven⟩ := hready
      exact absurd ⟨hconcrete, hincluded, hunwoven, fun hnil => hmarked (List.isEmpty_iff.mpr hnil)⟩ ht

/-- A target has its marked methods bound, and the answer is their number. -/
theorem registerInterceptTarget_of_isTarget (h : w.catalog.resolve? typeName = some t) (ht : w.IsTarget t) :
    w.registerInterceptTarget typeName =
      ⟨(w.intercepting t, .ok (markedMethods t).length),
        ((markedMethods t).foldlM (fun (r : InterceptorRegistry β) x => r.bind x.1 x.2)
            w.bindings.interceptors).events ++
          [⟨.debug, "Registered intercept target",
            [("type_name", .text typeName), ("bound", .number (markedMethods t).length)]⟩]⟩ := by
  have hready : (!t.isConcrete || w.config.isExcluded t.name || w.isWoven t.name) = false := by
    rw [ht.concrete, ht.included, ht.unwoven]
    rfl
  have hmarked : (markedMethods t).isEmpty = false := List.isEmpty_eq_false_iff.mpr ht.marked
  unfold registerInterceptTarget intercepting bindMarked
  rw [h, ← Logged.value_foldlM]
  dsimp only
  rw [hready, hmarked, if_neg Bool.false_ne_true, if_neg Bool.false_ne_true]
  rfl

end

/-- Registering a target changes nothing and gives no positive number, or the target is a concrete type
that may be woven and is not woven yet, and its marked methods are bound. -/
theorem apply_registerInterceptTarget [RegexEngine] (w : Weaver β) (typeName : String) :
    (w.apply (.registerInterceptTarget typeName) = w ∧
      ∀ n, (w.registerInterceptTarget typeName).value.2 = .ok n → n = 0) ∨
    ∃ t, w.catalog.resolve? typeName = some t ∧ t.isConcrete = true ∧
      w.config.isExcluded t.name = false ∧ w.isWoven t.name = false ∧ 0 < (markedMethods t).length ∧
      w.apply (.registerInterceptTarget typeName) =
        { w.withInterceptors (bindMarked w.bindings.interceptors (markedMethods t)) with
          registrations := w.registrations.insert t.name ⟨t, .intercepts, .interceptors⟩ } ∧
      (w.registerInterceptTarget typeName).value.2 = .ok (markedMethods t).length := by
  unfold apply
  dsimp only
  cases hfound : w.catalog.resolve? typeName with
  | none =>
      rw [registerInterceptTarget_of_unknown hfound]
      exact Or.inl ⟨rfl, nofun⟩
  | some t =>
      by_cases ht : w.IsTarget t
      · rw [registerInterceptTarget_of_isTarget hfound ht]
        exact Or.inr ⟨t, rfl, ht.concrete, ht.included, ht.unwoven, List.length_pos_iff.mpr ht.marked, rfl, rfl⟩
      · have hzero : ∀ n, (Except.ok 0 : Except WeaveError Nat) = .ok n → n = 0 := by
          intro n hn
          cases hn
          rfl
        rcases registerInterceptTarget_of_not_isTarget hfound ht with h | h
        · rw [h]
          exact Or.inl ⟨rfl, hzero⟩
        · rw [h]
          exact Or.inl ⟨rfl, hzero⟩

/-- Where nothing is bound, the registration of a target leaves the weaver as it was. -/
theorem apply_registerInterceptTarget_of_not_isTarget [RegexEngine] {w : Weaver β} {typeName : String}
    (h : ∀ t, w.catalog.resolve? typeName = some t → ¬ w.IsTarget t) :
    w.apply (.registerInterceptTarget typeName) = w := by
  unfold apply
  dsimp only
  cases hfound : w.catalog.resolve? typeName with
  | none => rw [registerInterceptTarget_of_unknown hfound]
  | some t =>
      rcases registerInterceptTarget_of_not_isTarget hfound (h t hfound) with hsame | hsame <;> rw [hsame]

/-! ## What occurs in a run -/

/-- Some registration of a run has a property at its moment. -/
def Occurs [RegexEngine] (w : Weaver β) (ops : List (WeaverOp β)) (P : Weaver β → WeaverOp β → Prop) : Prop :=
  ∃ earlier op later, ops = earlier ++ op :: later ∧ P (w.after earlier) op

/-- Nothing occurs in the empty run. -/
theorem not_occurs_nil [RegexEngine] (w : Weaver β) (P : Weaver β → WeaverOp β → Prop) : ¬ w.Occurs [] P := by
  rintro ⟨earlier, op, later, hops, -⟩
  cases earlier <;> cases hops

/-- Something occurs in a run at its first operation or in the rest. -/
theorem occurs_cons [RegexEngine] (w : Weaver β) (op : WeaverOp β) (ops : List (WeaverOp β))
    (P : Weaver β → WeaverOp β → Prop) :
    w.Occurs (op :: ops) P ↔ P w op ∨ (w.apply op).Occurs ops P := by
  constructor
  · rintro ⟨earlier, op', later, hops, hP⟩
    cases earlier with
    | nil =>
        cases hops
        exact Or.inl hP
    | cons first earlier =>
        cases hops
        exact Or.inr ⟨earlier, op', later, rfl, hP⟩
  · rintro (hP | ⟨earlier, op', later, rfl, hP⟩)
    · exact ⟨[], op, ops, rfl, hP⟩
    · exact ⟨op :: earlier, op', later, rfl, hP⟩

/-- No run changes the configuration. -/
theorem config_after [RegexEngine] (w : Weaver β) (ops : List (WeaverOp β)) : (w.after ops).config = w.config := by
  induction ops generalizing w with
  | nil => rfl
  | cons op ops ih =>
      show ((w.apply op).after ops).config = w.config
      rw [ih]
      cases op with
      | registerType t => rfl
      | registerAspect a =>
          rw [apply_registerAspect]
          rfl
      | registerInterceptTarget typeName =>
          rcases apply_registerInterceptTarget w typeName with ⟨h, -⟩ | ⟨t, -, -, -, -, -, h, -⟩
          · rw [h]
          · rw [h]
            rfl

end Weaver

end AspectWeaver

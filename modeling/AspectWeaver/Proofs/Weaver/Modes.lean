import AspectWeaver.Proofs.Weaver.Run

/-!
# Registrations are a function of the history

`Weaver.Coherent` is what every registration keeps true: a woven type is the one that the catalog holds
under its name, it is not excluded, and its calls go to the dispatcher of its mode. `mode?_apply` says what
one registration does to the mode of a type. The top is `registration?_after`: how a type is woven after a
run is told by the aspects and the targets that were registered in it.
-/

set_option autoImplicit false

namespace AspectWeaver

variable {β : Type}

/-! ## The registrations and the catalog -/

/-- What a registration under a name has to be. -/
structure Registration.Fits (config : WeaverConfig) (catalog : Catalog β) (typeName : String)
    (r : Registration β) : Prop where
  descriptor : catalog.resolve? typeName = some r.descriptor
  dispatcher : r.dispatcher = r.mode.dispatcher
  included : config.isExcluded typeName = false

/-- Every registration is what it has to be. -/
def Fit (config : WeaverConfig) (catalog : Catalog β) (registrations : Table String (Registration β)) :
    Prop :=
  ∀ typeName r, registrations.get? typeName = some r → r.Fits config catalog typeName

namespace Fit

variable {config : WeaverConfig} {catalog : Catalog β} {registrations : Table String (Registration β)}

/-- Registrations still fit when a type of the catalog that is not excluded is woven. -/
theorem insert (h : Fit config catalog registrations) {t : TypeDescriptor β} (mode : WeaveMode)
    (hfound : catalog.resolve? t.name = some t) (hincluded : config.isExcluded t.name = false) :
    Fit config catalog (registrations.insert t.name ⟨t, mode, mode.dispatcher⟩) := by
  intro typeName r hr
  rw [Table.get?_insert] at hr
  split at hr
  next hname =>
    cases hr
    exact ⟨hname ▸ hfound, rfl, hname ▸ hincluded⟩
  next => exact h typeName r hr

/-- Registrations still fit when a binding marks the type that the catalog holds for it. -/
theorem markFor (h : Fit config catalog registrations) {x : Binding β}
    (hfound : catalog.resolve? x.typeName = some x.matched.declaringType)
    (hincluded : config.isExcluded x.typeName = false) :
    Fit config catalog (markFor registrations x) := by
  unfold AspectWeaver.markFor
  split
  · exact h
  · exact h.insert .aspects hfound hincluded

/-- Registrations still fit when several bindings mark their types. -/
theorem foldl_markFor (h : Fit config catalog registrations) (xs : List (Binding β))
    (hxs : ∀ x ∈ xs, catalog.resolve? x.typeName = some x.matched.declaringType ∧
      config.isExcluded x.typeName = false) :
    Fit config catalog (xs.foldl AspectWeaver.markFor registrations) := by
  induction xs generalizing registrations with
  | nil => exact h
  | cons x xs ih =>
      obtain ⟨hfound, hincluded⟩ := hxs x List.mem_cons_self
      exact ih (h.markFor hfound hincluded) fun y hy => hxs y (List.mem_cons_of_mem x hy)

end Fit

namespace Weaver

/-- The catalog of a weaver is coherent, and the registrations fit it. -/
structure Coherent (w : Weaver β) : Prop where
  catalog : w.catalog.Coherent
  fit : Fit w.config w.catalog w.registrations

/-- A new weaver is coherent. -/
theorem coherent_new (name : String) (config : WeaverConfig) : (new name config : Weaver β).Coherent := by
  refine ⟨Catalog.coherent_empty, ?_⟩
  intro typeName r hr
  cases hr

/-- A type that is registered anew is woven as before, with its new methods. -/
theorem registration?_registerType (w : Weaver β) (t : TypeDescriptor β) (typeName : String) :
    (w.registerType t).value.registration? typeName =
      if t.name = typeName then (w.registration? typeName).map fun old => { old with descriptor := t }
      else w.registration? typeName := by
  unfold registration? registerType
  rw [Logged.value_bind, Logged.value_pure]
  dsimp only
  split
  next old hold =>
    rw [Table.get?_insert]
    split
    next hname => rw [← hname, hold, Option.map_some]
    next => rfl
  next hnone =>
    split
    next hname => rw [← hname, hnone, Option.map_none]
    next => rfl

/-- Every registration keeps the weaver coherent. -/
theorem Coherent.apply [RegexEngine] {w : Weaver β} (h : w.Coherent) (op : WeaverOp β) : (w.apply op).Coherent := by
  cases op with
  | registerType t =>
      refine ⟨h.catalog.register t, ?_⟩
      intro typeName r hr
      have hr : (w.registerType t).value.registration? typeName = some r := hr
      have hfound := Catalog.resolve?_register w.catalog t typeName
      rw [registration?_registerType] at hr
      split at hr
      next hname =>
        obtain ⟨old, hold, rfl⟩ := Option.map_eq_some_iff.mp hr
        have hfits := h.fit typeName old hold
        exact ⟨hfound.trans (if_pos hname), hfits.dispatcher, hfits.included⟩
      next hname =>
        have hfits := h.fit typeName r hr
        exact ⟨hfound.trans ((if_neg hname).trans hfits.descriptor), hfits.dispatcher, hfits.included⟩
  | registerAspect a =>
      rw [apply_registerAspect]
      refine ⟨h.catalog, h.fit.foldl_markFor _ ?_⟩
      intro x hx
      obtain ⟨a, n, -, -, hx⟩ := (mem_bindingsBy w _ x).mp hx
      obtain ⟨d, -, p, -, m, hm, hincluded, rfl⟩ := (mem_bindingsOf w a x).mp hx
      exact ⟨(Pointcut.resolve?_of_mem_select h.catalog hm).1, hincluded⟩
  | registerInterceptTarget typeName =>
      rcases apply_registerInterceptTarget w typeName with
        ⟨hsame, -⟩ | ⟨t, hfound, -, hincluded, -, -, hbound, -⟩
      · rw [hsame]
        exact h
      · -- the target was found under its own name, so it is registered under that
        have hname : t.name = typeName := h.catalog.name_of_resolve? typeName t hfound
        rw [hbound]
        exact ⟨h.catalog, h.fit.insert .intercepts (hname ▸ hfound) hincluded⟩

/-- A coherent weaver stays coherent in every run. -/
theorem Coherent.after [RegexEngine] {w : Weaver β} (h : w.Coherent) (ops : List (WeaverOp β)) :
    (w.after ops).Coherent := by
  induction ops generalizing w with
  | nil => exact h
  | cons op ops ih => exact ih (h.apply op)

/-! ## What one registration does to a mode -/

/-- How a type is woven, if it is. -/
def mode? (w : Weaver β) (typeName : String) : Option WeaveMode :=
  (w.registration? typeName).map (·.mode)

/-- A type is woven exactly if it has a mode. -/
theorem isWoven_eq (w : Weaver β) (typeName : String) : w.isWoven typeName = (w.mode? typeName).isSome := by
  unfold isWoven Table.contains mode? registration?
  rw [Option.isSome_map]

/-- The mode of a type is one of three. -/
theorem mode?_eq_intercepts_iff (w : Weaver β) (typeName : String) :
    w.mode? typeName = some .intercepts ↔
      w.mode? typeName ≠ some .aspects ∧ w.mode? typeName ≠ none := by
  rcases w.mode? typeName with _ | _ | _ <;> simp

/-- An aspect is registered with success, and one of its declarations selects a method of a type. -/
def AspectSelects [RegexEngine] (typeName : String) (w : Weaver β) (op : WeaverOp β) : Prop :=
  ∃ a n, op = .registerAspect a ∧ (w.registerAspect a).value.2 = .ok n ∧
    ∃ d ∈ a.declarations, ∃ p, Pointcut.compile d.selector = .ok p ∧
      ∃ m ∈ p.select w.catalog, m.declaringType.name = typeName

/-- A type is registered as a target for interceptors, and one of its methods at least is bound. -/
def TargetBinds (typeName : String) (w : Weaver β) (op : WeaverOp β) : Prop :=
  ∃ n, op = .registerInterceptTarget typeName ∧ (w.registerInterceptTarget typeName).value.2 = .ok n ∧ 0 < n

/-- A registration binds an advice to a method of a type. -/
def Advises [RegexEngine] (typeName : String) (w : Weaver β) (op : WeaverOp β) : Prop :=
  ∃ x ∈ w.bindingsBy op, x.typeName = typeName

/-- An aspect advises a type exactly if it selects a method of it and the type is not excluded. -/
theorem advises_iff [RegexEngine] (w : Weaver β) (op : WeaverOp β) (typeName : String) :
    Advises typeName w op ↔ AspectSelects typeName w op ∧ w.config.isExcluded typeName = false := by
  constructor
  · rintro ⟨x, hx, rfl⟩
    obtain ⟨a, n, hop, hn, hx⟩ := (mem_bindingsBy w op x).mp hx
    obtain ⟨d, hd, p, hp, m, hm, hincluded, rfl⟩ := (mem_bindingsOf w a x).mp hx
    exact ⟨⟨a, n, hop, hn, d, hd, p, hp, m, hm, rfl⟩, hincluded⟩
  · rintro ⟨⟨a, n, hop, hn, d, hd, p, hp, m, hm, rfl⟩, hincluded⟩
    have hx : ⟨d.advice, m⟩ ∈ w.bindingsOf a :=
      (mem_bindingsOf w a _).mpr ⟨d, hd, p, hp, m, hm, hincluded, rfl⟩
    exact ⟨⟨d.advice, m⟩, (mem_bindingsBy w op _).mpr ⟨a, n, hop, hn, hx⟩, rfl⟩

/-- A binding gives its own type the mode of aspects and leaves the modes of others. -/
theorem mode_markFor (registrations : Table String (Registration β)) (x : Binding β) (typeName : String) :
    ((markFor registrations x).get? typeName).map (·.mode) =
      if x.typeName = typeName then some .aspects else (registrations.get? typeName).map (·.mode) := by
  unfold markFor
  split
  next t d hold =>
    split
    next hname =>
      rw [← hname, hold]
      rfl
    next => rfl
  next =>
    rw [Table.get?_insert]
    split <;> rfl

/-- Bindings switch their types to aspect dispatch and leave all other types alone. -/
theorem mode_foldl_markFor (registrations : Table String (Registration β)) (xs : List (Binding β))
    (typeName : String) :
    ((xs.foldl markFor registrations).get? typeName).map (·.mode) =
      if typeName ∈ xs.map Binding.typeName then some .aspects
      else (registrations.get? typeName).map (·.mode) := by
  induction xs generalizing registrations with
  | nil => rfl
  | cons x xs ih =>
      rw [List.foldl_cons, ih, mode_markFor, List.map_cons]
      by_cases hmem : typeName ∈ xs.map Binding.typeName
      · rw [if_pos hmem, if_pos (List.mem_cons_of_mem x.typeName hmem)]
      · rw [if_neg hmem]
        by_cases hname : x.typeName = typeName
        · rw [if_pos hname, if_pos (hname ▸ List.mem_cons_self)]
        · rw [if_neg hname, if_neg]
          intro h
          rcases List.mem_cons.mp h with h | h
          · exact hname h.symm
          · exact hmem h

/-- Registering an aspect weaves the types that it binds for aspects and leaves all others alone. -/
theorem mode?_registerAspect [RegexEngine] (w : Weaver β) (a : Aspect β) (typeName : String) :
    (w.apply (.registerAspect a)).mode? typeName =
      if typeName ∈ (w.bindingsBy (.registerAspect a)).map Binding.typeName then some .aspects
      else w.mode? typeName := by
  rw [apply_registerAspect]
  exact mode_foldl_markFor _ _ typeName

/-- A registration that advises a type switches it to aspect dispatch, one that binds it as a target finds
it not woven, and any other leaves it as it is. -/
theorem mode?_apply [RegexEngine] {w : Weaver β} (h : w.Coherent) (op : WeaverOp β) (typeName : String) :
    (Advises typeName w op ∧ (w.apply op).mode? typeName = some .aspects) ∨
    (¬ Advises typeName w op ∧ TargetBinds typeName w op ∧ w.mode? typeName = none ∧
      (w.apply op).mode? typeName = some .intercepts) ∨
    (¬ Advises typeName w op ∧ ¬ TargetBinds typeName w op ∧
      (w.apply op).mode? typeName = w.mode? typeName) := by
  cases op with
  | registerType t =>
      refine Or.inr (Or.inr ⟨?_, ?_, ?_⟩)
      · rintro ⟨x, hx, -⟩
        cases hx
      · rintro ⟨n, hop, -⟩
        cases hop
      · show ((w.registerType t).value.registration? typeName).map (·.mode) = w.mode? typeName
        unfold mode?
        rw [registration?_registerType]
        split
        · rw [Option.map_map]
          rfl
        · rfl
  | registerAspect a =>
      have hadvises : Advises typeName w (.registerAspect a) ↔
          typeName ∈ (w.bindingsBy (.registerAspect a)).map Binding.typeName := List.mem_map.symm
      rw [hadvises, mode?_registerAspect]
      split
      next hmem => exact Or.inl ⟨hmem, rfl⟩
      next hmem =>
        refine Or.inr (Or.inr ⟨hmem, ?_, rfl⟩)
        rintro ⟨n, hop, -⟩
        cases hop
  | registerInterceptTarget name =>
      have hadvises : ¬ Advises typeName w (.registerInterceptTarget name) := by
        rintro ⟨x, hx, -⟩
        cases hx
      refine Or.inr ?_
      rcases apply_registerInterceptTarget w name with
        ⟨hsame, hzero⟩ | ⟨t, hfound, -, -, hwoven, hpos, hbound, hn⟩
      · refine Or.inr ⟨hadvises, ?_, by rw [hsame]⟩
        rintro ⟨n, hop, hn, hpos⟩
        cases hop
        have hn := hzero n hn
        omega
      · -- a target that is bound was not woven before, so there is no mode to switch from
        have hname : t.name = name := h.catalog.name_of_resolve? name t hfound
        subst hname
        have hmode : (w.apply (.registerInterceptTarget t.name)).mode? typeName =
            if t.name = typeName then some .intercepts else w.mode? typeName := by
          rw [hbound]
          unfold mode? registration?
          dsimp only
          rw [Table.get?_insert]
          split <;> rfl
        rw [hmode]
        by_cases hname : t.name = typeName
        · subst hname
          have hold : w.mode? t.name = none := by
            rw [← Option.not_isSome_iff_eq_none, ← isWoven_eq, hwoven]
            exact Bool.false_ne_true
          exact Or.inl ⟨hadvises, ⟨_, rfl, hn, hpos⟩, hold, if_pos rfl⟩
        · refine Or.inr ⟨hadvises, ?_, if_neg hname⟩
          rintro ⟨n, hop, -⟩
          cases hop
          exact hname rfl

/-! ## Runs -/

/-- After a run a type is woven for aspects exactly when it was so before or the run advised it, and it is
not woven exactly when it was not and the run neither advised it nor bound it as a target. -/
theorem mode?_after [RegexEngine] {w : Weaver β} (h : w.Coherent) (ops : List (WeaverOp β)) (typeName : String) :
    ((w.after ops).mode? typeName = some .aspects ↔
      w.Occurs ops (Advises typeName) ∨ w.mode? typeName = some .aspects) ∧
    ((w.after ops).mode? typeName = none ↔
      ¬ w.Occurs ops (Advises typeName) ∧ ¬ w.Occurs ops (TargetBinds typeName) ∧
        w.mode? typeName = none) := by
  induction ops generalizing w with
  | nil =>
      have hnone (P : Weaver β → WeaverOp β → Prop) : w.Occurs [] P ↔ False :=
        iff_false_intro (not_occurs_nil w P)
      rw [hnone, hnone, false_or, not_false_iff, true_and, true_and]
      exact ⟨Iff.rfl, Iff.rfl⟩
  | cons op ops ih =>
      -- the first registration leaves a coherent weaver, so the rest of the run is known by induction
      obtain ⟨haspects, hnone⟩ := ih (h.apply op)
      change ((w.after (op :: ops)).mode? typeName = some .aspects ↔ _) at haspects
      change ((w.after (op :: ops)).mode? typeName = none ↔ _) at hnone
      rw [haspects, hnone, occurs_cons, occurs_cons]
      rcases mode?_apply h op typeName with ⟨hadv, hmode⟩ | ⟨hadv, hbinds, hold, hmode⟩ | ⟨hadv, hbinds, hmode⟩
      · simp [hadv, hmode]
      · simp [hadv, hbinds, hold, hmode]
      · simp [hadv, hbinds, hmode]

/-- A type is advised in a run exactly if an aspect selects it there and it is not excluded. -/
theorem occurs_advises_iff [RegexEngine] (w : Weaver β) (ops : List (WeaverOp β)) (typeName : String) :
    w.Occurs ops (Advises typeName) ↔
      w.Occurs ops (AspectSelects typeName) ∧ w.config.isExcluded typeName = false := by
  constructor
  · rintro ⟨earlier, op, later, hops, hadv⟩
    obtain ⟨hselects, hincluded⟩ := (advises_iff _ op typeName).mp hadv
    rw [config_after] at hincluded
    exact ⟨⟨earlier, op, later, hops, hselects⟩, hincluded⟩
  · rintro ⟨⟨earlier, op, later, hops, hselects⟩, hincluded⟩
    refine ⟨earlier, op, later, hops, (advises_iff _ op typeName).mpr ⟨hselects, ?_⟩⟩
    rw [config_after]
    exact hincluded

/-- After any run from a new weaver a type is woven for aspects exactly when the run registered an aspect
that selected one of its methods and the type is not excluded, whatever else was registered; it is woven for
interceptors exactly when that is not so and the run bound it as a target; and otherwise it is not woven. Its
registration is that of its current descriptor and of the dispatcher of its mode. Thus an excluded type is
never woven, a woven one stays woven, and aspect dispatch is never left. -/
theorem registration?_after [RegexEngine] (name : String) (config : WeaverConfig) (ops : List (WeaverOp β))
    (typeName : String) :
    let start : Weaver β := Weaver.new name config
    let w := start.after ops
    let selected := start.Occurs ops (AspectSelects typeName) ∧ config.isExcluded typeName = false
    let bound := start.Occurs ops (TargetBinds typeName)
    (w.mode? typeName = some .aspects ↔ selected) ∧
    (w.mode? typeName = some .intercepts ↔ ¬ selected ∧ bound) ∧
    (w.mode? typeName = none ↔ ¬ selected ∧ ¬ bound) ∧
    (∀ r, w.registration? typeName = some r →
      w.catalog.resolve? typeName = some r.descriptor ∧ r.dispatcher = r.mode.dispatcher) ∧
    (config.isExcluded typeName = true → w.isWoven typeName = false) ∧
    ∀ more, (w.isWoven typeName = true → (w.after more).isWoven typeName = true) ∧
      (w.mode? typeName = some .aspects → (w.after more).mode? typeName = some .aspects) := by
  intro start w selected bound
  have hstart : start.Coherent := coherent_new name config
  have hw : w.Coherent := hstart.after ops
  have hselected : start.Occurs ops (Advises typeName) ↔ selected := occurs_advises_iff start ops typeName
  obtain ⟨haspects, hnone⟩ := mode?_after hstart ops typeName
  have haspects : w.mode? typeName = some .aspects ↔ selected := by
    rw [haspects, hselected]
    exact or_iff_left nofun
  have hnone : w.mode? typeName = none ↔ ¬ selected ∧ ¬ bound := by
    rw [hnone, hselected]
    exact ⟨fun h => ⟨h.1, h.2.1⟩, fun h => ⟨h.1, h.2, rfl⟩⟩
  have hfits : ∀ r, w.registration? typeName = some r → r.Fits config w.catalog typeName := by
    intro r hr
    have hfits := hw.fit typeName r hr
    rw [config_after] at hfits
    exact hfits
  refine ⟨haspects, ?_, hnone, ?_, ?_, ?_⟩
  · rw [mode?_eq_intercepts_iff, ne_eq, ne_eq, haspects, hnone]
    constructor
    · rintro ⟨hnot, hsome⟩
      exact ⟨hnot, Classical.not_not.mp fun hbound => hsome ⟨hnot, hbound⟩⟩
    · rintro ⟨hnot, hbound⟩
      exact ⟨hnot, fun h => h.2 hbound⟩
  · intro r hr
    exact ⟨(hfits r hr).descriptor, (hfits r hr).dispatcher⟩
  · intro hexcluded
    cases hr : w.registration? typeName with
    | none => rw [isWoven_eq, mode?, hr, Option.map_none, Option.isSome_none]
    | some r => cases hexcluded.symm.trans (hfits r hr).included
  · intro more
    obtain ⟨hmore, hgone⟩ := mode?_after hw more typeName
    refine ⟨?_, fun h => hmore.mpr (Or.inr h)⟩
    rw [isWoven_eq, isWoven_eq, Option.isSome_iff_ne_none, Option.isSome_iff_ne_none]
    exact fun hwoven h => hwoven (hgone.mp h).2.2

end Weaver

end AspectWeaver

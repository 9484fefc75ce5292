import AspectWeaver.Call.Instance
import AspectWeaver.Proofs.Weaver.Modes
import AspectWeaver.Proofs.Weaver.Registered
import AspectWeaver.Regex.Standard

/-!
# The kinds of woven types

Aspects and targets weave concrete types only (`concrete_of_weaves`). Registering a type does not ask for
its kind, so a type that is not concrete can take the place of a woven one, and the name stays woven. The
top is `hollow_after`: this is the only way in which a name comes to be woven without a concrete type, and
the only cause for which a woven type gives no instance.
-/

set_option autoImplicit false

namespace AspectWeaver

variable {β τ : Type}

namespace Weaver

/-- A name is woven, and the type that the catalog holds under it is not concrete. -/
def Hollow (w : Weaver β) (typeName : String) : Prop :=
  w.isWoven typeName = true ∧ ∃ t, w.catalog.resolve? typeName = some t ∧ t.isConcrete = false

/-- The last type that a run registers under a name is not concrete, and the name is woven at that
moment. -/
def Replaces [RegexEngine] (w : Weaver β) (ops : List (WeaverOp β)) (typeName : String) : Prop :=
  ∃ earlier t later, ops = earlier ++ .registerType t :: later ∧ t.name = typeName ∧
    t.isConcrete = false ∧ (w.after earlier).isWoven typeName = true ∧
    ∀ u ∈ typesOf later, u.name ≠ typeName

/-- A registration weaves a type for aspects or for interceptors. -/
def Weaves [RegexEngine] (typeName : String) (w : Weaver β) (op : WeaverOp β) : Prop :=
  Advises typeName w op ∨ TargetBinds typeName w op

/-- A type is hollow exactly if it is registered as woven with a table that is not concrete. -/
theorem hollow_iff_registration {w : Weaver β} (hw : w.Coherent) (typeName : String) :
    w.Hollow typeName ↔ ∃ r, w.registration? typeName = some r ∧ r.descriptor.isConcrete = false := by
  unfold Hollow isWoven Table.contains
  change (w.registration? typeName).isSome = true ∧ _ ↔ _
  cases hr : w.registration? typeName with
  | none => simp
  | some r =>
      rw [(hw.fit typeName r hr).descriptor]
      simp

/-! ## One registration -/

/-- What is woven is concrete at that moment. -/
theorem concrete_of_weaves [RegexEngine] {w : Weaver β} (hw : w.Coherent) {op : WeaverOp β} {typeName : String}
    (h : Weaves typeName w op) : ∃ t, w.catalog.resolve? typeName = some t ∧ t.isConcrete = true := by
  rcases h with ⟨x, hx, rfl⟩ | ⟨n, rfl, hn, hpos⟩
  · obtain ⟨a, n, -, -, hx⟩ := (mem_bindingsBy w op x).mp hx
    obtain ⟨d, -, p, -, m, hm, -, rfl⟩ := (mem_bindingsOf w a x).mp hx
    exact ⟨m.declaringType, Pointcut.resolve?_of_mem_select hw.catalog hm⟩
  · rcases apply_registerInterceptTarget w typeName with ⟨-, hzero⟩ | ⟨t, hfound, hconcrete, -⟩
    · exact absurd (hzero n hn) (Nat.ne_of_gt hpos)
    · exact ⟨t, hfound, hconcrete⟩

/-- After a registration a type is woven exactly if it was before or this registration weaves it. -/
theorem isWoven_apply [RegexEngine] {w : Weaver β} (hw : w.Coherent) (op : WeaverOp β) (typeName : String) :
    (w.apply op).isWoven typeName = true ↔ Weaves typeName w op ∨ w.isWoven typeName = true := by
  unfold Weaves
  rw [isWoven_eq, isWoven_eq]
  rcases mode?_apply hw op typeName with ⟨hadv, hmode⟩ | ⟨hadv, hbinds, -, hmode⟩ | ⟨hadv, hbinds, hmode⟩
  · rw [hmode]
    exact iff_of_true rfl (Or.inl (Or.inl hadv))
  · rw [hmode]
    exact iff_of_true rfl (Or.inl (Or.inr hbinds))
  · rw [hmode, or_iff_right]
    exact fun h => h.elim hadv hbinds

/-- A type that takes the place of a woven one does not unweave it. -/
theorem hollow_registerType [RegexEngine] (w : Weaver β) (t : TypeDescriptor β) :
    (w.apply (.registerType t)).Hollow t.name ↔ w.isWoven t.name = true ∧ t.isConcrete = false := by
  have hfound : (w.apply (.registerType t)).catalog.resolve? t.name = some t := by
    rw [catalog_apply]
    exact (Catalog.resolve?_register w.catalog t t.name).trans (if_pos rfl)
  have hwoven : (w.apply (.registerType t)).isWoven t.name = w.isWoven t.name := by
    rw [isWoven_eq, isWoven_eq, mode?, mode?]
    show ((w.registerType t).value.registration? t.name |>.map (·.mode)).isSome = _
    rw [registration?_registerType, if_pos rfl]
    simp only [Option.isSome_map]
  unfold Hollow
  rw [hwoven, hfound]
  simp only [Option.some.injEq, exists_eq_left']

/-- Nothing but registering a type under a name makes the name hollow or mends it. -/
theorem hollow_apply_of_ne [RegexEngine] {w : Weaver β} (hw : w.Coherent) {op : WeaverOp β} {typeName : String}
    (hop : ∀ t, op = .registerType t → t.name ≠ typeName) :
    (w.apply op).Hollow typeName ↔ w.Hollow typeName := by
  have hfound : (w.apply op).catalog.resolve? typeName = w.catalog.resolve? typeName := by
    rw [catalog_apply]
    cases op with
    | registerType t =>
        exact (Catalog.resolve?_register w.catalog t typeName).trans (if_neg (hop t rfl))
    | registerAspect a => rfl
    | registerInterceptTarget name => rfl
  unfold Hollow
  rw [hfound, isWoven_apply hw]
  constructor
  · rintro ⟨hweaves | hwoven, t, ht, hkind⟩
    · -- a registration that weaves the name finds a concrete type under it
      obtain ⟨u, hu, hconcrete⟩ := concrete_of_weaves hw hweaves
      cases ht.symm.trans hu
      exact absurd (hkind.symm.trans hconcrete) Bool.false_ne_true
    · exact ⟨hwoven, t, ht, hkind⟩
  · rintro ⟨hwoven, ht⟩
    exact ⟨Or.inr hwoven, ht⟩

/-- A name that is hollow after a registration was woven before it. -/
theorem isWoven_of_hollow_apply [RegexEngine] {w : Weaver β} (hw : w.Coherent) {op : WeaverOp β} {typeName : String}
    (h : (w.apply op).Hollow typeName) : w.isWoven typeName = true := by
  by_cases hop : ∃ t, op = .registerType t ∧ t.name = typeName
  · obtain ⟨t, rfl, rfl⟩ := hop
    exact ((hollow_registerType w t).mp h).1
  · exact ((hollow_apply_of_ne hw fun t ht hname => hop ⟨t, ht, hname⟩).mp h).1

/-! ## Runs -/

/-- A run that is followed by one more registration, split at a registration: that one is the last, or it
comes before. -/
theorem concat_eq_append_cons {ops earlier later : List (WeaverOp β)} {op first : WeaverOp β}
    (h : ops ++ [op] = earlier ++ first :: later) :
    (later = [] ∧ ops = earlier ∧ op = first) ∨
      ∃ rest, later = rest ++ [op] ∧ ops = earlier ++ first :: rest := by
  rcases List.eq_nil_or_concat' later with rfl | ⟨rest, last, rfl⟩
  · obtain ⟨hops, hop⟩ := List.append_inj' h rfl
    exact Or.inl ⟨rfl, hops, List.head_eq_of_cons_eq hop⟩
  · rw [← List.cons_append, ← List.append_assoc] at h
    obtain ⟨hops, hop⟩ := List.append_inj' h rfl
    rw [List.head_eq_of_cons_eq hop]
    exact Or.inr ⟨rest, rfl, hops⟩

/-- A last registration of a type replaces it exactly if it is woven by then and the new type is not concrete. -/
theorem replaces_concat_registerType [RegexEngine] (w : Weaver β) (ops : List (WeaverOp β)) (t : TypeDescriptor β) :
    w.Replaces (ops ++ [.registerType t]) t.name ↔
      (w.after ops).isWoven t.name = true ∧ t.isConcrete = false := by
  constructor
  · rintro ⟨earlier, u, later, hops, -, hkind, hwoven, hlater⟩
    rcases concat_eq_append_cons hops with ⟨-, rfl, hop⟩ | ⟨rest, rfl, -⟩
    · cases hop
      exact ⟨hwoven, hkind⟩
    · exact absurd rfl (hlater t ((mem_typesOf _ t).mpr (List.mem_append_right _ List.mem_cons_self)))
  · rintro ⟨hwoven, hkind⟩
    exact ⟨ops, t, [], rfl, rfl, hkind, hwoven, fun u hu => absurd hu List.not_mem_nil⟩

/-- A last registration of something else replaces nothing under the name. -/
theorem replaces_concat_of_ne [RegexEngine] (w : Weaver β) (ops : List (WeaverOp β)) {op : WeaverOp β}
    {typeName : String} (hop : ∀ t, op = .registerType t → t.name ≠ typeName) :
    w.Replaces (ops ++ [op]) typeName ↔ w.Replaces ops typeName := by
  constructor
  · rintro ⟨earlier, u, later, hops, hname, hkind, hwoven, hlater⟩
    rcases concat_eq_append_cons hops with ⟨-, -, rfl⟩ | ⟨rest, rfl, rfl⟩
    · exact absurd hname (hop u rfl)
    · refine ⟨earlier, u, rest, rfl, hname, hkind, hwoven, ?_⟩
      intro v hv
      apply hlater
      rw [typesOf_concat]
      exact List.mem_append_left _ hv
  · rintro ⟨earlier, t, later, rfl, hname, hkind, hwoven, hlater⟩
    refine ⟨earlier, t, later ++ [op], List.append_assoc _ _ _, hname, hkind, hwoven, ?_⟩
    intro u hu
    rcases List.mem_append.mp ((mem_typesOf _ u).mp hu) with hu | hu
    · exact hlater u ((mem_typesOf later u).mpr hu)
    · exact hop u (List.mem_singleton.mp hu).symm

/-- A name is hollow after a run from a new weaver exactly when the run replaced its woven type. -/
theorem hollow_iff_replaces [RegexEngine] (name : String) (config : WeaverConfig) (ops : List (WeaverOp β))
    (typeName : String) :
    let start : Weaver β := Weaver.new name config
    (start.after ops).Hollow typeName ↔ start.Replaces ops typeName := by
  intro start
  induction ops using List.reverseRecOn with
  | nil =>
      refine iff_of_false ?_ ?_
      · rintro ⟨hwoven, -⟩
        cases hwoven
      · rintro ⟨earlier, t, later, hops, -⟩
        cases earlier <;> cases hops
  | append_singleton ops op ih =>
      have hcoherent : (start.after ops).Coherent := (coherent_new name config).after ops
      rw [after_concat]
      by_cases hop : ∃ t, op = .registerType t ∧ t.name = typeName
      · obtain ⟨t, rfl, rfl⟩ := hop
        rw [hollow_registerType, replaces_concat_registerType]
      · have hne : ∀ t, op = .registerType t → t.name ≠ typeName :=
          fun t ht hname => hop ⟨t, ht, hname⟩
        rw [hollow_apply_of_ne hcoherent hne, replaces_concat_of_ne start ops hne, ih]

/-- Creating an instance fails exactly for a hollow name. -/
theorem createWovenInstance_error_iff {w : Weaver β} (hw : w.Coherent) (typeName : String)
    (world : World τ) (e : WeaveError) :
    (w.createWovenInstance typeName world).1 = .error e ↔
      e = .typeNotInstantiable typeName ∧ w.Hollow typeName := by
  rw [hollow_iff_registration hw]
  cases hr : w.registration? typeName with
  | none => simp [createWovenInstance, hr]
  | some r =>
      have hname : r.descriptor.name = typeName :=
        hw.catalog.name_of_resolve? _ _ (hw.fit typeName r hr).descriptor
      rw [createWovenInstance_of_registration hr, hname]
      cases hkind : r.descriptor.isConcrete with
      | true => simp [hkind]
      | false =>
          rw [if_neg Bool.false_ne_true, Except.error.injEq]
          constructor
          · rintro rfl
            exact ⟨rfl, r, rfl, hkind⟩
          · rintro ⟨rfl, -⟩
            rfl

/-- After any run from a new weaver a woven type is concrete, unless the last type that the run registered
under its name is not and took the place of a woven one. That is the only way in which a registration comes
to have a descriptor that is not concrete, the only one in which a name whose catalog entry is not concrete
comes to be woven, and the only cause for which creating an instance fails. A registration that weaves a
type finds it concrete. -/
theorem hollow_after [RegexEngine] (name : String) (config : WeaverConfig) (ops : List (WeaverOp β))
    (typeName : String) :
    let start : Weaver β := Weaver.new name config
    let w := start.after ops
    ((∃ r, w.registration? typeName = some r ∧ r.descriptor.isConcrete = false) ↔
      start.Replaces ops typeName) ∧
    (w.Hollow typeName ↔ start.Replaces ops typeName) ∧
    (∀ (world : World τ) e, (w.createWovenInstance typeName world).1 = .error e ↔
      e = .typeNotInstantiable typeName ∧ start.Replaces ops typeName) ∧
    ∀ op r, w.isWoven typeName = false → (w.apply op).registration? typeName = some r →
      r.descriptor.isConcrete = true := by
  intro start w
  have hw : w.Coherent := (coherent_new name config).after ops
  have hhollow : w.Hollow typeName ↔ start.Replaces ops typeName := hollow_iff_replaces name config ops typeName
  refine ⟨?_, hhollow, ?_, ?_⟩
  · rw [← hollow_iff_registration hw, hhollow]
  · intro world e
    rw [createWovenInstance_error_iff hw, hhollow]
  · intro op r hunwoven hr
    by_contra hkind
    have hhollow : (w.apply op).Hollow typeName :=
      (hollow_iff_registration (hw.apply op) typeName).mpr ⟨r, hr, Bool.not_eq_true _ ▸ hkind⟩
    exact Bool.false_ne_true (hunwoven.symm.trans (isWoven_of_hollow_apply hw hhollow))

/-- A concrete type that an aspect weaves and an abstract type of the same name. -/
def withdrawal : List (WeaverOp Unit) :=
  [.registerType ((TypeDescriptor.concrete "a.C" "C").method "f" [] ()),
    .registerAspect ((Aspect.empty "A").declare .before "a.C.f()" 0 (.custom ())),
    .registerType ((TypeDescriptor.abstractType "a.C").declare "f" [])]

/-- The abstract type is woven, and creating an instance of it fails. -/
theorem hollow_after_withdrawal :
    let w := (Weaver.new "weaver" {}).after withdrawal
    (w.catalog.resolve? "a.C").map (·.kind) = some .abstractType ∧
      (w.registration? "a.C").map (·.descriptor.kind) = some .abstractType ∧
      w.isWoven "a.C" = true ∧
      (w.createWovenInstance "a.C" (World.initial ())).1 = .error (.typeNotInstantiable "a.C") :=
  ⟨rfl, rfl, rfl, rfl⟩

end Weaver

end AspectWeaver

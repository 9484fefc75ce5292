import AspectWeaver.Proofs.Weaver.Run
import Mathlib.Data.List.Basic
import Mathlib.Data.List.Induction

/-!
# What a catalog holds after registering types

`Catalog.inForce` says it without tables: every name once, where it first came, with the type that was
registered last under it. Both queries of a catalog are views of this list (`resolve?_ofTypes`,
`scan_ofTypes`), and so the candidates of a pointcut are those of the list that lie where it looks
(`Pointcut.candidateTypes_ofTypes`). The catalog of a weaver is that of the types that its run registered
(`Weaver.catalog_after_new`).
-/

set_option autoImplicit false

namespace AspectWeaver

variable {β : Type}

namespace Catalog

/-- The catalog after registering types one after the other. -/
def ofTypes (ts : List (TypeDescriptor β)) : Catalog β := ts.foldl (fun c t => (c.register t).value) empty

/-- The type that was registered last under a name. -/
def lastNamed? (ts : List (TypeDescriptor β)) (name : String) : Option (TypeDescriptor β) :=
  ts.reverse.find? fun t => t.name = name

/-- The types that are registered now, in the order in which their names first came. -/
def inForce (ts : List (TypeDescriptor β)) : List (TypeDescriptor β) :=
  (ts.map (·.name)).eraseDups.filterMap (lastNamed? ts)

/-- One type more is one registration more. -/
theorem ofTypes_concat (ts : List (TypeDescriptor β)) (t : TypeDescriptor β) :
    ofTypes (ts ++ [t]) = ((ofTypes ts).register t).value := by
  rw [ofTypes, List.foldl_append]
  rfl

/-- The type at the end is the last of its name. -/
theorem lastNamed?_concat (ts : List (TypeDescriptor β)) (t : TypeDescriptor β) (name : String) :
    lastNamed? (ts ++ [t]) name = if t.name = name then some t else lastNamed? ts name := by
  unfold lastNamed?
  rw [List.reverse_concat, List.find?_cons]
  by_cases hname : t.name = name <;> simp [hname]

/-- A name that occurs has a last type, which is of this name. -/
theorem lastNamed?_of_mem {ts : List (TypeDescriptor β)} {name : String} (h : name ∈ ts.map (·.name)) :
    ∃ t, lastNamed? ts name = some t ∧ t.name = name := by
  obtain ⟨t, ht, rfl⟩ := List.mem_map.mp h
  cases hlast : lastNamed? ts t.name with
  | none =>
    have hnone := List.find?_eq_none.mp hlast t (List.mem_reverse.mpr ht)
    simp at hnone
  | some u => exact ⟨u, rfl, by simpa using List.find?_some hlast⟩

/-- The last type of a name is one of the types and has this name. -/
theorem mem_of_lastNamed? {ts : List (TypeDescriptor β)} {name : String} {t : TypeDescriptor β}
    (h : lastNamed? ts name = some t) : t ∈ ts ∧ t.name = name :=
  ⟨List.mem_reverse.mp (List.mem_of_find?_eq_some h), by simpa using List.find?_some h⟩

/-- An element more at the end is kept by `eraseDups` only if it is new. -/
theorem eraseDups_concat {α : Type} [DecidableEq α] (xs : List α) (x : α) :
    (xs ++ [x]).eraseDups = if x ∈ xs.eraseDups then xs.eraseDups else xs.eraseDups ++ [x] := by
  by_cases hmem : x ∈ xs <;>
    simp [List.eraseDups_append, List.removeAll, List.mem_eraseDups, List.eraseDups_cons, hmem]

/-- Nothing is left twice by `eraseDups`. -/
theorem nodup_eraseDups {α : Type} [DecidableEq α] (xs : List α) : xs.eraseDups.Nodup := by
  induction xs using List.reverseRecOn with
  | nil => exact List.nodup_nil
  | append_singleton xs x ih =>
    rw [eraseDups_concat]
    split
    next => exact ih
    next hnew =>
      rw [List.nodup_append]
      refine ⟨ih, by simp, ?_⟩
      intro other hother last hlast
      rw [List.mem_singleton.mp hlast]
      rintro rfl
      exact hnew hother

/-- A type registered anew takes the place of the one that has its name, or stands at the end. -/
theorem filterMap_update {names : List String} (hnodup : names.Nodup)
    {old new : String → Option (TypeDescriptor β)} {t : TypeDescriptor β}
    (hold : ∀ name ∈ names, ∃ u, old name = some u ∧ u.name = name)
    (hnew : ∀ name, new name = if t.name = name then some t else old name) :
    (if t.name ∈ names then names else names ++ [t.name]).filterMap new = place t (names.filterMap old) := by
  induction names with
  | nil => simp [place, hnew]
  | cons name names ih =>
    obtain ⟨hname, hnodup⟩ := List.nodup_cons.mp hnodup
    obtain ⟨u, hu, huname⟩ := hold name List.mem_cons_self
    rw [List.filterMap_cons_some hu]
    by_cases hsame : t.name = name
    · -- no later name is the same, so all later types stay as they are
      have hrest : names.filterMap new = names.filterMap old := by
        apply List.filterMap_congr
        intro other hother
        rw [hnew, if_neg]
        rintro rfl
        exact hname (hsame ▸ hother)
      have hhere : new name = some t := by rw [hnew, if_pos hsame]
      rw [if_pos (hsame ▸ List.mem_cons_self), place, if_pos (huname.trans hsame.symm),
        List.filterMap_cons_some hhere, hrest]
    · have hmem : t.name ∈ name :: names ↔ t.name ∈ names := by
        rw [List.mem_cons]
        exact or_iff_right hsame
      have hcons : (if t.name ∈ name :: names then name :: names else name :: names ++ [t.name]) =
          name :: if t.name ∈ names then names else names ++ [t.name] := by
        rw [if_congr hmem rfl rfl]
        split <;> rfl
      have hother : ¬ u.name = t.name := fun h => hsame (h.symm.trans huname)
      have hhere : new name = some u := by rw [hnew, if_neg hsame, hu]
      rw [hcons, List.filterMap_cons_some hhere, place, if_neg hother,
        ih hnodup fun later hlater => hold later (List.mem_cons_of_mem name hlater)]

/-- A type registered last takes its place among those in force. -/
theorem inForce_concat (ts : List (TypeDescriptor β)) (t : TypeDescriptor β) :
    inForce (ts ++ [t]) = place t (inForce ts) := by
  unfold inForce
  rw [List.map_append, List.map_singleton, eraseDups_concat]
  apply filterMap_update (nodup_eraseDups _)
  · intro name hname
    exact lastNamed?_of_mem (List.mem_eraseDups.mp hname)
  · exact lastNamed?_concat ts t

/-- A property that only the name decides is kept or lost by the whole place of a type. -/
theorem filter_place {p : TypeDescriptor β → Bool} {t : TypeDescriptor β}
    (hp : ∀ u : TypeDescriptor β, u.name = t.name → p u = p t) (types : List (TypeDescriptor β)) :
    (place t types).filter p = if p t then place t (types.filter p) else types.filter p := by
  induction types with
  | nil => cases ht : p t <;> simp [place, ht]
  | cons u types ih =>
    by_cases hname : u.name = t.name
    · cases ht : p t <;> simp [place, hname, ht, hp u hname]
    · cases ht : p t <;> cases hu : p u <;> simp [place, hname, ht, hu, ih]

/-- Under a name the last type of this name is found. -/
theorem resolve?_ofTypes (ts : List (TypeDescriptor β)) (name : String) :
    (ofTypes ts).resolve? name = lastNamed? ts name := by
  induction ts using List.reverseRecOn with
  | nil => rfl
  | append_singleton ts t ih => rw [ofTypes_concat, resolve?_register, ih, lastNamed?_concat]

/-- A namespace lists the types in force that lie in it. -/
theorem scan_ofTypes (ts : List (TypeDescriptor β)) (ns : String) :
    (ofTypes ts).scan ns = (inForce ts).filter fun t => t.namespaceName = ns := by
  induction ts using List.reverseRecOn generalizing ns with
  | nil => rfl
  | append_singleton ts t ih =>
    rw [ofTypes_concat, scan_register, inForce_concat, filter_place]
    · rw [ih, ih]
      by_cases hns : t.namespaceName = ns <;> simp [hns]
    · intro u hu
      rw [namespaceName_eq hu]

/-- There is one type in force under a name, the one registered last, or none. -/
theorem filter_name_inForce (ts : List (TypeDescriptor β)) (name : String) :
    ((inForce ts).filter fun t => t.name = name) = (lastNamed? ts name).toList := by
  induction ts using List.reverseRecOn with
  | nil => rfl
  | append_singleton ts t ih =>
    rw [inForce_concat, filter_place, ih, lastNamed?_concat]
    · by_cases hname : t.name = name
      · subst hname
        cases hlast : lastNamed? ts t.name with
        | none => simp [place]
        | some u =>
          have hu : u.name = t.name := by simpa using List.find?_some hlast
          simp [place, hu]
      · simp [hname]
    · intro u hu
      rw [hu]

end Catalog

/-- Whether a type lies where a selector looks. -/
def TypeLocator.locates (locator : TypeLocator) (t : TypeDescriptor β) : Bool :=
  match locator with
  | .named name => t.name = name
  | .inNamespace name => t.namespaceName = name

/-- The candidates of a pointcut are the concrete types in force that lie where it looks. -/
theorem Pointcut.candidateTypes_ofTypes (p : Pointcut) (ts : List (TypeDescriptor β)) :
    p.candidateTypes (Catalog.ofTypes ts) =
      (Catalog.inForce ts).filter fun t => t.isConcrete && p.locator.locates t := by
  rw [← List.filter_filter]
  unfold candidateTypes
  cases p.locator with
  | named name =>
    dsimp only
    rw [Catalog.resolve?_ofTypes, ← Catalog.filter_name_inForce]
    rfl
  | inNamespace name =>
    dsimp only
    rw [Catalog.scan_ofTypes]
    rfl

/-- The type that a registration puts into the catalog, if it is that of a type. -/
def WeaverOp.type? : WeaverOp β → Option (TypeDescriptor β)
  | .registerType t => some t
  | _ => none

namespace Weaver

/-- The types that a run registers, in order. -/
def typesOf (ops : List (WeaverOp β)) : List (TypeDescriptor β) := ops.filterMap WeaverOp.type?

/-- A last operation adds its type, if it registers one. -/
theorem typesOf_concat (ops : List (WeaverOp β)) (op : WeaverOp β) :
    typesOf (ops ++ [op]) = typesOf ops ++ op.type?.toList := by
  unfold typesOf
  rw [List.filterMap_append]
  cases h : op.type? <;> simp [h]

/-- The types of a run are those that it registers. -/
theorem mem_typesOf (ops : List (WeaverOp β)) (t : TypeDescriptor β) :
    t ∈ typesOf ops ↔ .registerType t ∈ ops := by
  unfold typesOf
  rw [List.mem_filterMap]
  constructor
  · rintro ⟨op, hop, ht⟩
    cases op with
    | registerType u =>
      cases ht
      exact hop
    | registerAspect a => cases ht
    | registerInterceptTarget name => cases ht
  · intro h
    exact ⟨_, h, rfl⟩

/-- Two runs, one behind the other, are one run. -/
theorem after_append [RegexEngine] (w : Weaver β) (earlier later : List (WeaverOp β)) :
    w.after (earlier ++ later) = (w.after earlier).after later := List.foldl_append

/-- A last operation applies to what the run before it left. -/
theorem after_concat [RegexEngine] (w : Weaver β) (ops : List (WeaverOp β)) (op : WeaverOp β) :
    w.after (ops ++ [op]) = (w.after ops).apply op := by
  rw [after_append]
  rfl

/-- Registering an aspect or a target leaves the catalog as it is. -/
theorem catalog_apply [RegexEngine] (w : Weaver β) (op : WeaverOp β) :
    (w.apply op).catalog = match op.type? with
      | some t => (w.catalog.register t).value
      | none => w.catalog := by
  cases op with
  | registerType t => rfl
  | registerAspect a =>
    rw [apply_registerAspect]
    rfl
  | registerInterceptTarget typeName =>
    rcases apply_registerInterceptTarget w typeName with ⟨h, -⟩ | ⟨t, -, -, -, -, -, h, -⟩
    · rw [h]
      rfl
    · rw [h]
      rfl

/-- After a run from a new weaver, the catalog is that of the types that it registered. -/
theorem catalog_after_new [RegexEngine] (name : String) (config : WeaverConfig) (ops : List (WeaverOp β)) :
    ((Weaver.new name config).after ops).catalog = Catalog.ofTypes (typesOf ops) := by
  induction ops using List.reverseRecOn with
  | nil => rfl
  | append_singleton ops op ih =>
    rw [after_concat, catalog_apply, ih, typesOf_concat]
    cases op.type? with
    | none => rw [Option.toList_none, List.append_nil]
    | some t => rw [Option.toList_some, Catalog.ofTypes_concat]

end Weaver

end AspectWeaver

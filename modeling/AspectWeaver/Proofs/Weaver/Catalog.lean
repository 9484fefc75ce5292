import AspectWeaver.Pointcut

/-!
# The two indexes of a catalog

Registering a type writes it into both indexes. `Catalog.Coherent` says that they agree: a type is found
under its own name, and what a namespace lists is what its types are now. Hence whatever a pointcut
selects belongs to the type that the catalog holds under that name (`Pointcut.resolve?_of_mem_select`).
-/

set_option autoImplicit false

namespace AspectWeaver

variable {β : Type}

namespace Catalog

/-- The two indexes of a catalog agree. -/
structure Coherent (c : Catalog β) : Prop where
  name_of_resolve? : ∀ name t, c.resolve? name = some t → t.name = name
  resolve?_of_scan : ∀ ns, ∀ t ∈ c.scan ns, c.resolve? t.name = some t ∧ t.namespaceName = ns
  nodup_scan : ∀ ns, ((c.scan ns).map (·.name)).Nodup

/-- The empty catalog is coherent. -/
theorem coherent_empty : (empty : Catalog β).Coherent := by
  refine ⟨?_, ?_, ?_⟩
  · intro name t h
    cases h
  · intro ns t h
    cases h
  · intro ns
    exact List.nodup_nil

/-- After a registration the type is found under its name, and nothing else is found otherwise than before. -/
theorem resolve?_register (c : Catalog β) (t : TypeDescriptor β) (name : String) :
    (c.register t).value.resolve? name = if t.name = name then some t else c.resolve? name :=
  Table.get?_insert c.byName t.name name t

/-- A registration puts the type in its own namespace and leaves the others alone. -/
theorem scan_register (c : Catalog β) (t : TypeDescriptor β) (ns : String) :
    (c.register t).value.scan ns =
      if t.namespaceName = ns then place t (c.scan t.namespaceName) else c.scan ns := by
  show ((c.byNamespace.insert _ _).get? ns).getD [] = _
  rw [Table.get?_insert]
  split <;> rfl

/-- Putting a type in place adds its name at the end unless it is there. -/
theorem map_name_place (t : TypeDescriptor β) (types : List (TypeDescriptor β)) :
    (place t types).map (·.name) =
      if t.name ∈ types.map (·.name) then types.map (·.name) else types.map (·.name) ++ [t.name] := by
  induction types with
  | nil => rfl
  | cons u types ih =>
      by_cases hu : u.name = t.name
      · simp [place, hu]
      · have hne : ¬ t.name = u.name := fun h => hu h.symm
        simp only [place, hu, if_false, List.map_cons, ih, List.mem_cons, hne, false_or]
        split <;> simp

/-- Among types with different names, a type that is put in place leaves those with other names. -/
theorem mem_place {t u : TypeDescriptor β} {types : List (TypeDescriptor β)}
    (hnodup : (types.map (·.name)).Nodup) (hu : u ∈ place t types) :
    u = t ∨ (u ∈ types ∧ u.name ≠ t.name) := by
  induction types with
  | nil => exact Or.inl (by simpa [place] using hu)
  | cons v types ih =>
      obtain ⟨hv, hnodup⟩ := List.nodup_cons.mp hnodup
      by_cases hname : v.name = t.name
      · rw [place, if_pos hname, List.mem_cons] at hu
        rcases hu with rfl | hu
        · exact Or.inl rfl
        · refine Or.inr ⟨List.mem_cons_of_mem v hu, fun h => hv ?_⟩
          show v.name ∈ types.map (·.name)
          rw [hname, ← h]
          exact List.mem_map_of_mem hu
      · rw [place, if_neg hname, List.mem_cons] at hu
        rcases hu with rfl | hu
        · exact Or.inr ⟨List.mem_cons_self, hname⟩
        · rcases ih hnodup hu with rfl | ⟨hmem, hne⟩
          · exact Or.inl rfl
          · exact Or.inr ⟨List.mem_cons_of_mem v hmem, hne⟩

/-- Types of the same name lie in the same namespace. -/
theorem namespaceName_eq {t u : TypeDescriptor β} (h : t.name = u.name) :
    t.namespaceName = u.namespaceName := by
  unfold TypeDescriptor.namespaceName
  rw [h]

/-- Registering a type keeps the indexes in agreement. -/
theorem Coherent.register {c : Catalog β} (h : c.Coherent) (t : TypeDescriptor β) :
    (c.register t).value.Coherent := by
  refine ⟨?_, ?_, ?_⟩
  · intro name u hu
    rw [resolve?_register] at hu
    split at hu
    next hname =>
      cases hu
      exact hname
    next => exact h.name_of_resolve? name u hu
  · intro ns u hu
    rw [scan_register] at hu
    rw [resolve?_register]
    split at hu
    next hns =>
      rcases mem_place (h.nodup_scan _) hu with rfl | ⟨hmem, hne⟩
      · exact ⟨if_pos rfl, hns⟩
      · have hold := h.resolve?_of_scan _ u hmem
        rw [if_neg (Ne.symm hne), ← hns]
        exact hold
    next hns =>
      have hold := h.resolve?_of_scan ns u hu
      -- a type of the same name would lie in the same namespace
      have hne : t.name ≠ u.name := fun hname => hns (by rw [namespaceName_eq hname, hold.2])
      rw [if_neg hne]
      exact hold
  · intro ns
    rw [scan_register]
    split
    next =>
      rw [map_name_place]
      split
      next => exact h.nodup_scan _
      next hnew =>
        rw [List.nodup_append]
        refine ⟨h.nodup_scan _, by simp, ?_⟩
        intro name hname other hother
        rw [List.mem_singleton] at hother
        rintro rfl
        exact hnew (hother ▸ hname)
    next => exact h.nodup_scan ns

end Catalog

namespace Pointcut

variable {c : Catalog β} {p : Pointcut}

/-- The candidates of a pointcut are concrete types, each the one that the catalog holds under its name. -/
theorem resolve?_of_mem_candidateTypes (h : c.Coherent) {t : TypeDescriptor β} (ht : t ∈ p.candidateTypes c) :
    c.resolve? t.name = some t ∧ t.isConcrete = true := by
  obtain ⟨ht, hconcrete⟩ := List.mem_filter.mp ht
  refine ⟨?_, hconcrete⟩
  cases hlocator : p.locator with
  | named name =>
      rw [hlocator] at ht
      have hfound : c.resolve? name = some t := by simpa using ht
      rw [h.name_of_resolve? name t hfound]
      exact hfound
  | inNamespace name =>
      rw [hlocator] at ht
      exact (h.resolve?_of_scan name t ht).1

/-- All candidates of a pointcut lie in one namespace. -/
theorem namespaceName_of_mem_candidateTypes (h : c.Coherent) {t u : TypeDescriptor β}
    (ht : t ∈ p.candidateTypes c) (hu : u ∈ p.candidateTypes c) : t.namespaceName = u.namespaceName := by
  obtain ⟨ht, -⟩ := List.mem_filter.mp ht
  obtain ⟨hu, -⟩ := List.mem_filter.mp hu
  cases hlocator : p.locator with
  | named name =>
      rw [hlocator, Option.mem_toList] at ht hu
      cases ht.symm.trans hu
      rfl
  | inNamespace name =>
      rw [hlocator] at ht hu
      rw [(h.resolve?_of_scan name t ht).2, (h.resolve?_of_scan name u hu).2]

/-- No type is a candidate twice. -/
theorem nodup_candidateTypes (h : c.Coherent) : ((p.candidateTypes c).map (·.name)).Nodup := by
  unfold candidateTypes
  cases p.locator with
  | named name =>
      dsimp only
      cases c.resolve? name with
      | none => exact List.nodup_nil
      | some t => exact (List.pairwise_singleton _ t.name).sublist (List.filter_sublist.map _)
  | inNamespace name => exact (h.nodup_scan name).sublist (List.filter_sublist.map _)

/-- What a pointcut selects belongs to a concrete type, the one that the catalog holds under its name. -/
theorem resolve?_of_mem_select [RegexEngine] (h : c.Coherent) {x : MatchedMethod β} (hx : x ∈ p.select c) :
    c.resolve? x.declaringType.name = some x.declaringType ∧ x.declaringType.isConcrete = true := by
  obtain ⟨t, ht, hm⟩ := List.mem_flatMap.mp hx
  obtain ⟨m, -, rfl⟩ := List.mem_map.mp hm
  exact resolve?_of_mem_candidateTypes h ht

end Pointcut

end AspectWeaver

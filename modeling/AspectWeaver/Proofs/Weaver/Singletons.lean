import AspectWeaver.Proofs.Weaver.Registered
import AspectWeaver.Proofs.Weaver.Run

/-!
# What an interceptor registry holds after binding methods

Binding marked methods one after the other makes the interceptor of a kind for the first marker that names
it and never again, and numbers the interceptors in the order in which they are made
(`singleton_bindMarked`); the log tells of each of them once, in this order (`creations_foldlM`). Each
signature is bound to the interceptor that the kind of its last marker has (`binding?_bindMarked`).
-/

set_option autoImplicit false

namespace AspectWeaver

/-- The entries of a table are what is found under its keys. -/
theorem Table.values_eq_filterMap {κ α : Type} [DecidableEq κ] {t : Table κ α} (h : t.keys.Nodup) :
    t.values = t.keys.filterMap t.get? := by
  revert h
  unfold keys values get?
  induction t.entries with
  | nil =>
    intro _
    rfl
  | cons entry rest ih =>
    intro h
    obtain ⟨hnew, hrest⟩ := List.nodup_cons.mp h
    have hskip : ∀ key ∈ rest.map Prod.fst, find key (entry :: rest) = find key rest := by
      intro key hkey
      rw [find, if_neg]
      rintro rfl
      exact hnew hkey
    have hhere : find entry.1 (entry :: rest) = some entry.2 := if_pos rfl
    rw [List.map_cons, List.map_cons, List.filterMap_cons, hhere, List.filterMap_congr hskip, ih hrest]

variable {β : Type}

/-! ## The registry -/

namespace InterceptorRegistry

/-- What is logged when an interceptor of a type of this name is made. -/
def creation (typeName : String) : Event :=
  ⟨.debug, "Created interceptor singleton", [("interceptor", .text typeName)]⟩

/-- What is logged when a method is bound to an interceptor. -/
def bound (signature : Signature) (marker : InterceptorMarker β) : Event :=
  ⟨.debug, "Bound interceptor",
    [("signature", .text signature.text), ("interceptor", .text marker.typeName)]⟩

/-- What was logged of interceptors that were made. -/
def creations (events : List Event) : List Event :=
  events.filter fun e => e.message = "Created interceptor singleton"

/-- What is logged when the interceptors of a registry are made, one after the other. -/
def accounts (r : InterceptorRegistry β) : List Event :=
  r.singletons.values.map fun i => creation i.marker.typeName

/-- The creations of two logs, one behind the other, are those of the first and then those of the second. -/
theorem creations_append (earlier later : List Event) :
    creations (earlier ++ later) = creations earlier ++ creations later :=
  List.filter_append earlier later

/-- A method is bound to the interceptor that is there, or one is made for it. -/
theorem bind_cases (r : InterceptorRegistry β) (signature : Signature) (marker : InterceptorMarker β) :
    (∃ i, r.singletons.get? marker.typeId = some i ∧
      r.bind signature marker =
        ⟨{ r with bindings := r.bindings.insert signature i }, [bound signature marker]⟩) ∨
    (r.singletons.get? marker.typeId = none ∧
      r.bind signature marker =
        ⟨⟨r.name, r.made + 1, r.singletons.insert marker.typeId ⟨r.name, r.made, marker⟩,
          r.bindings.insert signature ⟨r.name, r.made, marker⟩⟩,
          [creation marker.typeName, bound signature marker]⟩) := by
  unfold bind fetch
  cases h : r.singletons.get? marker.typeId with
  | none => exact Or.inr ⟨rfl, rfl⟩
  | some i => exact Or.inl ⟨i, rfl, rfl⟩

/-- Binding a method leaves the name of the registry as it is. -/
theorem name_bind (r : InterceptorRegistry β) (signature : Signature) (marker : InterceptorMarker β) :
    (r.bind signature marker).value.name = r.name := by
  rcases bind_cases r signature marker with ⟨i, -, h⟩ | ⟨-, h⟩ <;> rw [h]

/-- An interceptor that is there stays; the marker is asked only where there is none of its kind. -/
theorem singleton_bind (r : InterceptorRegistry β) (signature : Signature) (marker : InterceptorMarker β)
    (id : TypeId) :
    (r.bind signature marker).value.singletons.get? id =
      (r.singletons.get? id).or (if marker.typeId = id then some ⟨r.name, r.made, marker⟩ else none) := by
  rcases bind_cases r signature marker with ⟨i, hi, h⟩ | ⟨hnone, h⟩
  · rw [h]
    dsimp only
    by_cases hid : marker.typeId = id
    · rw [← hid, hi, Option.some_or]
    · rw [if_neg hid, Option.or_none]
  · rw [h]
    dsimp only
    rw [Table.get?_insert]
    by_cases hid : marker.typeId = id
    · rw [if_pos hid, if_pos hid, ← hid, hnone, Option.none_or]
    · rw [if_neg hid, if_neg hid, Option.or_none]

/-- The kind of the marker comes last among the kinds, unless it is there already. -/
theorem keys_bind (r : InterceptorRegistry β) (signature : Signature) (marker : InterceptorMarker β) :
    (r.bind signature marker).value.singletons.keys =
      if marker.typeId ∈ r.singletons.keys then r.singletons.keys
      else r.singletons.keys ++ [marker.typeId] := by
  rcases bind_cases r signature marker with ⟨i, hi, h⟩ | ⟨hnone, h⟩
  · have hmem := (r.singletons.mem_keys_iff marker.typeId).mpr ⟨i, hi⟩
    rw [h, if_pos hmem]
  · rw [h]
    exact Table.keys_insert _ _ _

/-- A registry that has made one interceptor of each of its kinds has done so after a binding too. -/
theorem made_bind {r : InterceptorRegistry β} (hr : r.made = r.singletons.keys.length)
    (signature : Signature) (marker : InterceptorMarker β) :
    (r.bind signature marker).value.made = (r.bind signature marker).value.singletons.keys.length := by
  rw [keys_bind]
  rcases bind_cases r signature marker with ⟨i, hi, h⟩ | ⟨hnone, h⟩
  · have hmem := (r.singletons.mem_keys_iff marker.typeId).mpr ⟨i, hi⟩
    rw [h, if_pos hmem]
    exact hr
  · have hnew := (Table.get?_eq_none_iff _ _).mp hnone
    rw [h, if_neg hnew, List.length_append, ← hr]
    rfl

/-- The signature is bound to the interceptor that its kind has from now on. -/
theorem binding?_bind (r : InterceptorRegistry β) (signature s : Signature) (marker : InterceptorMarker β) :
    (r.bind signature marker).value.binding? s =
      if signature = s then (r.bind signature marker).value.singletons.get? marker.typeId
      else r.binding? s := by
  unfold binding?
  rcases bind_cases r signature marker with ⟨i, hi, h⟩ | ⟨-, h⟩
  · rw [h]
    dsimp only
    rw [Table.get?_insert, hi]
  · rw [h]
    dsimp only
    rw [Table.get?_insert, Table.get?_insert, if_pos rfl]

/-- What is logged as made is what the registry has more than before. -/
theorem creations_bind (r : InterceptorRegistry β) (signature : Signature) (marker : InterceptorMarker β) :
    (r.bind signature marker).value.accounts = r.accounts ++ creations (r.bind signature marker).events := by
  rcases bind_cases r signature marker with ⟨i, -, h⟩ | ⟨hnone, h⟩
  · rw [h]
    exact (List.append_nil _).symm
  · rw [h]
    unfold accounts
    rw [Table.values_insert_of_get?_eq_none hnone, List.map_append]
    rfl

end InterceptorRegistry

/-! ## Binding many methods -/

/-- The marker that was bound last to a signature. -/
def lastMarker? (marked : List (Signature × InterceptorMarker β)) (s : Signature) :
    Option (InterceptorMarker β) :=
  (marked.reverse.find? fun x => x.1 = s).map Prod.snd

/-- The marker that named a kind of interceptor first. -/
def firstMarker? (marked : List (Signature × InterceptorMarker β)) (id : TypeId) :
    Option (InterceptorMarker β) :=
  (marked.find? fun x => x.2.typeId = id).map Prod.snd

/-- The last marker of two lists, one behind the other, is that of the second if it has one. -/
theorem lastMarker?_append (marked more : List (Signature × InterceptorMarker β)) (s : Signature) :
    lastMarker? (marked ++ more) s = (lastMarker? more s).or (lastMarker? marked s) := by
  unfold lastMarker?
  rw [List.reverse_append, List.find?_append, Option.map_or]

/-- A binding at the end is the last of its signature. -/
theorem lastMarker?_concat (marked : List (Signature × InterceptorMarker β))
    (x : Signature × InterceptorMarker β) (s : Signature) :
    lastMarker? (marked ++ [x]) s = if x.1 = s then some x.2 else lastMarker? marked s := by
  rw [lastMarker?_append]
  by_cases hs : x.1 = s <;> simp [lastMarker?, hs]

/-- The last marker of a signature was bound to it. -/
theorem mem_of_lastMarker? {marked : List (Signature × InterceptorMarker β)} {s : Signature}
    {marker : InterceptorMarker β} (h : lastMarker? marked s = some marker) : (s, marker) ∈ marked := by
  obtain ⟨x, hx, rfl⟩ := Option.map_eq_some_iff.mp h
  have hs : x.1 = s := by simpa using List.find?_some hx
  rw [← hs]
  exact List.mem_reverse.mp (List.mem_of_find?_eq_some hx)

/-- A signature has a last marker exactly if any was bound to it. -/
theorem lastMarker?_isSome_iff (marked : List (Signature × InterceptorMarker β)) (s : Signature) :
    (lastMarker? marked s).isSome = true ↔ ∃ marker, (s, marker) ∈ marked := by
  unfold lastMarker?
  simp only [Option.isSome_map, List.find?_isSome, List.mem_reverse, decide_eq_true_eq, Prod.exists]
  constructor
  · rintro ⟨_, marker, hmem, rfl⟩
    exact ⟨marker, hmem⟩
  · rintro ⟨marker, hmem⟩
    exact ⟨s, marker, hmem, rfl⟩

/-- A binding at the end is the first of its kind only if there is none before it. -/
theorem firstMarker?_concat (marked : List (Signature × InterceptorMarker β))
    (x : Signature × InterceptorMarker β) (id : TypeId) :
    firstMarker? (marked ++ [x]) id =
      (firstMarker? marked id).or (if x.2.typeId = id then some x.2 else none) := by
  unfold firstMarker?
  rw [List.find?_append, Option.map_or]
  by_cases hid : x.2.typeId = id <;> simp [hid]

/-- The first marker of a kind is of this kind. -/
theorem typeId_of_firstMarker? {marked : List (Signature × InterceptorMarker β)} {id : TypeId}
    {marker : InterceptorMarker β} (h : firstMarker? marked id = some marker) : marker.typeId = id := by
  obtain ⟨x, hx, rfl⟩ := Option.map_eq_some_iff.mp h
  simpa using List.find?_some hx

namespace Weaver

/-- Binding one marked method more is one binding after the others. -/
theorem bindMarked_concat (r : InterceptorRegistry β) (marked : List (Signature × InterceptorMarker β))
    (x : Signature × InterceptorMarker β) :
    bindMarked r (marked ++ [x]) = ((bindMarked r marked).bind x.1 x.2).value := by
  rw [bindMarked, List.foldl_append]
  rfl

/-- Binding methods leaves the name of the registry as it is. -/
theorem name_bindMarked (r : InterceptorRegistry β) (marked : List (Signature × InterceptorMarker β)) :
    (bindMarked r marked).name = r.name := by
  induction marked using List.reverseRecOn with
  | nil => rfl
  | append_singleton marked x ih => rw [bindMarked_concat, InterceptorRegistry.name_bind, ih]

/-- An interceptor that is there is never replaced. -/
theorem singleton_bindMarked_of_some {r : InterceptorRegistry β} {id : TypeId} {i : Interceptor β}
    (h : r.singletons.get? id = some i) (marked : List (Signature × InterceptorMarker β)) :
    (bindMarked r marked).singletons.get? id = some i := by
  induction marked using List.reverseRecOn with
  | nil => exact h
  | append_singleton marked x ih =>
      rw [bindMarked_concat, InterceptorRegistry.singleton_bind, ih, Option.some_or]

/-- There is an interceptor for every marker that was bound. -/
theorem exists_singleton_bindMarked (r : InterceptorRegistry β)
    {marked : List (Signature × InterceptorMarker β)} {x : Signature × InterceptorMarker β}
    (h : x ∈ marked) : ∃ i, (bindMarked r marked).singletons.get? x.2.typeId = some i := by
  obtain ⟨earlier, later, rfl⟩ := List.append_of_mem h
  have hmade : ∃ i, (bindMarked r (earlier ++ [x])).singletons.get? x.2.typeId = some i := by
    rw [bindMarked_concat, InterceptorRegistry.singleton_bind, if_pos rfl]
    cases (bindMarked r earlier).singletons.get? x.2.typeId <;> exact ⟨_, rfl⟩
  obtain ⟨i, hi⟩ := hmade
  rw [List.append_cons, bindMarked, List.foldl_append]
  exact ⟨i, singleton_bindMarked_of_some hi later⟩

/-- A signature is bound to the interceptor that the kind of its last marker has, or as before. -/
theorem binding?_bindMarked (r : InterceptorRegistry β)
    (marked : List (Signature × InterceptorMarker β)) (s : Signature) :
    (bindMarked r marked).binding? s = match lastMarker? marked s with
      | some marker => (bindMarked r marked).singletons.get? marker.typeId
      | none => r.binding? s := by
  induction marked using List.reverseRecOn with
  | nil => rfl
  | append_singleton marked x ih =>
      rw [bindMarked_concat, InterceptorRegistry.binding?_bind, lastMarker?_concat]
      by_cases hs : x.1 = s
      · rw [if_pos hs, if_pos hs]
      · rw [if_neg hs, if_neg hs, ih]
        cases hlast : lastMarker? marked s with
        | none => rfl
        | some marker =>
            -- the interceptor of an older marker is there already, so the new binding does not touch it
            obtain ⟨i, hi⟩ := exists_singleton_bindMarked r (mem_of_lastMarker? hlast)
            dsimp only at hi ⊢
            rw [InterceptorRegistry.singleton_bind, hi, Option.some_or]

/-- Whatever is logged as made while methods are bound is new in the registry. -/
theorem creations_foldlM (r : InterceptorRegistry β) (marked : List (Signature × InterceptorMarker β)) :
    (bindMarked r marked).accounts = r.accounts ++ InterceptorRegistry.creations
      (marked.foldlM (fun (r : InterceptorRegistry β) x => r.bind x.1 x.2) r).events := by
  induction marked generalizing r with
  | nil => exact (List.append_nil _).symm
  | cons x marked ih =>
      have hrest := ih (r.bind x.1 x.2).value
      rw [List.foldlM_cons, Logged.events_bind, InterceptorRegistry.creations_append, ← List.append_assoc,
        ← InterceptorRegistry.creations_bind]
      exact hrest

/-! ## From an empty registry -/

section

variable (name : String) (marked : List (Signature × InterceptorMarker β))

/-- The kinds come in the order in which markers first named them. -/
theorem keys_bindMarked : (bindMarked (InterceptorRegistry.empty name) marked).singletons.keys =
    (marked.map fun x => x.2.typeId).eraseDups := by
  induction marked using List.reverseRecOn with
  | nil => rfl
  | append_singleton marked x ih =>
      rw [bindMarked_concat, InterceptorRegistry.keys_bind, ih, List.map_append, List.map_singleton,
        Catalog.eraseDups_concat]

/-- As many interceptors were made as there are kinds. -/
theorem made_bindMarked : (bindMarked (InterceptorRegistry.empty name) marked).made =
    (bindMarked (InterceptorRegistry.empty name) marked).singletons.keys.length := by
  induction marked using List.reverseRecOn with
  | nil => rfl
  | append_singleton marked x ih =>
      rw [bindMarked_concat]
      exact InterceptorRegistry.made_bind ih x.1 x.2

/-- Of each kind there is the interceptor that was made from its first marker, and its number is the place of
the kind among all. -/
theorem singleton_bindMarked (id : TypeId) :
    (bindMarked (InterceptorRegistry.empty name) marked).singletons.get? id =
      (firstMarker? marked id).map (Interceptor.mk name
        ((bindMarked (InterceptorRegistry.empty name) marked).singletons.keys.idxOf id)) := by
  induction marked using List.reverseRecOn with
  | nil => rfl
  | append_singleton marked x ih =>
      have hmade := made_bindMarked name marked
      have hname : (bindMarked (InterceptorRegistry.empty name) marked).name = name := name_bindMarked _ marked
      rw [bindMarked_concat, InterceptorRegistry.singleton_bind, InterceptorRegistry.keys_bind,
        firstMarker?_concat, hname, hmade]
      revert ih
      generalize (bindMarked (InterceptorRegistry.empty name) marked).singletons = made
      intro ih
      cases hfirst : firstMarker? marked id with
      | some first =>
          -- the kind is there, so it keeps its place and its interceptor
          rw [hfirst, Option.map_some] at ih
          have hmem : id ∈ made.keys := (made.mem_keys_iff id).mpr ⟨_, ih⟩
          rw [ih, Option.some_or, Option.some_or, Option.map_some]
          split
          next => rfl
          next => rw [List.idxOf_append_of_mem hmem]
      | none =>
          rw [hfirst, Option.map_none] at ih
          have hmem : id ∉ made.keys := (Table.get?_eq_none_iff made id).mp ih
          rw [ih, Option.none_or, Option.none_or]
          by_cases hid : x.2.typeId = id
          · -- the kind is new, so it comes last
            subst hid
            rw [if_pos rfl, if_pos rfl, if_neg hmem, Option.map_some, List.idxOf_append_of_notMem hmem,
              List.idxOf_cons_self, Nat.add_zero]
          · rw [if_neg hid, if_neg hid, Option.map_none]

end

end Weaver

end AspectWeaver

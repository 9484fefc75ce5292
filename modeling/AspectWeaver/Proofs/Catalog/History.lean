import AspectWeaver.Proofs.Weaver.Registered

/-!
# Both indexes of a catalog are functions of its history

The index by name holds under each name the type that was registered last under it, and the index by namespace
lists for each namespace the same types, in the order in which their names first came (`Catalog.map_some_scan`).
Registering a known name replaces one entry where it stands, and a new name comes last in its namespace
(`Catalog.scan_register_of_known`, `Catalog.scan_register_of_new`). The top is `Catalog.ofTypes_indexes`.
-/

set_option autoImplicit false

namespace AspectWeaver

variable {β : Type}

/-! ## Namespaces -/

namespace Text

/-- What stands before the last dot of a name is its namespace. -/
theorem namespaceOf_append_dot (front last : String) (h : '.' ∉ last.toList) :
    namespaceOf (front ++ "." ++ last) = front := by
  have hlast : segments last = [last.toList] := split_of_not_mem h
  rw [namespaceOf, segments_append_dot, hlast, List.dropLast_concat, dotted, segments, join_split, String.ofList_toList]

/-- A name without dots lies in the empty namespace. -/
theorem namespaceOf_of_not_mem {name : String} (h : '.' ∉ name.toList) : namespaceOf name = "" := by
  rw [namespaceOf, segments, split_of_not_mem h]
  rfl

end Text

namespace Catalog

/-! ## Putting a type in place -/

/-- A type whose name is there takes the place of the one that has it. -/
theorem place_of_mem {t : TypeDescriptor β} {types : List (TypeDescriptor β)}
    (hnodup : (types.map (·.name)).Nodup) (h : t.name ∈ types.map (·.name)) :
    place t types = types.map fun u => if u.name = t.name then t else u := by
  induction types with
  | nil => cases h
  | cons u types ih =>
    obtain ⟨hu, hnodup⟩ := List.nodup_cons.mp hnodup
    rw [place, List.map_cons]
    split
    next hname =>
      -- no other type has the name, so the rest stays as it is
      have hrest : (types.map fun v => if v.name = t.name then t else v) = types := by
        conv_rhs => rw [← List.map_id types]
        apply List.map_congr_left
        intro v hv
        refine if_neg fun hsame => hu ?_
        show u.name ∈ types.map (·.name)
        rw [hname, ← hsame]
        exact List.mem_map_of_mem hv
      rw [hrest]
    next hname =>
      have hlater : t.name ∈ types.map (·.name) := (List.mem_cons.mp h).resolve_left fun hsame => hname hsame.symm
      rw [ih hnodup hlater]

/-- A type with a new name comes last. -/
theorem place_of_not_mem {t : TypeDescriptor β} {types : List (TypeDescriptor β)}
    (h : t.name ∉ types.map (·.name)) : place t types = types ++ [t] := by
  induction types with
  | nil => rfl
  | cons u types ih =>
    obtain ⟨hu, hrest⟩ := not_or.mp (mt List.mem_cons.mpr h)
    rw [place, if_neg (Ne.symm hu), ih hrest, List.cons_append]

/-! ## The index by name -/

/-- The names of the registered types, each once, in the order in which they first came. -/
def names (ts : List (TypeDescriptor β)) : List String := (ts.map (·.name)).eraseDups

/-- The names are those of the types that were registered. -/
theorem mem_names {ts : List (TypeDescriptor β)} {name : String} :
    name ∈ names ts ↔ ∃ t ∈ ts, t.name = name := by
  rw [names, List.mem_eraseDups, List.mem_map]

/-- The index by name has the names in the order in which they were first registered. -/
theorem keys_byName_ofTypes (ts : List (TypeDescriptor β)) : (ofTypes ts).byName.keys = names ts := by
  induction ts using List.reverseRecOn with
  | nil => rfl
  | append_singleton ts t ih =>
    rw [ofTypes_concat, names, List.map_append, List.map_singleton, eraseDups_concat, ← names, ← ih]
    exact Table.keys_insert _ _ _

/-- A catalog is as large as there are names. -/
theorem size_ofTypes (ts : List (TypeDescriptor β)) : (ofTypes ts).size = (names ts).length := by
  rw [← keys_byName_ofTypes, Table.keys, List.length_map]
  rfl

/-- The type registered last under a name is the one behind which no other has the name. -/
theorem resolve?_ofTypes_eq_some_iff (ts : List (TypeDescriptor β)) (name : String) (t : TypeDescriptor β) :
    (ofTypes ts).resolve? name = some t ↔
      ∃ earlier later, ts = earlier ++ t :: later ∧ t.name = name ∧ ∀ u ∈ later, u.name ≠ name := by
  rw [resolve?_ofTypes, lastNamed?, List.find?_eq_some_iff_append]
  simp only [decide_eq_true_eq, Bool.not_eq_true', decide_eq_false_iff_not]
  constructor
  · rintro ⟨hname, later, earlier, hts, hlater⟩
    refine ⟨earlier.reverse, later.reverse, ?_, hname, fun u hu => hlater u (List.mem_reverse.mp hu)⟩
    rw [← List.reverse_reverse ts, hts, List.reverse_append, List.reverse_cons, List.append_assoc,
      List.singleton_append]
  · rintro ⟨earlier, later, rfl, hname, hlater⟩
    refine ⟨hname, later.reverse, earlier.reverse, ?_, fun u hu => hlater u (List.mem_reverse.mp hu)⟩
    rw [List.reverse_append, List.reverse_cons, List.append_assoc, List.singleton_append]

/-- Nothing is found under a name exactly if no type of this name was registered. -/
theorem resolve?_ofTypes_eq_none_iff (ts : List (TypeDescriptor β)) (name : String) :
    (ofTypes ts).resolve? name = none ↔ ∀ t ∈ ts, t.name ≠ name := by
  rw [resolve?_ofTypes, lastNamed?, List.find?_eq_none]
  simp only [List.mem_reverse, decide_eq_true_eq, ne_eq]

/-! ## The index by namespace -/

/-- A namespace lists what is found by name under the names that lie in it. -/
theorem map_some_scan (ts : List (TypeDescriptor β)) (ns : String) :
    ((ofTypes ts).scan ns).map some =
      ((names ts).filter fun name => Text.namespaceOf name = ns).map (ofTypes ts).resolve? := by
  have hfound : ∀ name ∈ names ts, ∃ t, lastNamed? ts name = some t ∧ t.name = name := by
    intro name hname
    exact lastNamed?_of_mem (List.mem_eraseDups.mp hname)
  rw [scan_ofTypes, inForce, ← names, funext (resolve?_ofTypes ts)]
  generalize names ts = known at hfound
  induction known with
  | nil => rfl
  | cons name known ih =>
    obtain ⟨t, ht, rfl⟩ := hfound name List.mem_cons_self
    have hrest := ih fun other hother => hfound other (List.mem_cons_of_mem _ hother)
    rw [List.filterMap_cons_some ht, List.filter_cons, List.filter_cons]
    by_cases hns : Text.namespaceOf t.name = ns
    · have hin : t.namespaceName = ns := hns
      simp [hns, hin, hrest, ht]
    · have hout : ¬ t.namespaceName = ns := hns
      simp [hns, hout, hrest]

/-- A namespace is scanned in the order in which its names were first registered. -/
theorem map_name_scan (ts : List (TypeDescriptor β)) (ns : String) :
    ((ofTypes ts).scan ns).map (·.name) = (names ts).filter fun name => Text.namespaceOf name = ns := by
  have hmap := congrArg (List.map (Option.map (·.name))) (map_some_scan ts ns)
  have hname : ∀ name ∈ (names ts).filter fun name => Text.namespaceOf name = ns,
      (Option.map (·.name) ∘ (ofTypes ts).resolve?) name = some name := by
    intro name hmem
    obtain ⟨t, ht, hsame⟩ := lastNamed?_of_mem (List.mem_eraseDups.mp (List.mem_filter.mp hmem).1)
    rw [Function.comp_apply, resolve?_ofTypes, ht, Option.map_some, hsame]
  rw [List.map_map, List.map_map, List.map_congr_left hname] at hmap
  apply (List.map_inj_right fun _ _ => Option.some.inj).mp
  rw [← hmap, List.map_map]
  rfl

/-- No name is listed twice. -/
theorem nodup_names (ts : List (TypeDescriptor β)) : (names ts).Nodup := nodup_eraseDups _

/-- No name is scanned twice. -/
theorem nodup_scan_ofTypes (ts : List (TypeDescriptor β)) (ns : String) :
    (((ofTypes ts).scan ns).map (·.name)).Nodup := by
  rw [map_name_scan]
  exact (nodup_names ts).filter _

/-- A name is scanned in a namespace exactly if it was registered and lies there. -/
theorem mem_map_name_scan (ts : List (TypeDescriptor β)) (t : TypeDescriptor β) (ns : String) :
    t.name ∈ ((ofTypes ts).scan ns).map (·.name) ↔ t.name ∈ names ts ∧ t.namespaceName = ns := by
  rw [map_name_scan, List.mem_filter, decide_eq_true_eq]
  rfl

/-- A known name keeps its place in its namespace, and all other types stay as they are. -/
theorem scan_register_of_known {ts : List (TypeDescriptor β)} {t : TypeDescriptor β} (h : t.name ∈ names ts)
    (ns : String) : ((ofTypes ts).register t).value.scan ns =
      ((ofTypes ts).scan ns).map fun u => if u.name = t.name then t else u := by
  rw [scan_register]
  split
  next hns =>
    rw [place_of_mem (nodup_scan_ofTypes ts _) ((mem_map_name_scan ts t _).mpr ⟨h, rfl⟩), hns]
  next hns =>
    conv_lhs => rw [← List.map_id ((ofTypes ts).scan ns)]
    apply List.map_congr_left
    intro u hu
    refine (if_neg fun hsame => hns ?_).symm
    have hmem : u.name ∈ ((ofTypes ts).scan ns).map (·.name) := List.mem_map_of_mem hu
    rw [hsame] at hmem
    exact ((mem_map_name_scan ts t ns).mp hmem).2

/-- A new name comes last in its namespace. -/
theorem scan_register_of_new {ts : List (TypeDescriptor β)} {t : TypeDescriptor β} (h : t.name ∉ names ts)
    (ns : String) : ((ofTypes ts).register t).value.scan ns =
      if t.namespaceName = ns then (ofTypes ts).scan ns ++ [t] else (ofTypes ts).scan ns := by
  rw [scan_register]
  split
  next hns => rw [place_of_not_mem fun hmem => h ((mem_map_name_scan ts t _).mp hmem).1, hns]
  next => rfl

/-- A registration makes the catalog larger by one if its name is new, and otherwise leaves the size. -/
theorem size_register (ts : List (TypeDescriptor β)) (t : TypeDescriptor β) :
    ((ofTypes ts).register t).value.size =
      if t.name ∈ names ts then (ofTypes ts).size else (ofTypes ts).size + 1 := by
  rw [← ofTypes_concat, size_ofTypes, size_ofTypes, names, List.map_append, List.map_singleton, eraseDups_concat,
    ← names]
  split
  next => rfl
  next => exact List.length_append

/-- After any types were registered one after the other: a name gives the type that was registered last under it,
and none exactly if no type has the name. A namespace lists, without repetition, what the names give that lie in it,
in the order in which these names first came; a name lies in the namespace that stands before its last dot, or in
the empty one. There are as many types as names. One more type under a known name replaces the one that has the
name where it stands and changes nothing else; under a new name it comes last in its namespace. -/
theorem ofTypes_indexes (ts : List (TypeDescriptor β)) :
    let c := ofTypes ts
    (∀ name t, c.resolve? name = some t ↔
      ∃ earlier later, ts = earlier ++ t :: later ∧ t.name = name ∧ ∀ u ∈ later, u.name ≠ name) ∧
    (∀ name, c.resolve? name = none ↔ ∀ t ∈ ts, t.name ≠ name) ∧
    (∀ ns, (c.scan ns).map some = ((names ts).filter fun name => Text.namespaceOf name = ns).map c.resolve? ∧
      ((c.scan ns).map (·.name)).Nodup) ∧
    (∀ front last, '.' ∉ last.toList → Text.namespaceOf (front ++ "." ++ last) = front) ∧
    (∀ name, '.' ∉ name.toList → Text.namespaceOf name = "") ∧
    (names ts).Nodup ∧ (∀ name, name ∈ names ts ↔ ∃ t ∈ ts, t.name = name) ∧
    c.size = (names ts).length ∧
    ∀ t, let renewed := (c.register t).value
      (∀ name, renewed.resolve? name = if t.name = name then some t else c.resolve? name) ∧
      (t.name ∈ names ts → renewed.size = c.size ∧
        ∀ ns, renewed.scan ns = (c.scan ns).map fun u => if u.name = t.name then t else u) ∧
      (t.name ∉ names ts → renewed.size = c.size + 1 ∧
        ∀ ns, renewed.scan ns = if t.namespaceName = ns then c.scan ns ++ [t] else c.scan ns) := by
  intro c
  refine ⟨resolve?_ofTypes_eq_some_iff ts, resolve?_ofTypes_eq_none_iff ts,
    fun ns => ⟨map_some_scan ts ns, nodup_scan_ofTypes ts ns⟩, Text.namespaceOf_append_dot,
    fun _ => Text.namespaceOf_of_not_mem, nodup_names ts, fun _ => mem_names, size_ofTypes ts, ?_⟩
  intro t renewed
  have hsize := size_register ts t
  refine ⟨resolve?_register c t, ?_, ?_⟩
  · intro hknown
    rw [if_pos hknown] at hsize
    exact ⟨hsize, scan_register_of_known hknown⟩
  · intro hnew
    rw [if_neg hnew] at hsize
    exact ⟨hsize, scan_register_of_new hnew⟩

end Catalog

end AspectWeaver

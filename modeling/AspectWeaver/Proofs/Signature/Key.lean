import AspectWeaver.Proofs.Call.Lifetime
import AspectWeaver.Proofs.Call.Runs
import AspectWeaver.Proofs.Pointcut.OwnSignature

/-!
# Signatures as keys

Everything that is bound to a method is kept under the text of its signature. That text is one row of characters,
and dots and commas stand in names and types too; still it tells the owner, the name and each parameter type of
the method, if types hold commas only inside their brackets (`Signature.Keyed.make_inj`): the first opening
parenthesis ends the name, the last dot before it ends the owner, and a comma outside all brackets ends a type
(`Text.Enclosed.cut`). The top is `Weaver.calls_by_signature`: calls reach the method that they name, and what is
bound to a method of one type never runs for a method of another.
-/

set_option autoImplicit false

namespace AspectWeaver

/-! ## Types with brackets -/

namespace Text

/-- The brackets that are opened in a text, of whatever kind. -/
def opens (cs : List Char) : Nat := cs.count '<' + cs.count '[' + cs.count '('

/-- The brackets that are closed in a text, of whatever kind. -/
def closes (cs : List Char) : Nat := cs.count '>' + cs.count ']' + cs.count ')'

/-- As many brackets are closed as opened, never one too many on the way, and every comma stands while one is
open. Brackets of different kinds may stand for each other. -/
structure Enclosed (cs : List Char) : Prop where
  even : closes cs = opens cs
  opened : ∀ front, front <+: cs → closes front ≤ opens front
  comma : ∀ front, front ++ [','] <+: cs → closes front < opens front

instance (cs : List Char) : Decidable (Enclosed cs) :=
  decidable_of_iff (closes cs = opens cs ∧ (∀ front ∈ cs.inits, closes front ≤ opens front) ∧
      ∀ front ∈ cs.inits, front ++ [','] <+: cs → closes front < opens front)
    ⟨fun h => ⟨h.1, fun front hfront => h.2.1 front ((List.mem_inits _ _).mpr hfront), fun front hfront =>
        h.2.2 front ((List.mem_inits _ _).mpr ((List.prefix_append _ _).trans hfront)) hfront⟩,
      fun h => ⟨h.even, fun front hfront => h.opened front ((List.mem_inits _ _).mp hfront),
        fun front _ => h.comma front⟩⟩

/-- A type does not go on behind a comma where another one has ended. -/
theorem Enclosed.ne_append_comma {x y : List Char} (hx : Enclosed x) (hy : Enclosed y) (rest : List Char) :
    y ≠ x ++ ',' :: rest := by
  rintro rfl
  have hcomma := hy.comma x ⟨rest, by simp⟩
  have heven := hx.even
  omega

/-- Two types with a comma behind them end at the same place. -/
theorem Enclosed.cut {x y : List Char} (hx : Enclosed x) (hy : Enclosed y) {rest rest' : List Char}
    (h : x ++ ',' :: rest = y ++ ',' :: rest') : x = y ∧ rest = rest' := by
  rcases List.append_eq_append_iff.mp h with ⟨more, rfl, hrest⟩ | ⟨more, rfl, hrest⟩
  · cases more with
    | nil => exact ⟨(List.append_nil x).symm, (List.cons.inj hrest).2⟩
    | cons c more =>
      obtain ⟨rfl, -⟩ := List.cons.inj hrest
      exact absurd rfl (hx.ne_append_comma hy more)
  · cases more with
    | nil => exact ⟨List.append_nil y, (List.cons.inj hrest).2.symm⟩
    | cons c more =>
      obtain ⟨rfl, -⟩ := List.cons.inj hrest
      exact absurd rfl (hy.ne_append_comma hx more)

/-- Types with their commas in brackets are told by the text that joins them. -/
theorem join_enclosed_inj {xs ys : List (List Char)} (hxs : ∀ x ∈ xs, x ≠ [] ∧ Enclosed x)
    (hys : ∀ y ∈ ys, y ≠ [] ∧ Enclosed y) (h : join ',' xs = join ',' ys) : xs = ys := by
  induction xs generalizing ys with
  | nil =>
    by_contra hne
    exact join_ne_nil (Ne.symm hne) (fun y hy => (hys y hy).1) h.symm
  | cons x xs ih =>
    cases ys with
    | nil => exact absurd h (join_ne_nil (List.cons_ne_nil x xs) fun x hx => (hxs x hx).1)
    | cons y ys =>
      have hx := (hxs x List.mem_cons_self).2
      have hy := (hys y List.mem_cons_self).2
      cases xs with
      | nil =>
        cases ys with
        | nil => rw [show x = y from h]
        | cons y' ys => exact absurd h (hy.ne_append_comma hx _)
      | cons x' xs =>
        cases ys with
        | nil => exact absurd h.symm (hx.ne_append_comma hy _)
        | cons y' ys =>
          -- both lists go on, so the first types are cut off at the same comma
          obtain ⟨rfl, hrest⟩ := hx.cut hy h
          rw [ih (fun x hx => hxs x (List.mem_cons_of_mem _ hx)) (fun y hy => hys y (List.mem_cons_of_mem _ hy)) hrest]

end Text

/-! ## The text of a signature -/

namespace Signature

/-- An owner without an opening parenthesis, a name without one and without dots, and parameter types that,
without their blank characters, are not empty and hold commas only inside brackets. -/
structure Keyed (owner name : String) (params : List String) : Prop where
  owner : '(' ∉ owner.toList
  name : '(' ∉ name.toList ∧ '.' ∉ name.toList
  param : ∀ x ∈ params, Text.compact x ≠ "" ∧ Text.Enclosed (Text.compact x).toList

instance (owner name : String) (params : List String) : Decidable (Keyed owner name params) :=
  decidable_of_iff ('(' ∉ owner.toList ∧ ('(' ∉ name.toList ∧ '.' ∉ name.toList) ∧
      ∀ x ∈ params, Text.compact x ≠ "" ∧ Text.Enclosed (Text.compact x).toList)
    ⟨fun h => ⟨h.1, h.2.1, h.2.2⟩, fun h => ⟨h.owner, h.name, h.param⟩⟩

namespace Keyed

variable {owner name owner' name' : String} {params params' : List String}

/-- There is no opening parenthesis before the parameter list. -/
theorem not_mem_front (h : Keyed owner name params) : '(' ∉ front owner name := by
  intro hmem
  rcases List.mem_append.mp hmem with hmem | hmem
  · exact h.owner hmem
  · rcases List.mem_cons.mp hmem with hdot | hmem
    · exact absurd hdot (by decide)
    · exact h.name.1 hmem

/-- What stands before the parameter list tells the owner and the name. -/
theorem front_inj (h : Keyed owner name params) (h' : Keyed owner' name' params')
    (hfront : front owner name = front owner' name') : owner = owner' ∧ name = name' := by
  -- no dot stands behind the last one, so the texts are cut at their ends
  have hreverse := congrArg List.reverse hfront
  simp only [front, List.reverse_append, List.reverse_cons, List.append_assoc, List.singleton_append] at hreverse
  have hcut := congrArg (Text.split '.') hreverse
  rw [Text.split_append_cons (by simpa using h.name.2), Text.split_append_cons (by simpa using h'.name.2)] at hcut
  have hname : name.toList = name'.toList := List.reverse_inj.mp (List.cons.inj hcut).1
  rw [hname, List.append_cancel_left_eq, List.cons.injEq, List.reverse_inj] at hreverse
  exact ⟨String.toList_inj.mp hreverse.2, String.toList_inj.mp hname⟩

/-- The parameter list tells the parameter types without their blank characters. -/
theorem inside_inj (h : Keyed owner name params) (h' : Keyed owner' name' params')
    (hinside : inside params = inside params') : params.map Text.compact = params'.map Text.compact := by
  have hpieces {params : List String}
      (hparam : ∀ x ∈ params, Text.compact x ≠ "" ∧ Text.Enclosed (Text.compact x).toList) :
      ∀ piece ∈ params.map fun x => (Text.compact x).toList, piece ≠ [] ∧ Text.Enclosed piece := by
    intro piece hpiece
    obtain ⟨x, hx, rfl⟩ := List.mem_map.mp hpiece
    exact ⟨mt String.toList_eq_nil_iff.mp (hparam x hx).1, (hparam x hx).2⟩
  have hsame := Text.join_enclosed_inj (hpieces h.param) (hpieces h'.param) hinside
  apply List.map_injective_iff.mpr fun _ _ => String.toList_inj.mp
  rw [List.map_map, List.map_map]
  exact hsame

/-- The signature tells the owner, the name and the parameter types without their blank characters. -/
theorem make_inj (h : Keyed owner name params) (h' : Keyed owner' name' params') :
    make owner name params = make owner' name' params' ↔
      owner = owner' ∧ name = name' ∧ params.map Text.compact = params'.map Text.compact := by
  constructor
  · intro hmake
    have htext := congrArg (fun s => s.text.toList) hmake
    simp only [toList_make] at htext
    have hcut := congrArg (Text.split '(') htext
    rw [Text.split_append_cons h.not_mem_front, Text.split_append_cons h'.not_mem_front] at hcut
    have hfront := (List.cons.inj hcut).1
    rw [hfront, List.append_cancel_left_eq, List.cons.injEq, List.append_cancel_right_eq] at htext
    obtain ⟨howner, hname⟩ := h.front_inj h' hfront
    exact ⟨howner, hname, h.inside_inj h' htext.2⟩
  · rintro ⟨rfl, rfl, hparams⟩
    rw [make, make, hparams]

end Keyed

end Signature

/-! ## Methods by their signatures -/

namespace TypeDescriptor

open Signature (Keyed)

variable {β : Type}

/-- A type as its builder makes it, with declarations whose signatures can be read. -/
structure IsKeyed (t : TypeDescriptor β) : Prop where
  built : t.Built
  keyed : ∀ m ∈ t.methods, Keyed t.name m.descriptor.name m.descriptor.params

variable {t : TypeDescriptor β}

/-- The descriptor of a method is made from the name of its type, its own name and its parameter types. -/
theorem IsKeyed.descriptor_eq (h : t.IsKeyed) {m : Method β} (hm : m ∈ t.methods) :
    MethodDescriptor.make t.name m.descriptor.name m.descriptor.params = m.descriptor := by
  obtain ⟨howner, hparams⟩ := h.built.descriptor m hm
  rw [MethodDescriptor.make, hparams, ← howner]

/-- The signature of a method is made from the name of its type, its own name and its parameter types. -/
theorem IsKeyed.signature_eq (h : t.IsKeyed) {m : Method β} (hm : m ∈ t.methods) :
    m.signature = Signature.make t.name m.descriptor.name m.descriptor.params := by
  rw [← (h.built.descriptor m hm).1]
  rfl

/-- A declared method has a signature exactly if it is declared with that name and those parameter types. -/
theorem IsKeyed.signature_eq_make_iff (h : t.IsKeyed) {m : Method β} (hm : m ∈ t.methods) {owner name : String}
    {params : List String} (hkeyed : Keyed owner name params) :
    m.signature = Signature.make owner name params ↔ m.descriptor = MethodDescriptor.make owner name params := by
  obtain ⟨howner, hparams⟩ := h.built.descriptor m hm
  rw [h.signature_eq hm, (h.keyed m hm).make_inj hkeyed, hparams, ← howner, MethodDescriptor.make]
  cases m.descriptor
  simp

/-- Declared methods of two types, or of one, have the same signature only if they are declared alike. -/
theorem IsKeyed.descriptor_eq_of_signature_eq {u : TypeDescriptor β} (ht : t.IsKeyed) (hu : u.IsKeyed)
    {m n : Method β} (hm : m ∈ t.methods) (hn : n ∈ u.methods) (h : m.signature = n.signature) :
    m.descriptor = n.descriptor := by
  rw [hu.signature_eq hn, ht.signature_eq_make_iff hm (hu.keyed n hn), hu.descriptor_eq hn] at h
  exact h

/-- In a table of different declarations a name with parameter types finds the method that is declared so. -/
theorem IsKeyed.method?_eq_some_iff (h : t.IsKeyed) (hnodup : (t.methods.map Method.descriptor).Nodup)
    {name : String} {params : List String} (hkeyed : Keyed t.name name params) (m : Method β) :
    t.method? name params = some m ↔ m ∈ t.methods ∧ m.descriptor = MethodDescriptor.make t.name name params := by
  have hsignatures : (t.methods.map Method.signature).Nodup := by
    rw [List.nodup_map_iff_inj_on (List.Nodup.of_map _ hnodup)]
    intro m hm n hn hsame
    exact List.inj_on_of_nodup_map hnodup hm hn (h.descriptor_eq_of_signature_eq h hm hn hsame)
  constructor
  · intro hfound
    have hm : m ∈ t.methods := List.mem_of_find?_eq_some hfound
    have hsame : m.signature = Signature.make t.name name params := by simpa using List.find?_some hfound
    exact ⟨hm, (h.signature_eq_make_iff hm hkeyed).mp hsame⟩
  · rintro ⟨hm, hdescriptor⟩
    rw [method?, ← (h.signature_eq_make_iff hm hkeyed).mpr hdescriptor]
    exact methodBySignature?_of_mem hsignatures hm

end TypeDescriptor

/-! ## What is bound to a method -/

namespace Weaver

variable {β τ : Type}

section

variable {name : String} {config : WeaverConfig} {ops : List (WeaverOp β)}

/-- What is bound in a run is a method of a type that was registered in it. -/
theorem registered_of_mem_history [RegexEngine] {x : Binding β} (hx : x ∈ (new name config).history ops) :
    x.matched.declaringType ∈ typesOf ops ∧ x.matched.method ∈ x.matched.declaringType.methods := by
  rw [history_eq_gather, mem_gather] at hx
  obtain ⟨earlier, op, later, hops, hx⟩ := hx
  obtain ⟨a, -, -, -, hx⟩ := (mem_bindingsBy _ op x).mp hx
  obtain ⟨d, -, p, -, m, hm, -, rfl⟩ := (mem_bindingsOf _ a x).mp hx
  have hcoherent := ((coherent_new name config).after earlier).catalog
  refine ⟨(registered_of_resolve? hops (Pointcut.resolve?_of_mem_select hcoherent hm).1).1, ?_⟩
  obtain ⟨t, -, hm⟩ := List.mem_flatMap.mp hm
  obtain ⟨method, hmethod, rfl⟩ := List.mem_map.mp hm
  exact (List.mem_filter.mp hmethod).1

/-- A signature is bound to an interceptor only if a registered type marks a method of that signature for one of
its kind. -/
theorem registered_of_binding? [RegexEngine] {s : Signature} {i : Interceptor β}
    (h : ((new name config).after ops).bindings.interceptors.binding? s = some i) :
    ∃ u ∈ typesOf ops, ∃ n ∈ u.methods, n.signature = s ∧
      ∃ marker, n.interceptor = some marker ∧ marker.typeId = i.marker.typeId := by
  rw [binding?_after_new] at h
  obtain ⟨marker, hlast, hsingleton⟩ := Option.bind_eq_some_iff.mp h
  rw [singleton_after_new] at hsingleton
  obtain ⟨first, hfirst, rfl⟩ := Option.map_eq_some_iff.mp hsingleton
  obtain ⟨earlier, op, later, hops, typeName, k, u, -, -, -, hfound, n, hn, hs, hmarker⟩ :=
    (mem_markings _ _ _ _).mp (mem_of_lastMarker? hlast)
  exact ⟨u, (registered_of_resolve? hops hfound).1, n, hn, hs, marker, hmarker,
    (typeId_of_firstMarker? hfirst).symm⟩

/-- Each advice in a set after a run was bound in it, with its kind and to the signature of the set. -/
theorem bound_of_mem_ofKind [RegexEngine] {s : Signature} {set : AdviceSet β}
    (h : ((new name config).after ops).adviceSet? s = some set) {kind : AdviceKind} {a : Advised β}
    (ha : a ∈ set.ofKind kind) :
    ∃ x ∈ (new name config).history ops, x.signature = s ∧ x.advice.kind = kind ∧ x.advice.advised = a := by
  rw [adviceSet?_after_new] at h
  rw [AdviceRegistry.ofKind_of_extend h] at ha
  obtain ⟨advice, hadvice, rfl⟩ := List.mem_map.mp ((perm_inOrder _).subset ha)
  obtain ⟨hadvice, hkind⟩ := List.mem_filter.mp hadvice
  obtain ⟨x, hx, rfl⟩ := List.mem_map.mp hadvice
  obtain ⟨hx, hs⟩ := List.mem_filter.mp hx
  exact ⟨x, hx, of_decide_eq_true hs, of_decide_eq_true hkind, rfl⟩

end

open Signature (Keyed)

/-- Two signatures that can be read are equal exactly if owners, names and parameter types without blank characters
are equal. So on a type whose declarations can be read and differ, a call with a name and parameter types reaches
the method that is declared with them, or fails because there is none. And after any run from a new weaver, the
advices that run in a call of a declared method, and the interceptor that its signature is bound to, come from
bindings of methods of this signature; where the type that declares such a method can be read too, it has the
name of the type that is called, and the method is declared as the one that is called. -/
theorem calls_by_signature [RegexEngine] (b : Behaviours β τ) (weaverName : String) (config : WeaverConfig)
    (ops : List (WeaverOp β)) :
    let start : Weaver β := new weaverName config
    let w := start.after ops
    (∀ owner name params owner' name' params', Keyed owner name params → Keyed owner' name' params' →
      (Signature.make owner name params = Signature.make owner' name' params' ↔
        owner = owner' ∧ name = name' ∧ params.map Text.compact = params'.map Text.compact)) ∧
    (∀ t : TypeDescriptor β, t.IsKeyed → (t.methods.map Method.descriptor).Nodup →
      ∀ name params, Keyed t.name name params →
        let asked := MethodDescriptor.make t.name name params
        (∀ m, t.method? name params = some m ↔ m ∈ t.methods ∧ m.descriptor = asked) ∧
        ∀ (i : WovenInstance β) bindings args, i.descriptor = t →
          (∀ m ∈ t.methods, m.descriptor = asked →
            i.invoke b bindings name params args = i.dispatcher.dispatch b bindings i.target m args) ∧
          ((∀ m ∈ t.methods, m.descriptor ≠ asked) →
            i.invoke b bindings name params args =
              throw (Failure.ofWeave (.methodNotFound t.name (Signature.make t.name name params).text)))) ∧
    ∀ t : TypeDescriptor β, t.IsKeyed → ∀ m ∈ t.methods,
      (∀ set, w.adviceSet? m.signature = some set → ∀ target args (world : World τ),
        ∃ (trace : CallTrace β τ) (last : CallState τ), trace.Follows set ∧
          Performed b m (set.enter target m args world) trace.steps last ∧
          ((w.bindings.advices.dispatch b target m args).start world).2 = last.2 ∧
          ∀ kind, ∀ a ∈ trace.ran kind, ∃ x ∈ start.history ops,
            x.signature = m.signature ∧ x.advice.kind = kind ∧ x.advice.advised = a) ∧
      (∀ x ∈ start.history ops, x.signature = m.signature → x.matched.declaringType.IsKeyed →
        x.typeName = t.name ∧ x.matched.method.descriptor = m.descriptor) ∧
      ∀ i, w.bindings.interceptors.binding? m.signature = some i →
        ∃ u ∈ typesOf ops, ∃ n ∈ u.methods, n.signature = m.signature ∧
          (∃ marker, n.interceptor = some marker ∧ marker.typeId = i.marker.typeId) ∧
          (u.IsKeyed → u.name = t.name ∧ n.descriptor = m.descriptor) := by
  intro start w
  have hown {t u : TypeDescriptor β} (ht : t.IsKeyed) (hu : u.IsKeyed) {m n : Method β} (hm : m ∈ t.methods)
      (hn : n ∈ u.methods) (h : n.signature = m.signature) : u.name = t.name ∧ n.descriptor = m.descriptor := by
    have hsame := hu.descriptor_eq_of_signature_eq ht hn hm h
    rw [← (hu.built.descriptor n hn).1, ← (ht.built.descriptor m hm).1, hsame]
    exact ⟨rfl, rfl⟩
  refine ⟨fun _ _ _ _ _ _ h h' => h.make_inj h', ?_, ?_⟩
  · intro t ht hnodup name params hkeyed asked
    have hfound := ht.method?_eq_some_iff hnodup hkeyed
    refine ⟨hfound, ?_⟩
    rintro i bindings args rfl
    refine ⟨?_, ?_⟩
    · intro m hm hasked
      have hmethod : i.descriptor.methodBySignature? (Signature.make i.descriptor.name name params) = some m :=
        (hfound m).mpr ⟨hm, hasked⟩
      rw [WovenInstance.invoke, WovenInstance.invokeSignature, hmethod]
    · intro hnone
      have hmissing : i.descriptor.methodBySignature? (Signature.make i.descriptor.name name params) = none := by
        rw [Option.eq_none_iff_forall_ne_some]
        intro m hm
        obtain ⟨hm, hasked⟩ := (hfound m).mp hm
        exact hnone m hm hasked
      exact WovenInstance.invokeSignature_of_missing b bindings hmissing args
  · intro t ht m hm
    refine ⟨?_, ?_, ?_⟩
    · intro set hset target args world
      obtain ⟨hfollows, hrun⟩ := trace_follows_performed b set m (set.enter target m args world)
      refine ⟨_, _, hfollows, hrun, ?_, ?_⟩
      · rw [start_dispatch hset]
      · intro kind a ha
        exact bound_of_mem_ofKind hset (hfollows.mem_ofKind ha)
    · intro x hx hs hkeyed
      exact hown ht hkeyed hm (registered_of_mem_history hx).2 hs
    · intro i hi
      obtain ⟨u, hu, n, hn, hs, hmarker⟩ := registered_of_binding? hi
      exact ⟨u, hu, n, hn, hs, hmarker, fun hkeyed => hown ht hkeyed hm hn hs⟩

/-- A method whose parameter types hold commas. -/
def putPair : Method Nat := ⟨MethodDescriptor.make "a.C" "put" ["Map<K, [V]>", "(A, B)"], .typed "C" 1, none⟩

/-- A type with this method and one whose signature has the same letters in the same order. -/
def mapped : TypeDescriptor Nat :=
  ((TypeDescriptor.concrete "a.C" "C").method "put" ["Map<K, [V]>", "(A, B)"] 1).method "put"
    ["Map<K>", "[V]", "(A, B)"] 2

/-- Both declarations of the type can be read. -/
theorem isKeyed_mapped : mapped.IsKeyed :=
  ⟨((TypeDescriptor.Built.concrete "a.C" "C").add _ _ _).add _ _ _, by decide +kernel⟩

/-- The type is registered, and an aspect that advises its methods. -/
def mappedRun : List (WeaverOp Nat) :=
  [.registerType mapped, .registerAspect ((Aspect.empty "A").declare .before "a.C.put(...)" 0 (.custom 3))]

/-- A call that writes the parameter types in another way notes the advice and then the method; one with
types that no method declares fails and notes nothing. -/
theorem calls_by_signature_mapped :
    let start : Weaver Nat := new "weaver" {}
    let w := start.after mappedRun
    let i : WovenInstance Nat := ⟨mapped, ⟨"C", 0⟩, .advices⟩
    let asked := ["Map< K,[V] >", "(A,B)"]
    let other := ["Map<K>,[V]", "(A,B)"]
    let undeclared := ["Map<K,[V],(A,B)>"]
    let call := i.invoke Loom.noting w.bindings "put" asked [.int32 9]
    let failing := i.invoke Loom.noting w.bindings "put" undeclared [.int32 9]
    mapped.IsKeyed ∧ (mapped.methods.map Method.descriptor).Nodup ∧ putPair ∈ mapped.methods ∧
      Keyed "a.C" "put" asked ∧ Keyed "a.C" "put" undeclared ∧ ¬ Keyed "a.C" "put" other ∧
      mapped.method? "put" asked = some putPair ∧
      call = w.bindings.advices.dispatch Loom.noting ⟨"C", 0⟩ putPair [.int32 9] ∧
      (call.start (World.initial [])).1 = .ok (some (.int32 9)) ∧
      (call.start (World.initial [])).2.state = [3, 1] ∧
      failing = throw (Failure.ofWeave (.methodNotFound "a.C" "a.C.put(Map<K,[V],(A,B)>)")) ∧
      failing.start (World.initial []) =
        (.error (Failure.ofWeave (.methodNotFound "a.C" "a.C.put(Map<K,[V],(A,B)>)")), World.initial []) ∧
      (start.history mappedRun).length = 2 ∧
      ∀ x ∈ start.history mappedRun, x.signature = putPair.signature →
        x.typeName = "a.C" ∧ x.matched.method.descriptor = putPair.descriptor := by
  intro start w i asked other undeclared call failing
  have hnodup : (mapped.methods.map Method.descriptor).Nodup := by decide +kernel
  have hm : putPair ∈ mapped.methods := List.mem_cons_self
  have hasked : Keyed mapped.name "put" asked := by decide +kernel
  have hundeclared : Keyed mapped.name "put" undeclared := by decide +kernel
  obtain ⟨-, hreach, hown⟩ := calls_by_signature Loom.noting "weaver" {} mappedRun
  obtain ⟨hfound, hcall⟩ := hreach mapped isKeyed_mapped hnodup "put" asked hasked
  have hput : putPair.descriptor = MethodDescriptor.make mapped.name "put" asked := by decide +kernel
  have hreached : call = w.bindings.advices.dispatch Loom.noting ⟨"C", 0⟩ putPair [.int32 9] :=
    (hcall i w.bindings [.int32 9] rfl).1 putPair hm hput
  have hfailing : failing = throw (Failure.ofWeave (.methodNotFound "a.C" "a.C.put(Map<K,[V],(A,B)>)")) :=
    ((hreach mapped isKeyed_mapped hnodup "put" undeclared hundeclared).2 i w.bindings [.int32 9] rfl).2
      (by decide +kernel)
  refine ⟨isKeyed_mapped, hnodup, hm, hasked, hundeclared, by decide +kernel, (hfound putPair).mpr ⟨hm, hput⟩,
    hreached, ?_, ?_, hfailing, ?_, rfl, ?_⟩
  · rw [hreached]
    rfl
  · rw [hreached]
    rfl
  · rw [hfailing]
    rfl
  · intro x hx hs
    have htype : x.matched.declaringType = mapped := List.mem_singleton.mp (registered_of_mem_history hx).1
    exact (hown mapped isKeyed_mapped putPair hm).2.1 x hx hs (htype ▸ isKeyed_mapped)

end Weaver

end AspectWeaver

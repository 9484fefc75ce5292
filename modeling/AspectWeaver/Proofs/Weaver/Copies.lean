import AspectWeaver.Proofs.Call.Runs
import AspectWeaver.Proofs.Pointcut.Overloads
import AspectWeaver.Proofs.Weaver.Chains
import AspectWeaver.Proofs.Weaver.Interceptors
import Mathlib.Data.List.Nodup

/-!
# How often a method gets an advice

A method table may hold several entries of one signature, for instance if two parameter lists differ only in
their blanks. A selector selects each of them, so its advice is bound to the signature once for every such entry
and runs as often in a call (`Weaver.runs_copies`). Entries of one signature always stand in one table: types
that are found together declare different signatures (`TypeDescriptor.Built.name_eq`). Thus the advice comes
once exactly if the table holds the signature once (`Weaver.copies_eq_countP`).
-/

set_option autoImplicit false

namespace AspectWeaver

variable {β τ : Type}

/-! ## Signatures of different types -/

/-- Of types in one namespace, no two declare the same signature. -/
theorem TypeDescriptor.Built.name_eq {t u : TypeDescriptor β} (ht : t.Built) (hu : u.Built) (htname : t.name ≠ "")
    (huname : u.name ≠ "") (hns : t.namespaceName = u.namespaceName) {m n : Method β} (hm : m ∈ t.methods)
    (hn : n ∈ u.methods) (h : m.signature = n.signature) : t.name = u.name := by
  have htext : m.signature.text.toList = n.signature.text.toList := congrArg (fun s => s.text.toList) h
  rw [SelectorParts.toList_signature ht hm, SelectorParts.toList_signature hu hn, List.append_assoc,
    List.append_assoc] at htext
  exact Text.eq_of_append_dot htname huname hns htext

namespace Weaver

/-! ## Copies -/

section

variable [RegexEngine]

/-- How many of the methods that a selector selects at the moment have a signature. -/
def copies (w : Weaver β) (selector : String) (s : Signature) : Nat :=
  match Pointcut.compile selector with
  | .ok p => (w.selected p).countP fun m => m.method.signature = s
  | .error _ => 0

/-- What an aspect gives to a signature at the moment: the advice of each declaration, once for every method of
the signature that the declaration selects. -/
def grants (w : Weaver β) (a : Aspect β) (s : Signature) : List (Advice β) :=
  a.declarations.flatMap fun d => List.replicate (w.copies d.selector s) d.advice

/-- What a registration gives to a signature: that of an aspect, if it succeeds. -/
def grantsBy (s : Signature) (w : Weaver β) : WeaverOp β → List (Advice β)
  | .registerAspect a => match (w.registerAspect a).value.2 with
    | .ok _ => w.grants a s
    | .error _ => []
  | _ => []

section

variable {w : Weaver β} {selector : String} {p : Pointcut}

/-- Of a selector that is accepted, the copies are the methods of the signature among those that it selects. -/
theorem copies_eq (hp : Pointcut.compile selector = .ok p) (s : Signature) :
    w.copies selector s = (w.selected p).countP fun m => m.method.signature = s := by
  unfold copies
  rw [hp]

/-- A signature gets the advice of a selector exactly if the selector selects a method of that signature. -/
theorem copies_pos_iff (hp : Pointcut.compile selector = .ok p) (s : Signature) :
    0 < w.copies selector s ↔ ∃ m ∈ w.selected p, m.method.signature = s := by
  rw [copies_eq hp, List.countP_pos_iff]
  simp only [decide_eq_true_eq]

/-- No signature gets an advice more than once exactly if no two of the selected methods have one signature. -/
theorem copies_le_one_iff (hp : Pointcut.compile selector = .ok p) :
    (∀ s, w.copies selector s ≤ 1) ↔ ((w.selected p).map fun m => m.method.signature).Nodup := by
  rw [List.nodup_iff_count_le_one]
  apply forall_congr'
  intro s
  rw [copies_eq hp, List.count, List.countP_map]
  rfl

variable (hw : w.catalog.Coherent)
  (hbuilt : ∀ name t, w.catalog.resolve? name = some t → t.Built ∧ t.name ≠ "")

include hw hbuilt

omit [RegexEngine] in
/-- If the registered types were built and have names, candidates that declare one signature have one name. -/
theorem name_eq_of_signature_eq {t u : TypeDescriptor β} (ht : t ∈ p.candidateTypes w.catalog)
    (hu : u ∈ p.candidateTypes w.catalog) {m n : Method β} (hm : m ∈ t.methods) (hn : n ∈ u.methods)
    (h : m.signature = n.signature) : t.name = u.name := by
  obtain ⟨htbuilt, htname⟩ := hbuilt t.name t (Pointcut.resolve?_of_mem_candidateTypes hw ht).1
  obtain ⟨hubuilt, huname⟩ := hbuilt u.name u (Pointcut.resolve?_of_mem_candidateTypes hw hu).1
  exact htbuilt.name_eq hubuilt htname huname (Pointcut.namespaceName_of_mem_candidateTypes hw ht hu) hm hn h

/-- Then all methods of one signature that a selector selects stand in the table of one type. -/
theorem copies_eq_countP (hp : Pointcut.compile selector = .ok p) {x : MatchedMethod β} (hx : x ∈ w.selected p) :
    w.copies selector x.method.signature =
      x.declaringType.methods.countP fun m => m.signature = x.method.signature := by
  obtain ⟨hselect, hincluded⟩ := List.mem_filter.mp hx
  obtain ⟨t, ht, hmethod⟩ := List.mem_flatMap.mp hselect
  obtain ⟨m, hm, rfl⟩ := List.mem_map.mp hmethod
  obtain ⟨hm, haccepts⟩ := List.mem_filter.mp hm
  dsimp only at hincluded haccepts ⊢
  obtain ⟨front, back, hsplit⟩ := List.append_of_mem ht
  have hnames := Pointcut.nodup_candidateTypes hw (p := p)
  rw [hsplit, List.map_append, List.map_cons, List.nodup_middle, List.nodup_cons, ← List.map_append] at hnames
  -- the other candidates have other names, so none of their methods has the signature
  have hothers (us : List (TypeDescriptor β)) (hus : ∀ u ∈ us, u ∈ front ++ back) :
      ((us.flatMap fun u => (u.methods.filter fun n => p.accepts n.signature).map (MatchedMethod.mk u)).countP
        fun y => y.method.signature = m.signature && !w.config.isExcluded y.declaringType.name) = 0 := by
    rw [List.countP_eq_zero]
    intro y hy hsame
    obtain ⟨u, hu, hy⟩ := List.mem_flatMap.mp hy
    obtain ⟨n, hn, rfl⟩ := List.mem_map.mp hy
    have hcandidate : u ∈ p.candidateTypes w.catalog := by
      rw [hsplit]
      exact (List.perm_middle (a := t)).mem_iff.mpr (List.mem_cons_of_mem t (hus u hu))
    have hsignature : n.signature = m.signature := of_decide_eq_true (Bool.and_eq_true_iff.mp hsame).1
    apply hnames.1
    rw [← name_eq_of_signature_eq hw hbuilt hcandidate ht (List.mem_filter.mp hn).1 hm hsignature]
    exact List.mem_map_of_mem (hus u hu)
  rw [copies_eq hp, selected, List.countP_filter, Pointcut.select, hsplit, List.flatMap_append, List.flatMap_cons,
    List.countP_append, List.countP_append, hothers front fun u hu => List.mem_append_left back hu,
    hothers back fun u hu => List.mem_append_right front hu, List.countP_map, List.countP_filter, Nat.zero_add,
    Nat.add_zero]
  apply List.countP_congr
  intro n _
  by_cases hsame : n.signature = m.signature
  · simp [hsame, haccepts, hincluded]
  · simp [hsame]

end

/-- What an aspect binds to a signature is what it gives to it. -/
theorem filter_bindingsOf (w : Weaver β) (a : Aspect β) (s : Signature) :
    ((w.bindingsOf a).filter fun x => x.signature = s).map Binding.advice = w.grants a s := by
  unfold bindingsOf grants
  rw [List.filter_flatMap, List.map_flatMap]
  apply List.flatMap_congr
  intro d _
  unfold copies
  cases Pointcut.compile d.selector with
  | error e => rfl
  | ok p =>
      dsimp only
      rw [List.filter_map, List.map_map, List.countP_eq_length_filter]
      exact List.map_const'

/-- What a registration binds to a signature is what it gives to it. -/
theorem filter_bindingsBy (w : Weaver β) (op : WeaverOp β) (s : Signature) :
    ((w.bindingsBy op).filter fun x => x.signature = s).map Binding.advice = w.grantsBy s op := by
  cases op with
  | registerType t => rfl
  | registerInterceptTarget typeName => rfl
  | registerAspect a =>
      unfold bindingsBy grantsBy
      dsimp only
      cases (w.registerAspect a).value.2 with
      | error e => rfl
      | ok n => exact w.filter_bindingsOf a s

/-- What a run binds to a signature is what its registrations give to it. -/
theorem filter_history (w : Weaver β) (ops : List (WeaverOp β)) (s : Signature) :
    ((w.history ops).filter fun x => x.signature = s).map Binding.advice = w.gather (grantsBy s) ops := by
  induction ops generalizing w with
  | nil => rfl
  | cons op ops ih => rw [history, gather, List.filter_append, List.map_append, ih, filter_bindingsBy]

/-- After a run from a new weaver, the set of a signature is made from what the registrations gave to it. -/
theorem adviceSet?_eq_extend (name : String) (config : WeaverConfig) (ops : List (WeaverOp β)) (s : Signature) :
    ((new name config).after ops).adviceSet? s =
      AdviceRegistry.extend none ((new name config).gather (grantsBy s) ops) := by
  rw [adviceSet?_after_new, filter_history]

/-- After any run from a new weaver, the registration of an aspect adds the advice of each declaration to the chain
of each signature as often as its selector selects a method of that signature, and changes no other chain. A
selector selects a signature at all exactly if a method of it stands in the table of a candidate that may be
woven; no signature gets an advice twice exactly if no two of these methods have one signature; and if the types
were built and have names, all methods of one signature stand in the table of one type. The chains are made of what
all registrations gave, and a call without failures runs exactly the advices of its chain, each as often as it
was given. -/
theorem runs_copies (name : String) (config : WeaverConfig) (ops : List (WeaverOp β)) :
    let start : Weaver β := new name config
    let w := start.after ops
    (∀ a n, (w.registerAspect a).value.2 = .ok n → ∀ s,
      (w.apply (.registerAspect a)).adviceSet? s = AdviceRegistry.extend (w.adviceSet? s)
        (a.declarations.flatMap fun d => List.replicate (w.copies d.selector s) d.advice)) ∧
    (∀ selector p, Pointcut.compile selector = .ok p →
      (∀ s, 0 < w.copies selector s ↔
        ∃ x ∈ p.select w.catalog, config.isExcluded x.declaringType.name = false ∧ x.method.signature = s) ∧
      ((∀ s, w.copies selector s ≤ 1) ↔ ((w.selected p).map fun x => x.method.signature).Nodup) ∧
      ((∀ t ∈ typesOf ops, t.Built ∧ t.name ≠ "") → ∀ x ∈ w.selected p,
        w.copies selector x.method.signature =
          x.declaringType.methods.countP fun m => m.signature = x.method.signature)) ∧
    (∀ s, w.adviceSet? s = AdviceRegistry.extend none (start.gather (grantsBy s) ops)) ∧
    ∀ (b : Behaviours β τ) target (m : Method β) args (world : World τ) set, w.adviceSet? m.signature = some set →
      ∃ (t : CallTrace β τ) (last : CallState τ),
        t.Follows set ∧ Performed b m (set.enter target m args world) t.steps last ∧
        ((w.bindings.advices.dispatch b target m args).start world).2 = last.2 ∧
        (failure? t.steps = none → ∀ kind, kind ≠ .afterThrowing →
          (t.ran kind).Perm (advisedOf kind (start.gather (grantsBy m.signature) ops))) := by
  intro start w
  refine ⟨?_, ?_, adviceSet?_eq_extend name config ops, ?_⟩
  · intro a n hn s
    unfold adviceSet?
    rw [apply_advices, AdviceRegistry.adviceSet?_foldl_add, filter_bindingsBy, grantsBy, hn]
    rfl
  · intro selector p hp
    refine ⟨?_, copies_le_one_iff hp, ?_⟩
    · intro s
      rw [copies_pos_iff hp]
      simp only [selected, List.mem_filter, Bool.not_eq_true', and_assoc, w, config_after]
      rfl
    · intro hbuilt x hx
      have hw : w.Coherent := (coherent_new name config).after ops
      refine copies_eq_countP hw.catalog ?_ hp hx
      intro typeName t ht
      rw [catalog_after_new, Catalog.resolve?_ofTypes] at ht
      exact hbuilt t (Catalog.mem_of_lastNamed? ht).1
  · intro b target m args world set hset
    obtain ⟨hfollows, hrun⟩ := trace_follows_performed b set m (set.enter target m args world)
    refine ⟨_, _, hfollows, hrun, ?_, ?_⟩
    · rw [start_dispatch hset]
    · intro hsuccess kind hkind
      have hchain := (adviceSet?_eq_extend name config ops m.signature).symm.trans hset
      have hran := hfollows.ran_perm hsuccess hkind
      rw [AdviceRegistry.ofKind_of_extend hchain kind] at hran
      exact hran.trans (perm_inOrder _)

end

/-! ## A table with two entries of one signature -/

/-- A type that declares a method twice: the parameter types differ only in a blank. -/
def cache : TypeDescriptor Nat :=
  ((TypeDescriptor.concrete "a.C" "Actor").method "load" ["HashMap<String, u32>"] 7).method "load"
    ["HashMap<String,u32>"] 8

def loadFirst : Method Nat :=
  ⟨MethodDescriptor.make "a.C" "load" ["HashMap<String, u32>"], .typed "Actor" 7, none⟩

/-- The signature of both. -/
def loadMap : Signature := Signature.make "a.C" "load" ["HashMap<String,u32>"]

/-- A note that a call is entered. -/
def note : Advice Nat := ⟨"Noting::before#0", 0, .before, .custom 1⟩

def noting : Aspect Nat := (Aspect.empty "Noting").declare .before "a.C.load(...)" 0 (.custom 1)

def stocked : Weaver Nat := (new "weaver" {}).after [.registerType cache]

/-- The one declaration is bound twice to the one signature, and a call runs its advice twice. -/
theorem runs_copies_twice :
    let noted := stocked.apply (.registerAspect noting)
    let world : World (List Nat) := World.initial []
    noting.declarations = [⟨"a.C.load(...)", note⟩] ∧
      cache.methods.map Method.signature = [loadMap, loadMap] ∧ cache.methods.head? = some loadFirst ∧
      (stocked.registerAspect noting).value.2 = .ok 2 ∧ stocked.copies "a.C.load(...)" loadMap = 2 ∧
      noted.adviceSet? loadMap = some ⟨[note.advised, note.advised], [], [], [], []⟩ ∧
      ((noted.bindings.advices.dispatch Rehearsal.behaviours Rehearsal.target loadFirst []).start world).2.state =
        [1, 1, 7] := by
  intro noted world
  have hgrants : stocked.grantsBy loadMap (.registerAspect noting) = [note, note] := rfl
  have hset : noted.adviceSet? loadMap = some ⟨[note.advised, note.advised], [], [], [], []⟩ := by
    unfold adviceSet?
    rw [apply_advices, AdviceRegistry.adviceSet?_foldl_add, filter_bindingsBy, hgrants]
    rfl
  have hsame : loadFirst.signature = loadMap := rfl
  have hfirst : noted.bindings.advices.adviceSet? loadFirst.signature =
      some ⟨[note.advised, note.advised], [], [], [], []⟩ := by
    rw [hsame]
    exact hset
  refine ⟨rfl, rfl, rfl, rfl, rfl, hset, ?_⟩
  rw [start_dispatch hfirst]
  rfl

end Weaver

end AspectWeaver

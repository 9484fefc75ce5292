import AspectWeaver.Inventory
import AspectWeaver.Proofs.Weaver.Chains
import AspectWeaver.Proofs.Weaver.Interceptors

/-!
# The log accounts for the state

What a run logs about bindings is its history (`Weaver.saying_bound_log`), so the log tells what is bound: sorted in
the way of a set, the events of a signature are the lists of its set (`sorted_events`). A type goes over from
interceptors to aspects at most once, and is warned about when it does (`Weaver.nodup_switches`). Loading an inventory
is like the run of its registrations (`Weaver.likeRun_loadRegistered`). The top is `Weaver.log_accounts`.
-/

set_option autoImplicit false

namespace AspectWeaver

variable {β : Type}

/-! ## Reading the events of bindings -/

namespace Event

/-- The order number that an event tells. -/
def order (e : Event) : Int :=
  match e.field? "order" with
  | some (.number n) => n
  | _ => 0

/-- Whether the event of a binding may stand before that of another one in a list of advices. -/
def precedes (a b : Event) : Bool := b.order ≤ a.order

/-- The name and the order number of the advice that an event tells. -/
def entry (e : Event) : Option FieldValue × Option FieldValue := (e.field? "advice", e.field? "order")

end Event

/-- The name and the order number of an advice in a list, as fields of an event. -/
def Advised.entry (a : Advised β) : Option FieldValue × Option FieldValue :=
  (some (.text a.name), some (.number a.order))

namespace Binding

variable (x : Binding β)

/-- The event of a binding tells the text of the signature. -/
theorem signature_event : x.event.field? "signature" = some (.text x.signature.text) := rfl

/-- The event of a binding tells the name of the kind. -/
theorem kind_event : x.event.field? "kind" = some (.text x.advice.kind.name) := rfl

end Binding

/-- Signatures of the same text are equal. -/
theorem Signature.text_inj {s t : Signature} : s.text = t.text ↔ s = t := by
  cases s
  cases t
  simp

/-- Kinds of the same name are equal. -/
theorem AdviceKind.name_inj {j k : AdviceKind} : j.name = k.name ↔ j = k := by
  cases j <;> cases k <;> decide

/-- Filtering a list that was mapped is mapping what the filter keeps. -/
theorem filter_map_of {α γ : Type} {f : α → γ} {p : γ → Bool} {q : α → Bool} (h : ∀ x, p (f x) = q x)
    (xs : List α) : (xs.map f).filter p = (xs.filter q).map f := by
  rw [List.filter_map]
  congr 1
  exact List.filter_congr fun x _ => h x

/-- The events that tell a signature are those of its bindings. -/
theorem filter_signature (xs : List (Binding β)) (s : Signature) :
    (xs.map Binding.event).filter (fun e => e.field? "signature" = some (.text s.text)) =
      (xs.filter fun x => x.signature = s).map Binding.event := by
  apply filter_map_of
  intro x
  simp [Binding.signature_event, Signature.text_inj]

/-- The events that tell a kind are those of the bindings of this kind. -/
theorem filter_kind (xs : List (Binding β)) (kind : AdviceKind) :
    (xs.map Binding.event).filter (fun e => e.field? "kind" = some (.text kind.name)) =
      (xs.filter fun x => x.advice.kind = kind).map Binding.event := by
  apply filter_map_of
  intro x
  simp [Binding.kind_event, AdviceKind.name_inj]

/-- Sorted like the lists of a set, the events of bindings tell the advices in the order of the lists. -/
theorem sorted_events (xs : List (Binding β)) :
    ((xs.map Binding.event).mergeSort Event.precedes).map Event.entry =
      (inOrder (xs.map fun x => x.advice.advised)).map Advised.entry := by
  have hevents : ∀ x ∈ xs, ∀ y ∈ xs, x.advice.advised.precedes y.advice.advised = x.event.precedes y.event :=
    fun _ _ _ _ => rfl
  have hadvices : ∀ x ∈ xs, ∀ y ∈ xs, x.advice.advised.precedes y.advice.advised =
      x.advice.advised.precedes y.advice.advised := fun _ _ _ _ => rfl
  rw [inOrder_eq_mergeSort, ← List.map_mergeSort hevents, ← List.map_mergeSort hadvices, List.map_map, List.map_map]
  rfl

/-! ## Switched types -/

section

variable {registrations : Table String (Registration β)}

/-- A binding marks its own type for aspects and leaves all others. -/
theorem modeIn_markFor (registrations : Table String (Registration β)) (x : Binding β) (typeName : String) :
    modeIn (markFor registrations x) typeName =
      if x.typeName = typeName then some .aspects else modeIn registrations typeName :=
  Weaver.mode_markFor registrations x typeName

/-- Bindings switch the types that were woven for interceptors and that they bind. -/
theorem mem_switched {xs : List (Binding β)} {typeName : String} :
    typeName ∈ switched registrations xs ↔
      modeIn registrations typeName = some .intercepts ∧ typeName ∈ xs.map Binding.typeName := by
  induction xs generalizing registrations with
  | nil => simp [switched]
  | cons x xs ih =>
      rw [switched, List.map_cons, List.mem_cons]
      by_cases hname : x.typeName = typeName
      · subst hname
        split
        next hmode => simp [hmode]
        next hmode => simp [ih, modeIn_markFor, hmode]
      · have hlater : typeName ∈ switched (markFor registrations x) xs ↔
            modeIn registrations typeName = some .intercepts ∧ typeName ∈ xs.map Binding.typeName := by
          rw [ih, modeIn_markFor, if_neg hname]
        split
        next => simp [hlater, Ne.symm hname]
        next => simp [hlater, Ne.symm hname]

/-- No type is switched twice by the bindings of one registration. -/
theorem nodup_switched (registrations : Table String (Registration β)) (xs : List (Binding β)) :
    (switched registrations xs).Nodup := by
  induction xs generalizing registrations with
  | nil => exact List.nodup_nil
  | cons x xs ih =>
      rw [switched]
      split
      next =>
        -- what a binding has switched is woven for aspects, so no later binding switches it
        refine List.nodup_cons.mpr ⟨?_, ih _⟩
        rw [mem_switched, modeIn_markFor, if_pos rfl]
        rintro ⟨hmode, -⟩
        cases hmode
      next => exact ih _

end

namespace Weaver

/-! ## What one registration logs -/

variable [RegexEngine]

/-- The types that a registration switches from interceptors to aspects, in order. -/
def switchesBy (w : Weaver β) (op : WeaverOp β) : List String := switched w.registrations (w.bindingsBy op)

/-- A registration finds a type woven for interceptors and leaves it woven for aspects. -/
def Switches (typeName : String) (w : Weaver β) (op : WeaverOp β) : Prop :=
  w.mode? typeName = some .intercepts ∧ (w.apply op).mode? typeName = some .aspects

/-- A registration switches a type exactly if it finds it woven for interceptors and leaves it woven for aspects. -/
theorem mem_switchesBy {w : Weaver β} (h : w.Coherent) (op : WeaverOp β) (typeName : String) :
    typeName ∈ w.switchesBy op ↔ Switches typeName w op := by
  have hadvises : typeName ∈ (w.bindingsBy op).map Binding.typeName ↔ Advises typeName w op := List.mem_map
  rw [switchesBy, mem_switched, hadvises]
  show w.mode? typeName = some .intercepts ∧ _ ↔ w.mode? typeName = some .intercepts ∧ _
  rcases mode?_apply h op typeName with ⟨hadv, hmode⟩ | ⟨hadv, -, hold, -⟩ | ⟨hadv, -, hmode⟩
  · simp [hadv, hmode]
  · simp [hold]
  · rw [hmode]
    constructor
    · rintro ⟨-, h⟩
      exact absurd h hadv
    · rintro ⟨hold, hnew⟩
      rw [hold] at hnew
      cases hnew

/-- A registration tells each of its bindings and each type that it switches, and nothing else in these words. -/
theorem saying_eventsBy (w : Weaver β) (op : WeaverOp β) :
    saying "Bound advice" (w.eventsBy op) = (w.bindingsBy op).map Binding.event ∧
      saying "Type was woven for interceptors, switching to aspect dispatch" (w.eventsBy op) =
        (w.switchesBy op).map switching := by
  cases op with
  | registerType t =>
      have hlog := w.all_registerType t
      exact ⟨hlog.saying_eq_nil (by decide), hlog.saying_eq_nil (by decide)⟩
  | registerInterceptTarget typeName =>
      have hlog := w.all_registerInterceptTarget typeName
      exact ⟨hlog.saying_eq_nil (by decide), hlog.saying_eq_nil (by decide)⟩
  | registerAspect a =>
      unfold switchesBy eventsBy bindingsBy
      dsimp only
      cases h : compileAspect a with
      | error e =>
          rw [registerAspect_of_malformed w h]
          exact ⟨rfl, rfl⟩
      | ok compiled =>
          obtain ⟨hbound, hswitched⟩ := w.saying_declarationLogs a.name compiled
          rw [flatMap_of_compileAspect w h] at hbound hswitched
          rw [registerAspect_of_compileAspect w h, registerAspect_log w h, saying_append, saying_append, hbound,
            hswitched]
          simp [saying, Aspect.registered]

/-- What is known of the log of each registration is known of that of a run. -/
theorem saying_log {α : Type} {message : String} {f : Weaver β → WeaverOp β → List α} {g : α → Event}
    (h : ∀ (v : Weaver β) op, saying message (v.eventsBy op) = (f v op).map g) (w : Weaver β)
    (ops : List (WeaverOp β)) : saying message (w.log ops) = (w.gather f ops).map g := by
  unfold log
  induction ops generalizing w with
  | nil => rfl
  | cons op ops ih => rw [gather, gather, saying_append, h, ih, List.map_append]

/-- What a run says about bindings is its history. -/
theorem saying_bound_log (w : Weaver β) (ops : List (WeaverOp β)) :
    saying "Bound advice" (w.log ops) = (w.history ops).map Binding.event := by
  rw [history_eq_gather]
  exact saying_log (fun v op => (v.saying_eventsBy op).1) w ops

/-- The types that a run switches from interceptors to aspects, in order. -/
def switches (w : Weaver β) (ops : List (WeaverOp β)) : List String := w.gather switchesBy ops

/-- A run tells each type that it switches. -/
theorem saying_switching_log (w : Weaver β) (ops : List (WeaverOp β)) :
    saying "Type was woven for interceptors, switching to aspect dispatch" (w.log ops) =
      (w.switches ops).map switching := saying_log (fun v op => (v.saying_eventsBy op).2) w ops

/-- A run switches a type exactly if one of its registrations does. -/
theorem mem_switches {w : Weaver β} (h : w.Coherent) (ops : List (WeaverOp β)) (typeName : String) :
    typeName ∈ w.switches ops ↔ w.Occurs ops (Switches typeName) := by
  rw [switches, mem_gather]
  constructor
  · rintro ⟨earlier, op, later, hops, hmem⟩
    exact ⟨earlier, op, later, hops, (mem_switchesBy (h.after earlier) op typeName).mp hmem⟩
  · rintro ⟨earlier, op, later, hops, hswitch⟩
    exact ⟨earlier, op, later, hops, (mem_switchesBy (h.after earlier) op typeName).mpr hswitch⟩

/-- No type is switched twice: once it is woven for aspects, it stays so. -/
theorem nodup_switches {w : Weaver β} (h : w.Coherent) (ops : List (WeaverOp β)) : (w.switches ops).Nodup := by
  unfold switches
  induction ops generalizing w with
  | nil => exact List.nodup_nil
  | cons op ops ih =>
      refine List.nodup_append.mpr ⟨nodup_switched _ _, ih (h.apply op), ?_⟩
      rintro typeName hfirst _ hlater rfl
      obtain ⟨-, haspects⟩ := (mem_switchesBy h op typeName).mp hfirst
      obtain ⟨earlier, op', later, -, hintercepts, -⟩ := (mem_switches (h.apply op) ops typeName).mp hlater
      have hstays := ((mode?_after (h.apply op) earlier typeName).1).mpr (Or.inr haspects)
      rw [hstays] at hintercepts
      cases hintercepts


/-- All that a registration logs is recorded from DEBUG up. -/
theorem verbosity_eventsBy (w : Weaver β) (op : WeaverOp β) :
    ∀ e ∈ w.eventsBy op, e.level.verbosity ≤ Level.debug.verbosity := by
  intro e he
  cases op with
  | registerType t => exact (w.all_registerType t e he).2
  | registerAspect a => exact (w.all_registerAspect a e he).2
  | registerInterceptTarget typeName => exact (w.all_registerInterceptTarget typeName e he).2

/-- All that a run logs is recorded at the level of debugging. -/
theorem recorded_log (w : Weaver β) (ops : List (WeaverOp β)) : recorded .debug (w.log ops) = w.log ops := by
  apply recorded_eq_self
  intro e he
  obtain ⟨earlier, op, later, -, he⟩ := (mem_gather eventsBy w ops e).mp he
  exact verbosity_eventsBy _ op e he

/-- Only the registration of an aspect, and only if it succeeds, uses the messages of aspects. -/
theorem eventsBy_silent (w : Weaver β) (op : WeaverOp β)
    (h : ∀ a n, op = .registerAspect a → (w.registerAspect a).value.2 ≠ .ok n) :
    ∀ e ∈ w.eventsBy op, e.message ∉ aspectMessages := by
  intro e he
  cases op with
  | registerType t =>
      have hother : ∀ message ∈ ["Registered type"], message ∉ aspectMessages := by decide
      exact hother _ (w.all_registerType t e he).1
  | registerInterceptTarget typeName =>
      have hother : ∀ message ∈ targetMessages, message ∉ aspectMessages := by decide
      exact hother _ (w.all_registerInterceptTarget typeName e he).1
  | registerAspect a =>
      unfold eventsBy at he
      dsimp only at he
      cases hcompiled : compileAspect a with
      | error reason =>
          rw [registerAspect_of_malformed w hcompiled] at he
          cases he
      | ok compiled =>
          have hok := congrArg Prod.snd (registerAspect_of_compileAspect w hcompiled)
          exact absurd hok (h a _ rfl)

/-- Each list of a signature is that of its bindings of the kind, put in order. -/
theorem ofKind_after (name : String) (config : WeaverConfig) (ops : List (WeaverOp β)) (s : Signature)
    (kind : AdviceKind) :
    let start : Weaver β := Weaver.new name config
    (((start.after ops).adviceSet? s).getD AdviceSet.empty).ofKind kind =
      inOrder ((((start.history ops).filter fun x => x.signature = s).filter fun x => x.advice.kind = kind).map
        fun x => x.advice.advised) := by
  intro start
  rw [adviceSet?_after_new, AdviceRegistry.getD_extend_none, AdviceSet.ofKind_foldl_push, advisedOf, List.filter_map,
    List.map_map]
  rfl

/-- A signature has no set exactly if nothing was bound to it. -/
theorem adviceSet?_after_eq_none_iff (name : String) (config : WeaverConfig) (ops : List (WeaverOp β))
    (s : Signature) :
    let start : Weaver β := Weaver.new name config
    (start.after ops).adviceSet? s = none ↔ ((start.history ops).filter fun x => x.signature = s) = [] := by
  intro start
  rw [adviceSet?_after_new, AdviceRegistry.extend_none]
  simp [start]

/-- The log of an aspect has one part for each declaration and a closing event. -/
theorem registerAspect_parts (w : Weaver β) {a : Aspect β} {n : Nat} (h : (w.registerAspect a).value.2 = .ok n) :
    ∃ parts, (w.registerAspect a).events = parts.flatten ++ [a.registered n] ∧
      List.Forall₂ (fun d part => ∃ p, w.Tells a.name d p part) a.declarations parts := by
  cases hcompiled : compileAspect a with
  | error reason =>
      rw [registerAspect_of_malformed w hcompiled] at h
      cases h
  | ok compiled =>
      have hn := (congrArg Prod.snd (registerAspect_of_compileAspect w hcompiled)).symm.trans h
      rw [← Except.ok.inj hn, registerAspect_log w hcompiled]
      exact ⟨w.declarationLogs a.name compiled, rfl, w.forall₂_tells a.name (forall₂_compileAspect hcompiled)⟩

/-- A registration is answered with the number of its bindings. -/
theorem length_bindingsBy {w : Weaver β} {a : Aspect β} {n : Nat} (h : (w.registerAspect a).value.2 = .ok n) :
    (w.bindingsBy (.registerAspect a)).length = n := by
  rcases registerAspect_eq w a with ⟨e, he⟩ | hok
  · rw [he] at h
    cases h
  · unfold bindingsBy
    dsimp only
    rw [h]
    exact Except.ok.inj ((congrArg Prod.snd hok).symm.trans h)

/-! ## Loading -/

/-- From one weaver to another, some work does what a run does, and says the same in the messages of aspects. -/
def LikeRun (w v : Weaver β) (events : List Event) : Prop :=
  ∃ ops, v = w.after ops ∧ ∀ message ∈ aspectMessages,
    saying message (recorded .debug events) = saying message (recorded .debug (w.log ops))

section

variable {w u v : Weaver β} {earlier later : List Event}

/-- Work that leaves the weaver alone and says nothing about aspects is like a run without registrations. -/
theorem LikeRun.of_silent (w : Weaver β) {events : List Event} (h : ∀ e ∈ events, e.message ∉ aspectMessages) :
    LikeRun w w events := by
  refine ⟨[], rfl, ?_⟩
  intro message hmessage
  apply saying_eq_nil
  rintro e he rfl
  exact h e (List.mem_of_mem_filter he) hmessage

/-- A registration is like a run of this registration. -/
theorem LikeRun.apply (w : Weaver β) (op : WeaverOp β) : LikeRun w (w.apply op) (w.eventsBy op) := by
  refine ⟨[op], rfl, ?_⟩
  intro message _
  rw [log, gather, gather, List.append_nil]

/-- Two pieces of work like runs, one after the other, are like a run. -/
theorem LikeRun.trans (hearlier : LikeRun w u earlier) (hlater : LikeRun u v later) :
    LikeRun w v (earlier ++ later) := by
  obtain ⟨ops, rfl, hops⟩ := hearlier
  obtain ⟨more, rfl, hmore⟩ := hlater
  refine ⟨ops ++ more, (after_append w ops more).symm, ?_⟩
  intro message hmessage
  rw [log, gather_append, ← log, ← log, recorded_append, recorded_append, saying_append, saying_append,
    hops message hmessage, hmore message hmessage]

variable {α γ : Type}

/-- Work like a run that goes on with work like a run is like a run, whatever values pass between them. -/
theorem LikeRun.bind {x : Logged (Weaver β × α)} {f : Weaver β × α → Logged (Weaver β × γ)}
    (hx : LikeRun w x.value.1 x.events) (hf : ∀ v a, LikeRun v (f (v, a)).value.1 (f (v, a)).events) :
    LikeRun w (x >>= f).value.1 (x >>= f).events := hx.trans (hf x.value.1 x.value.2)

/-- Work like a run that gives a weaver alone, and goes on with work like a run, is like a run. -/
theorem LikeRun.step {x : Logged (Weaver β)} {f : Weaver β → Logged (Weaver β × γ)}
    (hx : LikeRun w x.value x.events) (hf : ∀ v, LikeRun v (f v).value.1 (f v).events) :
    LikeRun w (x >>= f).value.1 (x >>= f).events := hx.trans (hf x.value)

/-- Work like a run that comes after a message about something else than aspects is like a run. -/
theorem LikeRun.tell {level : Level} {message : String} {fields : List (String × FieldValue)}
    {f : Unit → Logged (Weaver β × α)} (h : message ∉ aspectMessages)
    (hf : LikeRun w (f ()).value.1 (f ()).events) :
    LikeRun w (Logged.tell level message fields >>= f).value.1 (Logged.tell level message fields >>= f).events := by
  refine (LikeRun.of_silent w ?_).trans hf
  intro e he
  rwa [List.mem_singleton.mp he]

/-- Giving a value is like a run without registrations. -/
theorem LikeRun.pure (w : Weaver β) (a : α) :
    LikeRun w (Pure.pure (w, a) : Logged (Weaver β × α)).value.1
      (Pure.pure (w, a) : Logged (Weaver β × α)).events :=
  LikeRun.of_silent w (List.forall_mem_nil _)

end

omit [RegexEngine] in
/-- A message that begins with another letter than the messages of aspects is none of them. -/
theorem not_mem_aspectMessages (first : Char) (h : some first ∉ aspectMessages.map (·.toList.head?)) (front : String)
    (hfront : front.toList.head? = some first) (rest : String) : front ++ rest ∉ aspectMessages := by
  intro hmem
  apply h
  refine List.mem_map.mpr ⟨front ++ rest, hmem, ?_⟩
  rw [String.toList_append, List.head?_append, hfront, Option.some_or]

/-- Loading types is like a run. -/
theorem likeRun_loadTypes (w : Weaver β) (types : List (String × TypeDescriptor β)) :
    LikeRun w (w.loadTypes types).value (w.loadTypes types).events := by
  unfold loadTypes
  induction types generalizing w with
  | nil => exact LikeRun.of_silent w (List.forall_mem_nil _)
  | cons x types ih =>
      rw [List.foldlM_cons]
      have hsilent : ∀ e ∈ [Event.mk .debug ("  ├─ Loading type: " ++ x.1) []], e.message ∉ aspectMessages := by
        intro e he
        rw [List.mem_singleton.mp he]
        exact not_mem_aspectMessages ' ' (by decide) "  ├─ Loading type: " rfl x.1
      exact ((LikeRun.of_silent w hsilent).trans (LikeRun.apply w (.registerType x.2))).trans (ih _)

/-- Loading targets is like a run. -/
theorem likeRun_loadTargets (w : Weaver β) (types : List (TypeDescriptor β)) :
    LikeRun w (w.loadTargets types).value.1 (w.loadTargets types).events := by
  induction types generalizing w with
  | nil => exact LikeRun.pure w _
  | cons t types ih =>
      unfold loadTargets
      split
      next => exact ih w
      next =>
        refine LikeRun.bind (LikeRun.apply w (.registerInterceptTarget t.name)) ?_
        rintro v (e | n)
        · exact LikeRun.pure v _
        · exact ih v

/-- Loading aspects is like a run. -/
theorem likeRun_loadAspects (w : Weaver β) (aspects : List (String × Aspect β)) :
    LikeRun w (w.loadAspects aspects).value.1 (w.loadAspects aspects).events := by
  induction aspects generalizing w with
  | nil => exact LikeRun.pure w _
  | cons x aspects ih =>
      unfold loadAspects
      refine LikeRun.tell (not_mem_aspectMessages ' ' (by decide) "  ├─ Loading aspect: " rfl x.1) ?_
      refine LikeRun.bind (LikeRun.apply w (.registerAspect x.2)) ?_
      rintro v (e | n)
      · exact LikeRun.pure v _
      · exact ih v

/-- Loading an inventory is like the run of its registrations, also where it fails on the way. -/
theorem likeRun_loadRegistered (w : Weaver β) (inventory : Inventory β) :
    LikeRun w (w.loadRegistered inventory).value.1 (w.loadRegistered inventory).events := by
  unfold loadRegistered
  refine LikeRun.step (likeRun_loadTypes w inventory.types) ?_
  intro loaded
  refine LikeRun.bind (likeRun_loadTargets loaded (inventory.types.map Prod.snd)) ?_
  rintro v (e | _)
  · exact LikeRun.pure v _
  · have hcount : "Auto-loading " ++ toString inventory.aspects.length ++ " aspect(s) from registry" ∉
        aspectMessages := by
      rw [String.append_assoc]
      exact not_mem_aspectMessages 'A' (by decide) "Auto-loading " rfl _
    refine LikeRun.tell hcount ?_
    refine LikeRun.bind (likeRun_loadAspects v inventory.aspects) ?_
    rintro u (e | _)
    · exact LikeRun.pure u _
    · exact LikeRun.tell (by decide) (LikeRun.pure u _)

/-! ## The account -/

/-- After any run from a new weaver, with events recorded from DEBUG up: the events of the bindings of a signature,
those of each kind stably sorted by falling number, tell the names and the numbers of the five lists of the
signature, which has no set exactly if there are no such events. If an aspect is then registered with success, as
many of these events are logged as the answer and the closing event say. Before the closing event its log has one
part for each declaration, which tells its bindings, warns if there are none and such warnings are wanted, and names
each selected method of an excluded type. Each type that goes over from interceptors to aspects is warned about once,
in this registration as in the whole run. No other registration logs such events, and loading an inventory is like
the run of its registrations. -/
theorem log_accounts (name : String) (config : WeaverConfig) (ops : List (WeaverOp β)) :
    let start : Weaver β := Weaver.new name config
    let w := start.after ops
    let log := recorded .debug (start.log ops)
    (∀ s : Signature,
      let bound := (saying "Bound advice" log).filter fun e => e.field? "signature" = some (.text s.text)
      (w.adviceSet? s = none ↔ bound = []) ∧
      ∀ kind : AdviceKind,
        ((bound.filter fun e => e.field? "kind" = some (.text kind.name)).mergeSort Event.precedes).map Event.entry =
          (((w.adviceSet? s).getD AdviceSet.empty).ofKind kind).map Advised.entry) ∧
    (∀ a n, (w.registerAspect a).value.2 = .ok n →
      let log := recorded .debug (w.registerAspect a).events
      (saying "Bound advice" log).length = n ∧
      (∃ parts closing, log = parts.flatten ++ [closing] ∧
        closing.message = "Registered aspect" ∧ closing.field? "bound" = some (.number n) ∧
        List.Forall₂ (fun d part => ∃ p, w.Tells a.name d p part) a.declarations parts) ∧
      ∃ types : List String, types.Nodup ∧
        saying "Type was woven for interceptors, switching to aspect dispatch" log = types.map switching ∧
        ∀ typeName, typeName ∈ types ↔ Switches typeName w (.registerAspect a)) ∧
    (∀ op, (∀ a n, op = .registerAspect a → (w.registerAspect a).value.2 ≠ .ok n) →
      ∀ e ∈ w.eventsBy op, e.message ∉ aspectMessages) ∧
    (∃ types : List String, types.Nodup ∧
      saying "Type was woven for interceptors, switching to aspect dispatch" log = types.map switching ∧
      ∀ typeName, typeName ∈ types ↔ start.Occurs ops (Switches typeName)) ∧
    ∀ inventory, LikeRun w (w.loadRegistered inventory).value.1 (w.loadRegistered inventory).events := by
  intro start w log
  have hstart : start.Coherent := coherent_new name config
  have hw : w.Coherent := hstart.after ops
  have hlog : log = start.log ops := recorded_log start ops
  refine ⟨?_, ?_, eventsBy_silent w, ?_, likeRun_loadRegistered w⟩
  · intro s bound
    have hbound : bound = ((start.history ops).filter fun x => x.signature = s).map Binding.event := by
      simp only [bound, hlog, saying_bound_log, filter_signature]
    refine ⟨?_, ?_⟩
    · rw [hbound, List.map_eq_nil_iff]
      exact adviceSet?_after_eq_none_iff name config ops s
    · intro kind
      rw [hbound, filter_kind, sorted_events]
      exact congrArg (List.map Advised.entry) (ofKind_after name config ops s kind).symm
  · intro a n hn log
    have hlog : log = w.eventsBy (.registerAspect a) := recorded_eq_self (verbosity_eventsBy w (.registerAspect a))
    obtain ⟨hbound, hswitched⟩ := w.saying_eventsBy (.registerAspect a)
    obtain ⟨parts, hparts, htells⟩ := w.registerAspect_parts hn
    refine ⟨?_, ⟨parts, a.registered n, hlog.trans hparts, rfl, rfl, htells⟩, ?_⟩
    · rw [hlog, hbound, List.length_map, length_bindingsBy hn]
    · rw [hlog, hswitched]
      exact ⟨_, nodup_switched _ _, rfl, mem_switchesBy hw (.registerAspect a)⟩
  · rw [hlog, saying_switching_log]
    exact ⟨_, nodup_switches hstart ops, rfl, mem_switches hstart ops⟩

end Weaver

end AspectWeaver

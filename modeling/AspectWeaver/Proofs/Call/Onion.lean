import AspectWeaver.Proofs.Call.Runs
import AspectWeaver.Proofs.Weaver.Chains

/-!
# The layers of a call

Before advices and after advices that are bound in pairs, the two of a pair with one order number, are the
layers of an onion: what is entered first is left last, also among pairs of the same number. This holds because
both lists are sorted alike and the second is walked from its end (`Paired.inOrder_eq`). The top is
`dispatch_mirrored`, for before advices paired with after advices and with those after the method returned.
-/

set_option autoImplicit false

namespace AspectWeaver

variable {β τ : Type}

/-! ## Pairs -/

/-- Two rows of advices are paired: there are as many of both, and each has the number of its partner, which is
the one at the same place. -/
def Paired (entries exits : List (Advised β)) : Prop := entries.map (·.order) = exits.map (·.order)

instance (entries exits : List (Advised β)) : Decidable (Paired entries exits) :=
  inferInstanceAs (Decidable (entries.map _ = exits.map _))

/-- The pairs by falling number, and those of one number in the order in which they came. -/
def layers (entries exits : List (Advised β)) : List (Advised β × Advised β) :=
  (entries.zip exits).mergeSort fun x y => x.1.precedes y.1

/-- The layers are the pairs in another order. -/
theorem perm_layers (entries exits : List (Advised β)) : (layers entries exits).Perm (entries.zip exits) :=
  List.mergeSort_perm _ _

namespace Paired

variable {entries exits : List (Advised β)}

/-- Of paired rows, one is as long as the other. -/
theorem length_eq (h : Paired entries exits) : entries.length = exits.length := by
  rw [← List.length_map, h, List.length_map]

/-- Partners have the same number. -/
theorem order_eq (h : Paired entries exits) {x : Advised β × Advised β} (hx : x ∈ entries.zip exits) :
    x.1.order = x.2.order := by
  induction entries generalizing exits with
  | nil => cases hx
  | cons a entries ih =>
      cases exits with
      | nil => cases hx
      | cons b exits =>
          obtain ⟨hfirst, hrest⟩ := List.cons.inj h
          rcases List.mem_cons.mp hx with rfl | hx
          · exact hfirst
          · exact ih hrest hx

/-- The two rows, each put in order, are the two sides of the layers. -/
theorem inOrder_eq (h : Paired entries exits) :
    inOrder entries = (layers entries exits).map Prod.fst ∧
      inOrder exits = (layers entries exits).map Prod.snd := by
  rw [inOrder_eq_mergeSort, inOrder_eq_mergeSort]
  unfold layers
  constructor
  · rw [List.map_mergeSort (s := Advised.precedes) (f := Prod.fst) fun x _ y _ => rfl,
      List.map_fst_zip (Nat.le_of_eq h.length_eq)]
  · have hsame : ∀ x ∈ entries.zip exits, ∀ y ∈ entries.zip exits,
        x.1.precedes y.1 = x.2.precedes y.2 := by
      intro x hx y hy
      rw [Advised.precedes, Advised.precedes, h.order_eq hx, h.order_eq hy]
    rw [List.map_mergeSort (s := Advised.precedes) (f := Prod.snd) hsame,
      List.map_snd_zip (Nat.le_of_eq h.length_eq.symm)]

end Paired

/-! ## Calls -/

/-- The lists of a signature are those of the advices that were bound to it, put in order. -/
theorem ofKind_of_bound {xs : List (Binding β)} {s : Signature} {set : AdviceSet β}
    (h : (xs.foldl AdviceRegistry.add AdviceRegistry.empty).adviceSet? s = some set) (kind : AdviceKind) :
    set.ofKind kind = inOrder (advisedOf kind ((xs.filter fun x => x.signature = s).map Binding.advice)) := by
  rw [AdviceRegistry.adviceSet?_foldl_add] at h
  exact AdviceRegistry.ofKind_of_extend h kind

/-- Let advices be bound one after the other, in any mixture. A call of a method takes the steps that its set
asks for. If the before and the after advices of the method were bound in pairs, then in every call in which
none of them fails the before advices run layer by layer, and the after advices, which are their partners, run
in exactly the reverse order of the layers, whatever else happens in the call. If the before advices and those
after the method returned were bound in pairs, the same holds of these in every call whose guarded part
succeeds. -/
theorem dispatch_mirrored (b : Behaviours β τ) (xs : List (Binding β)) (set : AdviceSet β) (target : Target)
    (m : Method β) (args : List Value) (w : World τ)
    (h : (xs.foldl AdviceRegistry.add AdviceRegistry.empty).adviceSet? m.signature = some set) :
    let r := xs.foldl AdviceRegistry.add AdviceRegistry.empty
    let bound := (xs.filter fun x => x.signature = m.signature).map Binding.advice
    let entries := advisedOf .before bound
    let exits := advisedOf .after bound
    let returns := advisedOf .afterReturning bound
    ∃ (t : CallTrace β τ) (last : CallState τ),
      t.Follows set ∧ Performed b m (set.enter target m args w) t.steps last ∧
      ((r.dispatch b target m args).start w).2 = last.2 ∧
      (Paired entries exits → failure? t.before = none → failure? t.after = none →
        (layers entries exits).Perm (entries.zip exits) ∧
        t.ran .before = (layers entries exits).map Prod.fst ∧
        t.ran .after = ((layers entries exits).map Prod.snd).reverse) ∧
      (Paired entries returns → failure? t.before = none → t.guardedFailure? = none →
        (layers entries returns).Perm (entries.zip returns) ∧
        t.ran .before = (layers entries returns).map Prod.fst ∧
        t.ran .afterReturning = ((layers entries returns).map Prod.snd).reverse) := by
  intro r bound entries exits returns
  obtain ⟨hfollows, hrun⟩ := trace_follows_performed b set m (set.enter target m args w)
  refine ⟨_, _, hfollows, hrun, ?_, ?_, ?_⟩
  · rw [start_dispatch h]
  · intro hpaired hbefore hafter
    obtain ⟨hran, -, -, hexits⟩ := hfollows.ran_eq hbefore
    refine ⟨perm_layers entries exits, ?_, ?_⟩
    · rw [hran, ← hpaired.inOrder_eq.1]
      exact ofKind_of_bound h .before
    · rw [hexits hafter, ← hpaired.inOrder_eq.2]
      exact congrArg List.reverse (ofKind_of_bound h .after)
  · intro hpaired hbefore hguarded
    obtain ⟨hran, -, hreturns, -⟩ := hfollows.ran_eq hbefore
    refine ⟨perm_layers entries returns, ?_, ?_⟩
    · rw [hran, ← hpaired.inOrder_eq.1]
      exact ofKind_of_bound h .before
    · rw [hreturns hguarded, ← hpaired.inOrder_eq.2]
      exact congrArg List.reverse (ofKind_of_bound h .afterReturning)

namespace Rehearsal

/-- A note with an order number. -/
def numbered (order : Int) (code : Nat) : Advised Nat := ⟨"note", order, .custom code⟩

/-- Binds a note to the method of the rehearsal. -/
def bound (kind : AdviceKind) (order : Int) (code : Nat) : Binding Nat :=
  ⟨⟨"note", order, kind, .custom code⟩, ⟨TypeDescriptor.concrete "Stage" "Actor", method⟩⟩

/-- Three rows in pairs, with one number twice, and an advice around the method in between. -/
def mixed : List (Binding Nat) :=
  [bound .before 0 1, bound .after 0 11, bound .afterReturning 0 21, bound .before 0 2, bound .around 3 9,
    bound .afterReturning 0 22, bound .before 5 3, bound .after 0 12, bound .afterReturning 5 23,
    bound .after 5 13]

end Rehearsal

section

open Rehearsal

/-- With three pairs, two of them of one number, what runs behind the method runs in the reverse of the layers. -/
theorem dispatch_mirrored_rehearsal :
    ∃ (set : AdviceSet Nat) (t : CallTrace Nat (List Nat)) (last : CallState (List Nat)),
      (mixed.foldl AdviceRegistry.add AdviceRegistry.empty).adviceSet? method.signature = some set ∧
      Paired [numbered 0 1, numbered 0 2, numbered 5 3] [numbered 0 11, numbered 0 12, numbered 5 13] ∧
      Paired [numbered 0 1, numbered 0 2, numbered 5 3] [numbered 0 21, numbered 0 22, numbered 5 23] ∧
      failure? t.before = none ∧ t.guardedFailure? = none ∧ failure? t.after = none ∧
      t.ran .after = ((layers [numbered 0 1, numbered 0 2, numbered 5 3]
        [numbered 0 11, numbered 0 12, numbered 5 13]).map Prod.snd).reverse ∧
      t.ran .afterReturning = ((layers [numbered 0 1, numbered 0 2, numbered 5 3]
        [numbered 0 21, numbered 0 22, numbered 5 23]).map Prod.snd).reverse ∧
      last.2.state = [3, 1, 2, 9, 4, 22, 21, 23, 12, 11, 13] := by
  obtain ⟨set, hset⟩ : ∃ set, (mixed.foldl AdviceRegistry.add AdviceRegistry.empty).adviceSet?
      method.signature = some set := ⟨_, rfl⟩
  obtain ⟨t, last, hfollows, hrun, -, hexits, hreturns⟩ := dispatch_mirrored behaviours mixed set target method
    [.bool true] (World.initial []) hset
  have htrace := (follows_performed_iff behaviours set method _ last t).mp ⟨hfollows, hrun⟩
  refine ⟨set, t, last, hset, rfl, rfl, ?_⟩
  cases hset
  obtain ⟨rfl, rfl⟩ := Prod.mk.inj htrace
  exact ⟨rfl, rfl, rfl, (hexits rfl rfl rfl).2.2, (hreturns rfl rfl rfl).2.2, rfl⟩

end

end AspectWeaver

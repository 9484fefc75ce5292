import AspectWeaver.Proofs.Call.Alike

/-!
# The short paths of a call

A call has two short paths: a method without advices is called directly, and the method of a set without around
advices runs as a step of its own. The top of this file is `dispatch_short_paths`: the first comes to the same as a
call through the empty set, the second to the same as a call with an around advice that only lets the call proceed.
-/

set_option autoImplicit false

namespace AspectWeaver

variable {β τ : Type} {same : τ → τ → Prop} {b : Behaviours β τ} {m : Method β}

/-! ## An advice that only lets the call proceed -/

/-- An around advice that only lets the call proceed may stand for the method. -/
def StandsFor (a : Advised β) (x y : CallStep β) : Prop := x = y ∨ x = .original ∧ y = .around a

/-- An advice that only lets the call proceed stands for the method: both steps come to the same. -/
theorem similar_of_standsFor (hb : b.Respects same) {a : Advised β} (ha : a.body.course b = Around.proceedOrFail)
    {x y : CallStep β} (h : StandsFor a x y) : CallStep.Similar b m same x y := by
  rcases h with rfl | ⟨rfl, rfl⟩
  · exact CallStep.Similar.refl hb m x
  · have hcode : (CallStep.around a).code b m = CallStep.original.code b m := by
      unfold CallStep.code
      dsimp only
      rw [ha]
      rfl
    refine CallStep.Similar.of_code ?_ ?_
    · rw [hcode]
      exact hb.code m .original
    · intro s r hsr
      unfold CallStep.invocations
      dsimp only
      rw [ha]
      exact .cons (CallStep.announced_alike hsr .original (.around a)) .nil

/-- A set without around advices asks for the same as with one more, but for the method, for which the advice stands. -/
theorem AdviceSet.agree_push_around {set : AdviceSet β} {a : Advice β} (hset : set.around = [])
    (ha : a.kind = .around) : set.Agree (fun _ => False) (StandsFor a.advised) (set.push a) := by
  have hpush : set.push a = { set with around := [a.advised] } := by
    unfold push
    rw [ha]
    dsimp only
    rw [hset]
    rfl
  have hsame : set.Agree (fun _ => False) (StandsFor a.advised) set := .refl (fun _ => Or.inl rfl) set
  rw [hpush]
  refine ⟨hsame.before, ?_, hsame.afterReturning, hsame.afterThrowing, rfl, hsame.after⟩
  unfold corePlan
  rw [hset]
  exact .shared (Or.inr ⟨rfl, rfl⟩) .nil

/-! ## The short paths -/

/-- Take any method, target and arguments, and any code that does not depend on the log. To call the method without
a set of advices comes to the same as to call it through the empty set, which says so in the log first. To call it
through a set without around advices, whatever else is in it and whatever fails, comes to the same as with one
around advice more, of any order number, that only lets the call proceed. In both cases the worlds are alike
afterwards, and the same advices run in the same order, see the same join point in worlds that are alike, and come to
the same; and the method is invoked equally often and in the same way. -/
theorem dispatch_short_paths (hb : b.Respects same) (r r' : AdviceRegistry β) (target : Target) (m : Method β)
    (args : List Value) {w v : World τ} (hworld : w.Alike same v) :
    (r.adviceSet? m.signature = none → r'.adviceSet? m.signature = some AdviceSet.empty →
      (∀ w : World τ, (r'.dispatch b target m args).start w = (r.dispatch b target m args).start
        (w.record [⟨.trace, "Dispatching through advices",
          [("signature", .text m.signature.text), ("advices", .number 0)]⟩])) ∧
      CallsAlike b same (fun _ => False) Eq r r' target m args w v) ∧
    ∀ (set : AdviceSet β) (a : Advice β), r.adviceSet? m.signature = some set → set.around = [] →
      a.kind = .around → a.body.course b = Around.proceedOrFail → r'.adviceSet? m.signature = some (set.push a) →
        CallsAlike b same (fun _ => False) (StandsFor a.advised) r r' target m args w v := by
  constructor
  · intro hnone hempty
    constructor
    · intro w
      rw [(r'.takes_trace b target m args w).comesTo, (r.takes_trace b target m args _).comesTo, hnone, hempty]
      rfl
    · refine calls_alike nofun ?_ ?_ target args hworld
      · rintro x _ rfl
        exact CallStep.Similar.refl hb m x
      · rw [hnone, hempty]
        exact .refl (fun _ => rfl) _
  · intro set a hset haround hkind ha hpushed
    refine calls_alike nofun (fun _ _ => similar_of_standsFor hb ha) ?_ target args hworld
    rw [hset, hpushed]
    exact AdviceSet.agree_push_around haround hkind

section

open Rehearsal

/-- Code that notes its number as in a rehearsal, where around advices only let the call proceed. -/
def Rehearsal.passing : Behaviours Nat (List Nat) := { behaviours with around := fun _ => Around.proceedOrFail }

/-- Code that notes its number does not depend on the log, and neither does letting the call proceed. -/
theorem Rehearsal.respects_passing : passing.Respects Eq :=
  { respects_behaviours with around := fun _ => Around.similar_proceedOrFail }

/-- A registry that holds one set. -/
def Rehearsal.holding (set : AdviceSet Nat) : AdviceRegistry Nat := ⟨Table.empty.insert method.signature set, []⟩

/-- The registry holds the set that was put there. -/
theorem Rehearsal.adviceSet?_holding (set : AdviceSet Nat) :
    (holding set).adviceSet? method.signature = some set := by
  unfold holding AdviceRegistry.adviceSet?
  rw [Table.get?_insert, if_pos rfl]

/-- Advices of all kinds but one. -/
def Rehearsal.unguarded : AdviceSet Nat := { advices with around := [] }

/-- An around advice that lets the call proceed. -/
def Rehearsal.pass : Advice Nat := ⟨"pass", 5, .around, .custom 9⟩

/-- Without advices the method runs alone. With those of all other kinds it runs among them, and the failure after it
is taken away, with or without an advice that lets the call proceed. -/
theorem dispatch_short_paths_rehearsal :
    let start : World (List Nat) := World.initial []
    CallsAlike passing Eq (fun _ => False) Eq AdviceRegistry.empty (holding AdviceSet.empty) target method
      [.bool true] start start ∧
    ((AdviceRegistry.empty.dispatch passing target method [.bool true]).start start).2.state = [4] ∧
    CallsAlike passing Eq (fun _ => False) (StandsFor pass.advised) (holding unguarded)
      (holding (unguarded.push pass)) target method [.bool true] start start ∧
    (((holding unguarded).dispatch passing target method [.bool true]).start start).1 = .ok (some (.bool true)) ∧
    (((holding unguarded).dispatch passing target method [.bool true]).start start).2.state =
      [1, 2, 4, 0, 6, 7, 8] := by
  intro start
  have hstart : start.Alike Eq start := ⟨rfl, rfl, rfl⟩
  obtain ⟨hempty, -⟩ := dispatch_short_paths respects_passing AdviceRegistry.empty (holding AdviceSet.empty) target
    method [.bool true] hstart
  obtain ⟨-, haround⟩ := dispatch_short_paths respects_passing (holding unguarded) (holding (unguarded.push pass))
    target method [.bool true] hstart
  refine ⟨(hempty rfl (adviceSet?_holding _)).2, rfl, ?_, ?_, ?_⟩
  · exact haround unguarded pass (adviceSet?_holding _) rfl rfl rfl (adviceSet?_holding _)
  · rw [start_dispatch (adviceSet?_holding unguarded)]
    rfl
  · rw [start_dispatch (adviceSet?_holding unguarded)]
    rfl

end

end AspectWeaver

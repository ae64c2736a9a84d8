import Mathlib.Data.List.Nodup

/-!
# Work queues

A single-threaded work queue: the items pending on it, in the order in which its
thread will run them. An item is pending at most once, as part of the type.

* `WorkQueue.queueWork` appends an item, unless it is pending already.
* `WorkQueue.cancelWork` removes an item, wherever it stands.
* `WorkQueue.pop` is the item the thread runs next, and the queue left by it.
* `WorkQueue.call` is a call on the queue, taken as one step: a flush waits for the
  thread.
* `WorkQueue.runAll` runs items in order. They act on a state, through a partial
  function that is undefined where running an item is an error.
-/

namespace Sounder

/-- The items pending on a single-threaded work queue, the next one first. -/
structure WorkQueue (ι : Type*) where
  /-- The pending items. -/
  pending : List ι
  /-- An item is pending at most once. -/
  nodup : pending.Nodup

namespace WorkQueue

variable {ι σ : Type*}

@[ext] theorem ext {q q' : WorkQueue ι} (h : q.pending = q'.pending) : q = q' := by
  cases q
  cases q'
  congr

instance [DecidableEq ι] : DecidableEq (WorkQueue ι) := fun q q' =>
  decidable_of_iff (q.pending = q'.pending) ⟨ext, congrArg _⟩

/-- The queue without pending items. -/
def empty : WorkQueue ι := ⟨[], List.nodup_nil⟩

@[simp] theorem pending_empty : (empty : WorkQueue ι).pending = [] := rfl

/-- The item run next, and the queue left by it. -/
def pop (q : WorkQueue ι) : Option (ι × WorkQueue ι) :=
  match q with
  | ⟨[], _⟩ => none
  | ⟨w :: ws, h⟩ => some (w, ⟨ws, h.of_cons⟩)

theorem pop_eq_some_iff {q q' : WorkQueue ι} {w : ι} :
    q.pop = some (w, q') ↔ q.pending = w :: q'.pending := by
  obtain ⟨_ | ⟨v, ws⟩, h⟩ := q
  · simp [pop]
  · obtain ⟨ws', h'⟩ := q'
    simp [pop, WorkQueue.ext_iff]

variable [DecidableEq ι] (q : WorkQueue ι) (w : ι)

/-- `w` is queued behind the pending items, unless it is one of them. -/
def queueWork : WorkQueue ι where
  pending := if w ∈ q.pending then q.pending else q.pending ++ [w]
  nodup := by
    split_ifs with h
    · exact q.nodup
    · exact q.nodup.append (List.nodup_singleton w) (by simpa using h)

/-- `w` is removed from the pending items. -/
def cancelWork : WorkQueue ι where
  pending := q.pending.erase w
  nodup := q.nodup.erase w

variable {q w} {v : ι}

@[simp] theorem mem_queueWork : v ∈ (q.queueWork w).pending ↔ v ∈ q.pending ∨ v = w := by
  rw [queueWork]
  split_ifs with h
  · exact ⟨.inl, fun h' => h'.elim id fun e => e ▸ h⟩
  · simp

@[simp] theorem mem_cancelWork : v ∈ (q.cancelWork w).pending ↔ v ≠ w ∧ v ∈ q.pending :=
  q.nodup.mem_erase_iff

omit [DecidableEq ι] in
theorem mem_of_pop {q' : WorkQueue ι} (h : q.pop = some (w, q')) :
    v ∈ q.pending ↔ v = w ∨ v ∈ q'.pending := by
  rw [pop_eq_some_iff.1 h, List.mem_cons]

/-! ## Calls -/

/-- The calls on a work queue. -/
inductive Call (ι : Type*)
  | queue (w : ι)
  | cancel (w : ι)
  | flush
  deriving DecidableEq

/-- The queue after a call, while no item is running: a flush waits until nothing is
    pending. -/
def call : Call ι → WorkQueue ι → Option (WorkQueue ι)
  | .queue w, q => some (q.queueWork w)
  | .cancel w, q => some (q.cancelWork w)
  | .flush, q => if q.pending = [] then some q else none

/-- While nothing is pending, a call that does not queue an item does nothing. -/
theorem call_of_pending_nil {c : Call ι} (hq : q.pending = []) (hc : ∀ w, c ≠ .queue w) :
    call c q = some q := by
  cases c with
  | queue w => exact absurd rfl (hc w)
  | cancel w => exact congrArg some (ext (by simp [cancelWork, hq]))
  | flush => rw [call, if_pos hq]

/-! ## Running the queue dry -/

/-- Running the items `ws` in order. -/
def runAll (exec : ι → σ → Option σ) (ws : List ι) (s : σ) : Option σ :=
  ws.foldlM (fun s w => exec w s) s

omit [DecidableEq ι] in
@[simp] theorem runAll_nil {exec : ι → σ → Option σ} {s : σ} : runAll exec [] s = some s := rfl

omit [DecidableEq ι] in
theorem runAll_cons {exec : ι → σ → Option σ} {ws : List ι} {s : σ} :
    runAll exec (w :: ws) s = (exec w s).bind (runAll exec ws) := rfl

omit [DecidableEq ι] in
/-- What every item preserves, running them all preserves. -/
theorem runAll_induct {exec : ι → σ → Option σ} {I : σ → Prop} {ws : List ι}
    (hI : ∀ w ∈ ws, ∀ s t, I s → exec w s = some t → I t) {s t : σ} (hs : I s)
    (h : runAll exec ws s = some t) : I t := by
  induction ws generalizing s with
  | nil =>
    rw [runAll_nil, Option.some_inj] at h
    exact h ▸ hs
  | cons w ws ih =>
    rw [runAll_cons, Option.bind_eq_some_iff] at h
    obtain ⟨u, hu, h⟩ := h
    exact ih (fun v hv => hI v (List.mem_cons_of_mem w hv)) (hI w List.mem_cons_self s u hs hu) h

end WorkQueue

end Sounder

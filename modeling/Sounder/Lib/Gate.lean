import Sounder.Lib.Drain
import Sounder.Lib.Semaphore

/-!
# Operations that take a semaphore

Threads that call operations on something they share, with a counting semaphore. An
operation is code: at each of its points stands a statement (`Gate.Statement`), which waits
for the semaphore, gives it back, acts on what is shared, or returns. Nothing else touches
the semaphore: code that forgets to give it back, or gives it back twice, can be written.
A statement may kill its thread, which never comes back. Statements of different threads,
and whatever else changes what is shared (the environment), interleave.

* Code is *paired* (`Gate.Paired`) when each of its points has the semaphore in hand or has
  not, and the statements agree with that: none returns with it, and none but the `down`s
  and `up`s changes it. Then in every run, the count of the semaphore and the threads that
  have it are as many as it was initialised to (`fair_of_run`), and each thread has given
  back what it took, but for the one it has (`downs_eq_of_run`).
* A thread that was killed stays so (`killed_of_exec`). If all the holders were killed,
  nobody gets in any more. If they were not, whoever waits can still get in
  (`Live.servable_iff`), and without help from the environment once the statements kill
  nobody any more (`Live.servable_of_safe`).
* Without new calls, those that have begun come to their end, whoever takes the next step
  (`drains_of_left`).
-/

namespace Sounder

open Semaphore

/-- A statement of an operation, on shared states `σ`; `κ` are the points of the code. -/
inductive Gate.Statement (σ κ : Type*)
  /-- The thread waits for the semaphore, and takes it, or is interrupted by a signal. -/
  | down (taken interrupted : κ)
  /-- The thread gives the semaphore back. -/
  | up (next : κ)
  /-- The thread acts on what is shared; there is no result where this kills it. -/
  | act (f : σ → Option (σ × κ))
  /-- The operation returns. -/
  | ret (value : ℤ)

/-- The code of the operations `ω`, on shared states `σ` that hold the semaphore, with
    actions `ε` of the environment. -/
structure Gate (σ κ ω ε : Type*) where
  /-- The count of the semaphore. -/
  count : σ → ℕ
  /-- The count is set. -/
  setCount : ℕ → σ → σ
  /-- Where an operation begins. -/
  entry : ω → κ
  /-- The statement at a point. -/
  code : κ → Gate.Statement σ κ
  /-- The action of the environment, where it is possible. -/
  env : ε → σ → Option σ
  count_setCount (n : ℕ) (s : σ) : count (setCount n s) = n
  count_act {k k' : κ} {f : σ → Option (σ × κ)} {s t : σ} :
    code k = .act f → f s = some (t, k') → count t = count s
  count_env {e : ε} {s t : σ} : env e s = some t → count t = count s

namespace Gate

/-- Where a thread is. -/
inductive Place (κ : Type*)
  | idle
  /-- The thread is in an operation, before the statement at `k`. -/
  | inside (k : κ)
  /-- A statement killed the thread. -/
  | killed
  deriving DecidableEq

/-- The thread was killed. -/
def Place.isKilled {κ : Type*} : Place κ → Bool
  | .killed => true
  | _ => false

/-- The thread has the semaphore, or took it with it; `held`: a thread before the statement
    has it. -/
def Place.holds {κ : Type*} (held : κ → Bool) : Place κ → Bool
  | .idle => false
  | .inside k => held k
  | .killed => true

variable {σ κ ω ε ι : Type*}

/-- What is shared, and the threads. -/
structure Crowd (σ κ ι : Type*) where
  shared : σ
  place : ι → Place κ

/-- What a thread can do. -/
inductive Move (ω : Type*)
  /-- It calls an operation. -/
  | call (o : ω)
  /-- A signal interrupts its wait for the semaphore. -/
  | interrupt
  /-- It takes the semaphore it waits for. -/
  | down
  /-- It executes a statement that does not wait. -/
  | next
  deriving DecidableEq

/-- One step of one thread, or of the environment. -/
inductive Turn (ω ε ι : Type*)
  | thread (i : ι) (m : Move ω)
  | env (e : ε)
  deriving DecidableEq

variable (G : Gate σ κ ω ε)

/-- What becomes of the shared state, and of a thread at a place. -/
def move : Move ω → Place κ → σ → Option (σ × Place κ)
  | .call o, .idle, s => some (s, .inside (G.entry o))
  | .interrupt, .inside k, s =>
    match G.code k with
    | .down _ interrupted => some (s, .inside interrupted)
    | _ => none
  | .down, .inside k, s =>
    match G.code k with
    | .down taken _ =>
      if 0 < G.count s then some (G.setCount (G.count s - 1) s, .inside taken) else none
    | _ => none
  | .next, .inside k, s =>
    match G.code k with
    | .down _ _ => none
    | .up k' => some (G.setCount (G.count s + 1) s, .inside k')
    | .act f =>
      match f s with
      | some (t, k') => some (t, .inside k')
      | none => some (s, .killed)
    | .ret _ => some (s, .idle)
  | _, _, _ => none

/-- One turn. -/
def step [DecidableEq ι] (s : Crowd σ κ ι) : Turn ω ε ι → Option (Crowd σ κ ι)
  | .thread i m =>
    (G.move m (s.place i) s.shared).map fun (t, p) => ⟨t, Function.update s.place i p⟩
  | .env e => (G.env e s.shared).map fun t => { s with shared := t }

/-- The threads, all idle at first. -/
def machine (ι : Type*) [DecidableEq ι] (s : σ) : Machine (Crowd σ κ ι) (Turn ω ε ι) :=
  ⟨⟨s, fun _ => .idle⟩, G.step⟩

/-- The moves of a thread, one rule for each statement. -/
inductive Moves : Move ω → Place κ → Place κ → σ → σ → Prop
  | call (o : ω) {s : σ} : Moves (.call o) .idle (.inside (G.entry o)) s s
  | interrupt {k k₁ k₂ : κ} {s : σ} : G.code k = .down k₁ k₂ →
      Moves .interrupt (.inside k) (.inside k₂) s s
  | down {k k₁ k₂ : κ} {s : σ} : G.code k = .down k₁ k₂ → 0 < G.count s →
      Moves .down (.inside k) (.inside k₁) s (G.setCount (G.count s - 1) s)
  | up {k k' : κ} {s : σ} : G.code k = .up k' →
      Moves .next (.inside k) (.inside k') s (G.setCount (G.count s + 1) s)
  | act {k k' : κ} {f : σ → Option (σ × κ)} {s t : σ} : G.code k = .act f →
      f s = some (t, k') → Moves .next (.inside k) (.inside k') s t
  | die {k : κ} {f : σ → Option (σ × κ)} {s : σ} : G.code k = .act f → f s = none →
      Moves .next (.inside k) .killed s s
  | ret {k : κ} {v : ℤ} {s : σ} : G.code k = .ret v → Moves .next (.inside k) .idle s s

variable {G} {s t : Crowd σ κ ι} {i : ι} {k k' : κ} {n : ℕ} {s₀ : σ} {ts us : List (Turn ω ε ι)}
  {held : κ → Bool} {m : Move ω}

theorem move_eq_some_iff {p p' : Place κ} {s t : σ} :
    G.move m p s = some (t, p') ↔ G.Moves m p p' s t := by
  constructor
  · intro h
    rcases m with o | - | - | - <;> rcases p with - | k | -
    case call.idle =>
      cases h
      exact .call o
    case interrupt.inside =>
      rw [move] at h
      split at h
      · next hk =>
        cases h
        exact .interrupt hk
      · cases h
    case down.inside =>
      rw [move] at h
      split at h
      · next hk =>
        split_ifs at h with hc
        cases h
        exact .down hk hc
      · cases h
    case next.inside =>
      rw [move] at h
      split at h
      · cases h
      · next hk =>
        cases h
        exact .up hk
      · next f hk =>
        split at h
        · next hf =>
          cases h
          exact .act hk hf
        · next hf =>
          cases h
          exact .die hk hf
      · next hk =>
        cases h
        exact .ret hk
    all_goals cases h
  · rintro (_ | hk | ⟨hk, hc⟩ | hk | ⟨hk, hf⟩ | ⟨hk, hf⟩ | hk) <;> simp [move, *]

variable [DecidableEq ι]

@[simp] theorem machine_step : (G.machine ι s₀).step = G.step := rfl

theorem step_thread_eq_some_iff : G.step s (.thread i m) = some t ↔
    ∃ u p, G.Moves m (s.place i) p s.shared u ∧ t = ⟨u, Function.update s.place i p⟩ := by
  simp only [step, Option.map_eq_some_iff, Prod.exists, move_eq_some_iff, @eq_comm _ t]

theorem step_env_eq_some_iff {e : ε} : G.step s (.env e : Turn ω ε ι) = some t ↔
    ∃ u, G.env e s.shared = some u ∧ t = { s with shared := u } := by
  simp only [step, Option.map_eq_some_iff, @eq_comm _ t]

/-! ## The semaphore -/

variable (G) in
/-- A thread before the statement at `k` has the semaphore if `held k`, and has not if not:
    it calls and returns without it, takes it when it has not, gives it back when it has, and
    takes it with it when it is killed. -/
structure Paired (held : κ → Bool) : Prop where
  entry (o : ω) : held (G.entry o) = false
  down {k k₁ k₂ : κ} : G.code k = .down k₁ k₂ →
    held k = false ∧ held k₁ = true ∧ held k₂ = false
  up {k k' : κ} : G.code k = .up k' → held k = true ∧ held k' = false
  act {k k' : κ} {f : σ → Option (σ × κ)} {s t : σ} : G.code k = .act f →
    f s = some (t, k') → held k' = held k
  die {k : κ} {f : σ → Option (σ × κ)} {s : σ} : G.code k = .act f → f s = none →
    held k = true
  ret {k : κ} {v : ℤ} : G.code k = .ret v → held k = false

/-- The move takes the semaphore. -/
def Move.takes : Move ω → Bool
  | .down => true
  | _ => false

variable (G) in
/-- The move gives the semaphore back. -/
def gives : Move ω → Place κ → Bool
  | .next, .inside k =>
    match G.code k with
    | .up _ => true
    | _ => false
  | _, _ => false

omit [DecidableEq ι] in
/-- What a move of paired code does to the semaphore: the thread takes it, or gives it back,
    or neither. -/
theorem Paired.holds_of_moves (hG : G.Paired held) {p p' : Place κ} {s t : σ}
    (h : G.Moves m p p' s t) :
    (m.takes = true ∧ G.gives m p = false ∧ p.holds held = false ∧ p'.holds held = true ∧
        0 < G.count s ∧ G.count t = G.count s - 1) ∨
      (m.takes = false ∧ G.gives m p = true ∧ p.holds held = true ∧ p'.holds held = false ∧
        G.count t = G.count s + 1) ∨
      (m.takes = false ∧ G.gives m p = false ∧ p'.holds held = p.holds held ∧
        G.count t = G.count s) := by
  cases h with
  | call o => exact .inr (.inr ⟨rfl, rfl, hG.entry o, rfl⟩)
  | interrupt hk =>
    obtain ⟨h, -, h₂⟩ := hG.down hk
    exact .inr (.inr ⟨rfl, rfl, h₂.trans h.symm, rfl⟩)
  | down hk hc =>
    obtain ⟨h, h₁, -⟩ := hG.down hk
    exact .inl ⟨rfl, rfl, h, h₁, hc, G.count_setCount _ _⟩
  | up hk =>
    obtain ⟨h, h'⟩ := hG.up hk
    exact .inr (.inl ⟨rfl, by simp [gives, hk], h, h', G.count_setCount _ _⟩)
  | act hk hf =>
    exact .inr (.inr ⟨rfl, by simp [gives, hk], hG.act hk hf, G.count_act hk hf⟩)
  | die hk hf =>
    -- the thread takes the semaphore with it
    exact .inr (.inr ⟨rfl, by simp [gives, hk], (hG.die hk hf).symm, rfl⟩)
  | ret hk =>
    exact .inr (.inr ⟨rfl, by simp [gives, hk], (hG.ret hk).symm, rfl⟩)

variable (G held) in
/-- The semaphore, initialised to `n`, against the threads. -/
def Fair (n : ℕ) (s : Crowd σ κ ι) : Prop :=
  Balanced (fun p => p.holds held = true) n (G.count s.shared) s.place

/-- The step lemma. -/
theorem Fair.step (h : G.Fair held n s) (hG : G.Paired held) {a : Turn ω ε ι}
    (hst : G.step s a = some t) : G.Fair held n t := by
  cases a with
  | thread i m =>
    obtain ⟨u, p, hm, rfl⟩ := step_thread_eq_some_iff.1 hst
    rw [Fair]
    obtain ⟨-, -, hp, hp', hc, hcount⟩ | ⟨-, -, hp, hp', hcount⟩ | ⟨-, -, hp, hcount⟩ :=
      hG.holds_of_moves hm <;> rw [hcount]
    · exact h.down hc (by simp [hp]) hp'
    · exact h.up hp (by simp [hp'])
    · exact h.move (by rw [hp])
  | env e =>
    obtain ⟨u, hu, rfl⟩ := step_env_eq_some_iff.1 hst
    rw [Fair, G.count_env hu]
    exact h

theorem Fair.exec (h : G.Fair held n s) (hG : G.Paired held)
    (hst : (G.machine ι s₀).exec s us = some t) : G.Fair held n t :=
  Machine.exec_invariant (I := G.Fair held n) (D := fun _ => True)
    (fun hs _ hst => hs.step hG hst) h (fun _ _ => trivial) hst

/-- The count of the semaphore, and the threads that have it or were killed with it. -/
theorem fair_of_run (hG : G.Paired held) (hrun : (G.machine ι s₀).Run ts s) :
    G.Fair held (G.count s₀) s := by
  have h₀ : G.Fair held (G.count s₀) (G.machine ι s₀).init :=
    Balanced.init fun _ => Bool.false_ne_true
  exact h₀.exec hG (Machine.run_iff_exec.1 hrun)

/-- The turn takes the semaphore for the thread `i`. -/
def downs (i : ι) (_ : Crowd σ κ ι) : Turn ω ε ι → Bool
  | .thread j m => decide (j = i) && m.takes
  | .env _ => false

variable (G) in
/-- The turn gives the semaphore of the thread `i` back. -/
def ups (i : ι) (s : Crowd σ κ ι) : Turn ω ε ι → Bool
  | .thread j m => decide (j = i) && G.gives m (s.place j)
  | .env _ => false

/-- The step lemma for one thread. -/
theorem Paired.holds_of_step (hG : G.Paired held) (i : ι) {a : Turn ω ε ι}
    (hst : G.step s a = some t) :
    ((t.place i).holds held).toNat + (G.ups i s a).toNat =
      ((s.place i).holds held).toNat + (downs i s a).toNat := by
  cases a with
  | thread j m =>
    obtain ⟨u, p, hm, rfl⟩ := step_thread_eq_some_iff.1 hst
    by_cases hji : j = i
    · subst hji
      obtain ⟨ht, hg, hp, hp', -⟩ | ⟨ht, hg, hp, hp', -⟩ | ⟨ht, hg, hp, -⟩ :=
        hG.holds_of_moves hm <;> simp [downs, ups, *]
    · simp [downs, ups, hji, Function.update_of_ne (Ne.symm hji)]
  | env e =>
    obtain ⟨u, -, rfl⟩ := step_env_eq_some_iff.1 hst
    rfl

/-- A thread has given back what it took, but for the one that it has. -/
theorem downs_eq_of_run (hG : G.Paired held) (hrun : (G.machine ι s₀).Run ts s) (i : ι) :
    (G.machine ι s₀).tally (downs i) (G.machine ι s₀).init ts =
      (G.machine ι s₀).tally (G.ups i) (G.machine ι s₀).init ts +
        ((s.place i).holds held).toNat := by
  have h := Machine.tally_balance (f := fun s => ((s.place i).holds held).toNat)
    (fun hst => hG.holds_of_step i hst) (Machine.run_iff_exec.1 hrun)
  have h₀ : (((G.machine ι s₀).init.place i).holds held).toNat = 0 := rfl
  rw [h₀, Nat.zero_add] at h
  rw [← h, Nat.add_comm]

/-! ## An operation alone -/

variable (G) in
/-- The operation, taken statement by statement from `k` with nothing in between, returns
    `v`, and leaves `t`. Its wait for the semaphore may be interrupted. -/
inductive Ends (interrupted : Bool) : κ → σ → ℤ → σ → Prop
  | interrupt {k k₁ k₂ : κ} {s t : σ} {v : ℤ} : interrupted = true → G.code k = .down k₁ k₂ →
      Ends interrupted k₂ s v t → Ends interrupted k s v t
  | down {k k₁ k₂ : κ} {s t : σ} {v : ℤ} : interrupted = false → G.code k = .down k₁ k₂ →
      0 < G.count s → Ends interrupted k₁ (G.setCount (G.count s - 1) s) v t →
      Ends interrupted k s v t
  | up {k k' : κ} {s t : σ} {v : ℤ} : G.code k = .up k' →
      Ends interrupted k' (G.setCount (G.count s + 1) s) v t → Ends interrupted k s v t
  | act {k k' : κ} {f : σ → Option (σ × κ)} {s t u : σ} {v : ℤ} : G.code k = .act f →
      f s = some (u, k') → Ends interrupted k' u v t → Ends interrupted k s v t
  | ret {k : κ} {s : σ} {v : ℤ} : G.code k = .ret v → Ends interrupted k s v s

omit [DecidableEq ι] in
/-- The operation begins with the statement at `k`. -/
theorem ends_iff {interrupted : Bool} {s t : σ} {v : ℤ} : G.Ends interrupted k s v t ↔
    match G.code k with
    | .down k₁ k₂ =>
      (interrupted = true ∧ G.Ends interrupted k₂ s v t) ∨
        (interrupted = false ∧ 0 < G.count s ∧
          G.Ends interrupted k₁ (G.setCount (G.count s - 1) s) v t)
    | .up k' => G.Ends interrupted k' (G.setCount (G.count s + 1) s) v t
    | .act f => ∃ u k', f s = some (u, k') ∧ G.Ends interrupted k' u v t
    | .ret w => v = w ∧ t = s := by
  constructor
  · rintro (⟨hi, hk, h⟩ | ⟨hi, hk, hc, h⟩ | ⟨hk, h⟩ | ⟨hk, hf, h⟩ | hk) <;> rw [hk]
    · exact .inl ⟨hi, h⟩
    · exact .inr ⟨hi, hc, h⟩
    · exact h
    · exact ⟨_, _, hf, h⟩
    · exact ⟨rfl, rfl⟩
  · intro h
    split at h
    · next hk =>
      obtain ⟨hi, h⟩ | ⟨hi, hc, h⟩ := h
      · exact .interrupt hi hk h
      · exact .down hi hk hc h
    · next hk => exact .up hk h
    · next hk =>
      obtain ⟨u, k', hf, h⟩ := h
      exact .act hk hf h
    · next hk =>
      obtain ⟨rfl, rfl⟩ := h
      exact .ret hk

omit [DecidableEq ι] in
/-- An operation that begins with a statement that does something. -/
theorem ends_of_act {interrupted : Bool} {f : σ → Option (σ × κ)} {s t u : σ} {v : ℤ}
    (hk : G.code k = .act f) (hf : f s = some (u, k')) :
    G.Ends interrupted k s v t ↔ G.Ends interrupted k' u v t := by
  rw [ends_iff, hk]
  simp [hf]

omit [DecidableEq ι] in
/-- An operation that begins with a statement that kills the thread. -/
theorem not_ends_of_act {interrupted : Bool} {f : σ → Option (σ × κ)} {s t : σ} {v : ℤ}
    (hk : G.code k = .act f) (hf : f s = none) : ¬G.Ends interrupted k s v t := by
  rw [ends_iff, hk]
  simp [hf]

/-- A thread makes a move. -/
theorem step_of_moves {place : ι → Place κ} {p p' : Place κ} {s t : σ}
    (hm : G.Moves m p p' s t) (hi : place i = p) :
    G.step ⟨s, place⟩ (.thread i m) = some ⟨t, Function.update place i p'⟩ := by
  subst hi
  exact step_thread_eq_some_iff.2 ⟨t, p', hm, rfl⟩

/-- A thread makes one more move before the others. -/
theorem exec_cons_of_moves {place : ι → Place κ} {p p' q : Place κ} {s t u : σ}
    {ms : List (Move ω)} (hm : G.Moves m p p' s t) (hi : place i = p)
    (h : (G.machine ι s₀).exec ⟨t, Function.update place i p'⟩ (ms.map (.thread i)) =
      some ⟨u, Function.update (Function.update place i p') i q⟩) :
    (G.machine ι s₀).exec ⟨s, place⟩ ((m :: ms).map (.thread i)) =
      some ⟨u, Function.update place i q⟩ := by
  rw [List.map_cons, Machine.exec_cons, machine_step, step_of_moves hm hi, Option.bind_some, h,
    Function.update_idem]

/-- A thread takes the rest of its operation, and returns. -/
theorem Ends.exec {interrupted : Bool} {place : ι → Place κ} {s t : σ} {v : ℤ}
    (h : G.Ends interrupted k s v t) (hi : place i = .inside k) :
    ∃ ms : List (Move ω), (G.machine ι s₀).exec ⟨s, place⟩ (ms.map (.thread i)) =
      some ⟨t, Function.update place i .idle⟩ := by
  induction h generalizing place with
  | interrupt _ hk _ ih =>
    obtain ⟨ms, hms⟩ := ih (Function.update_self i _ place)
    exact ⟨_, exec_cons_of_moves (.interrupt hk) hi hms⟩
  | down _ hk hc _ ih =>
    obtain ⟨ms, hms⟩ := ih (Function.update_self i _ place)
    exact ⟨_, exec_cons_of_moves (.down hk hc) hi hms⟩
  | up hk _ ih =>
    obtain ⟨ms, hms⟩ := ih (Function.update_self i _ place)
    exact ⟨_, exec_cons_of_moves (.up hk) hi hms⟩
  | act hk hf _ ih =>
    obtain ⟨ms, hms⟩ := ih (Function.update_self i _ place)
    exact ⟨_, exec_cons_of_moves (.act hk hf) hi hms⟩
  | ret hk =>
    refine ⟨[.next], ?_⟩
    rw [List.map_singleton, Machine.exec_singleton, machine_step, step_of_moves (.ret hk) hi]

/-- A whole call, with nothing in between. -/
theorem Ends.exec_call {interrupted : Bool} {o : ω} {u : σ} {v : ℤ}
    (h : G.Ends interrupted (G.entry o) s.shared v u) (hi : s.place i = .idle) :
    ∃ ms : List (Move ω), (G.machine ι s₀).exec s ((.call o :: ms).map (.thread i)) =
      some ⟨u, s.place⟩ := by
  obtain ⟨ms, hms⟩ : ∃ ms : List (Move ω), (G.machine ι s₀).exec _ (ms.map (.thread i)) = some _ :=
    h.exec (Function.update_self i (.inside (G.entry o)) s.place)
  have hexec := exec_cons_of_moves (.call o) hi hms
  rw [Function.update_eq_self_iff.2 hi.symm] at hexec
  exact ⟨ms, hexec⟩

/-! ## The threads killed -/

/-- A thread that was killed stays so. -/
theorem killed_of_step {a : Turn ω ε ι} (hst : G.step s a = some t)
    (hi : (s.place i).isKilled = true) : (t.place i).isKilled = true := by
  cases a with
  | thread j m =>
    obtain ⟨u, p, hm, rfl⟩ := step_thread_eq_some_iff.1 hst
    by_cases hij : i = j
    · -- a thread that was killed makes no move
      subst hij
      generalize s.place i = q at hm hi
      cases hm <;> cases hi
    · have hother : Function.update s.place j p i = s.place i := Function.update_of_ne hij _ _
      exact (congrArg Place.isKilled hother).trans hi
  | env e =>
    obtain ⟨u, -, rfl⟩ := step_env_eq_some_iff.1 hst
    exact hi

theorem killed_of_exec (hst : (G.machine ι s₀).exec s us = some t)
    (hi : (s.place i).isKilled = true) : (t.place i).isKilled = true :=
  Machine.exec_invariant (D := fun _ => True) (I := fun s => (s.place i).isKilled = true)
    (fun hs _ hst => killed_of_step hst hs) hi (fun _ _ => trivial) hst

/-- The number of threads killed. -/
noncomputable def deaths (s : Crowd σ κ ι) : ℕ∞ := holders (fun p => p.isKilled = true) s.place

theorem deaths_le_of_exec (hst : (G.machine ι s₀).exec s us = some t) : deaths s ≤ deaths t :=
  holders_le_of_imp fun _ hi => killed_of_exec hst hi

omit [DecidableEq ι] in
theorem holds_of_isKilled (p : Place κ) (h : p.isKilled = true) : p.holds held = true := by
  cases p <;> first | rfl | cases h

omit [DecidableEq ι] in
theorem deaths_le (h : G.Fair held n s) : deaths s ≤ n :=
  (holders_mono holds_of_isKilled s.place).trans h.holders_le

omit [DecidableEq ι] in
/-- Unless all those who took the semaphore were killed, it is free, or a thread has it. -/
theorem Fair.exists_free (h : G.Fair held n s) (hd : deaths s ≠ n) :
    0 < G.count s.shared ∨ ∃ i k, s.place i = .inside k ∧ held k = true := by
  rcases Balanced.exists_free h holds_of_isKilled hd with hc | ⟨i, hi, hkilled⟩
  · exact .inl hc
  cases hp : s.place i with
  | idle =>
    rw [hp] at hi
    cases hi
  | inside k =>
    rw [hp] at hi
    exact .inr ⟨i, k, hp, hi⟩
  | killed =>
    rw [hp] at hkilled
    exact absurd rfl hkilled

variable (G) in
/-- The turn kills a thread. -/
def kills (s : Crowd σ κ ι) : Turn ω ε ι → Bool
  | .thread i m => (G.move m (s.place i) s.shared).any fun (_, p) => p.isKilled
  | .env _ => false

omit [DecidableEq ι] in
theorem kills_iff : G.kills s (.thread i m) = true ↔
    m = .next ∧ ∃ k f, s.place i = .inside k ∧ G.code k = .act f ∧ f s.shared = none := by
  rw [kills, Option.any_eq_true]
  constructor
  · rintro ⟨⟨u, p⟩, hm, hp⟩
    have hm := move_eq_some_iff.1 hm
    generalize hq : s.place i = q at hm
    cases hm with
    | die hk hf => exact ⟨rfl, _, _, rfl, hk, hf⟩
    | _ => cases hp
  · rintro ⟨rfl, k, f, hi, hk, hf⟩
    exact ⟨(s.shared, .killed), hi ▸ move_eq_some_iff.2 (.die hk hf), rfl⟩

/-- A turn that kills a thread adds it to those killed, and no other turn adds to them. -/
theorem deaths_of_step {a : Turn ω ε ι} (hst : G.step s a = some t) :
    deaths t = deaths s + ((G.kills s a).toNat : ℕ) := by
  cases a with
  | thread i m =>
    obtain ⟨u, p, hm, rfl⟩ := step_thread_eq_some_iff.1 hst
    have hi : (s.place i).isKilled = false := by
      generalize s.place i = q at hm
      cases hm <;> rfl
    have hkills : G.kills s (.thread i m) = p.isKilled := by
      rw [kills, move_eq_some_iff.2 hm, Option.any_some]
    rw [hkills]
    cases hp : p.isKilled with
    | true => exact holders_enter (by simp [hi]) hp
    | false =>
      rw [deaths, holders_move (by simp [hi, hp]), Bool.toNat_false, Nat.cast_zero, add_zero]
      rfl
  | env e =>
    obtain ⟨u, -, rfl⟩ := step_env_eq_some_iff.1 hst
    exact (add_zero _).symm

theorem deaths_of_exec (hex : (G.machine ι s₀).exec s us = some t) :
    deaths t = deaths s + ((G.machine ι s₀).tally G.kills s us : ℕ) :=
  Machine.tally_of_exec (f := deaths) (fun hst => deaths_of_step hst) hex

/-- The threads killed are those that the turns of the run killed. -/
theorem deaths_of_run (hrun : (G.machine ι s₀).Run ts s) :
    deaths s = ((G.machine ι s₀).tally G.kills (G.machine ι s₀).init ts : ℕ) := by
  have h := deaths_of_exec (Machine.run_iff_exec.1 hrun)
  have h₀ : deaths (G.machine ι s₀).init = 0 :=
    holders_eq_zero_iff.2 fun _ => Bool.false_ne_true
  rwa [h₀, zero_add] at h

/-! ## Who waits gets in -/

variable (G) in
/-- The statement at `k` waits for the semaphore. -/
def Waits (k : κ) : Prop := ∃ k₁ k₂, G.code k = .down k₁ k₂

variable (G) in
/-- The point `k'` can follow `k`. -/
inductive Follows : κ → κ → Prop
  | taken {k k₁ k₂ : κ} : G.code k = .down k₁ k₂ → Follows k k₁
  | interrupted {k k₁ k₂ : κ} : G.code k = .down k₁ k₂ → Follows k k₂
  | up {k k' : κ} : G.code k = .up k' → Follows k k'
  | act {k k' : κ} {f : σ → Option (σ × κ)} {s t : σ} : G.code k = .act f →
      f s = some (t, k') → Follows k k'

omit [DecidableEq ι] in
theorem follows_of_moves {s t : σ} (h : G.Moves m (.inside k) (.inside k') s t) :
    G.Follows k k' := by
  cases h with
  | interrupt hk => exact .interrupted hk
  | down hk => exact .taken hk
  | up hk => exact .up hk
  | act hk hf => exact .act hk hf

/-- Operations that come to their end, and kill nobody while what is shared is `Safe`. It
    stays so, and the environment can make it so. -/
structure Live (G : Gate σ κ ω ε) (Safe : σ → Prop) (left : κ → ℕ) : Prop where
  safe_setCount (n : ℕ) {s : σ} : Safe s → Safe (G.setCount n s)
  safe_act {k k' : κ} {f : σ → Option (σ × κ)} {s t : σ} : G.code k = .act f → Safe s →
    f s = some (t, k') → Safe t
  safe_env {e : ε} {s t : σ} : Safe s → G.env e s = some t → Safe t
  act_ne_none {k : κ} {f : σ → Option (σ × κ)} {s : σ} : G.code k = .act f → Safe s → f s ≠ none
  left_lt {k k' : κ} : G.Follows k k' → left k' < left k
  rescue (s : σ) : ∃ e t, G.env e s = some t ∧ Safe t

namespace Live

variable {Safe : σ → Prop} {left : κ → ℕ}

/-- While what is shared is safe, it stays so, and nobody is killed. -/
theorem safe_of_step (h : G.Live Safe left) (hs : Safe s.shared) {a : Turn ω ε ι}
    (hst : G.step s a = some t) : Safe t.shared ∧ G.kills s a = false := by
  cases a with
  | thread i m =>
    obtain ⟨u, p, hm, rfl⟩ := step_thread_eq_some_iff.1 hst
    rw [kills, move_eq_some_iff.2 hm, Option.any_some]
    generalize s.place i = q at hm
    cases hm with
    | call o => exact ⟨hs, rfl⟩
    | interrupt hk => exact ⟨hs, rfl⟩
    | down hk hc => exact ⟨h.safe_setCount _ hs, rfl⟩
    | up hk => exact ⟨h.safe_setCount _ hs, rfl⟩
    | act hk hf => exact ⟨h.safe_act hk hs hf, rfl⟩
    | die hk hf => exact absurd hf (h.act_ne_none hk hs)
    | ret hk => exact ⟨hs, rfl⟩
  | env e =>
    obtain ⟨u, hu, rfl⟩ := step_env_eq_some_iff.1 hst
    exact ⟨h.safe_env hs hu, rfl⟩

theorem safe_of_exec (h : G.Live Safe left) (hs : Safe s.shared)
    (hex : (G.machine ι s₀).exec s us = some t) : Safe t.shared :=
  Machine.exec_invariant (I := fun s => Safe s.shared) (D := fun _ => True)
    (fun hs _ hst => (h.safe_of_step hs hst).1) hs (fun _ _ => trivial) hex

theorem tally_of_safe (h : G.Live Safe left) (hs : Safe s.shared)
    (hex : (G.machine ι s₀).exec s us = some t) :
    (G.machine ι s₀).tally G.kills s us = 0 :=
  Machine.tally_eq_zero (I := fun s => Safe s.shared) (fun hs hst => h.safe_of_step hs hst) hs hex

omit [DecidableEq ι] in
/-- A thread that has the semaphore has a statement to execute, which gives it back or
    leaves it in hand. -/
theorem exists_moves (h : G.Live Safe left) (hG : G.Paired held) {s : σ} (hs : Safe s)
    (hk : held k = true) : ∃ k' t, G.Moves (.next : Move ω) (.inside k) (.inside k') s t ∧
      G.Follows k k' ∧ (held k' = true ∨ 0 < G.count t) := by
  cases hc : G.code k with
  | down k₁ k₂ => exact absurd hk (by simp [(hG.down hc).1])
  | up k' =>
    refine ⟨k', _, .up hc, .up hc, .inr ?_⟩
    rw [G.count_setCount]
    exact Nat.succ_pos _
  | act f =>
    obtain ⟨⟨t, k'⟩, hf⟩ := Option.ne_none_iff_exists'.1 (h.act_ne_none hc hs)
    exact ⟨k', t, .act hc hf, .act hc hf, .inl ((hG.act hc hf).trans hk)⟩
  | ret v => exact absurd hk (by simp [hG.ret hc])

/-- A thread that has the semaphore gives it back by its own steps. -/
theorem exists_release (h : G.Live Safe left) (hG : G.Paired held) (hs : Safe s.shared)
    (hi : s.place i = .inside k) (hk : held k = true) :
    ∃ us t, (∀ a ∈ us, a = .thread i .next) ∧ (G.machine ι s₀).exec s us = some t ∧
      0 < G.count t.shared ∧ ∀ j, j ≠ i → t.place j = s.place j := by
  induction hl : left k using Nat.strong_induction_on generalizing s k with
  | _ n ih =>
    subst hl
    obtain ⟨k', u, hm, hf, hrel⟩ := h.exists_moves hG hs hk
    let w : Crowd σ κ ι := ⟨u, Function.update s.place i (.inside k')⟩
    have hst : G.step s (.thread i .next) = some w := step_of_moves hm hi
    have hother (j : ι) (hj : j ≠ i) : w.place j = s.place j := Function.update_of_ne hj _ _
    by_cases hc : 0 < G.count u
    · refine ⟨[.thread i .next], w, by simp, ?_, hc, hother⟩
      rw [Machine.exec_singleton, machine_step, hst]
    · -- the thread still has the semaphore, and fewer steps left
      obtain ⟨us, t, hus, hex, hct, hrest⟩ := ih (left k') (h.left_lt hf) (s := w)
        (h.safe_of_step hs hst).1
        (Function.update_self i _ _) (hrel.resolve_right hc) rfl
      refine ⟨.thread i .next :: us, t, by simpa using hus, ?_, hct,
        fun j hj => (hrest j hj).trans (hother j hj)⟩
      rw [Machine.exec_cons, machine_step, hst, Option.bind_some, hex]

/-- While what is shared is safe, who waits gets in by the steps of the others alone, unless
    all those who have the semaphore were killed. -/
theorem servable_of_safe (h : G.Live Safe left) (hG : G.Paired held) (hf : G.Fair held n s)
    (hs : Safe s.shared) (hi : s.place i = .inside k) (hk : G.Waits k) (hd : deaths s ≠ n) :
    ∃ us t, (∀ a ∈ us, ∃ j, a = .thread j .next) ∧ (G.machine ι s₀).exec s us = some t ∧
      (G.step t (.thread i .down)).isSome := by
  obtain ⟨k₁, k₂, hk⟩ := hk
  have hdown {t : Crowd σ κ ι} (hc : 0 < G.count t.shared) (ht : t.place i = .inside k) :
      (G.step t (.thread i .down)).isSome := by
    rw [step, ht, move_eq_some_iff.2 (.down hk hc)]
    rfl
  rcases hf.exists_free hd with hc | ⟨j, k', hj, hk'⟩
  · exact ⟨[], s, by simp, rfl, hdown hc hi⟩
  · -- somebody has the semaphore who was not killed, and gives it back
    have hij : i ≠ j := by
      rintro rfl
      obtain rfl := Place.inside.inj (hi.symm.trans hj)
      simp [(hG.down hk).1] at hk'
    obtain ⟨us, t, hus, hex, hc, hrest⟩ := h.exists_release hG hs hj hk'
    exact ⟨us, t, fun a ha => ⟨j, hus a ha⟩, hex, hdown hc ((hrest i hij).trans hi)⟩

/-- Who waits can get in, one way or another, exactly if some of those who took the
    semaphore were not killed. -/
theorem servable_iff (h : G.Live Safe left) (hG : G.Paired held)
    (hrun : (G.machine ι s₀).Run ts s) (hi : s.place i = .inside k) (hk : G.Waits k) :
    (∃ us t, (G.machine ι s₀).exec s us = some t ∧ (G.step t (.thread i .down)).isSome) ↔
      deaths s ≠ G.count s₀ := by
  have hf := fair_of_run hG hrun
  constructor
  · -- the dead never give the semaphore back
    rintro ⟨us, t, hex, hdown⟩ hd
    obtain ⟨u, hu⟩ := Option.isSome_iff_exists.1 hdown
    obtain ⟨v, p, hm, -⟩ := step_thread_eq_some_iff.1 hu
    have hft := hf.exec hG hex
    have hdt : deaths t = G.count s₀ :=
      le_antisymm (deaths_le hft) (hd ▸ deaths_le_of_exec hex)
    have hzero := hft.count_eq_zero holds_of_isKilled hdt
    generalize t.place i = q at hm
    cases hm with
    | down _ hc => exact absurd hzero hc.ne'
  · -- the environment makes the rest safe first
    intro hd
    obtain ⟨e, u, he, hu⟩ := h.rescue s.shared
    have hst : G.step s (.env e : Turn ω ε ι) = some { s with shared := u } :=
      step_env_eq_some_iff.2 ⟨u, he, rfl⟩
    obtain ⟨us, t, -, hex, hdown⟩ := h.servable_of_safe hG (hf.step hG hst) hu hi hk hd
    refine ⟨.env e :: us, t, ?_, hdown⟩
    rw [Machine.exec_cons, machine_step, hst, Option.bind_some, hex]

end Live

/-! ## Draining -/

/-- The steps that carry on with the calls that have begun. -/
inductive Turn.Inner : Turn ω ε ι → Prop
  | down (i : ι) : Inner (.thread i .down)
  | next (i : ι) : Inner (.thread i .next)

/-- How many steps are left of a call, if so many are `left` before it returns. -/
def Place.cost (left : κ → ℕ) : Place κ → ℕ
  | .inside k => left k + 1
  | _ => 0

omit [DecidableEq ι] in
/-- How many steps are left of all the calls. -/
noncomputable def cost (left : κ → ℕ) (s : Crowd σ κ ι) : ℕ := ∑ᶠ i, (s.place i).cost left

variable (G) in
/-- Whoever is in an operation waits, and all those who took the semaphore were killed. -/
def Through (n : ℕ) (s : Crowd σ κ ι) : Prop :=
  ∀ i k, s.place i = .inside k → G.Waits k ∧ deaths s = n

/-- Only finitely many threads have ever called an operation and are not through. -/
def Finitely (s : Crowd σ κ ι) : Prop := {i | s.place i ≠ .idle}.Finite

theorem Finitely.step (h : Finitely s) {a : Turn ω ε ι} (hst : G.step s a = some t) :
    Finitely t := by
  cases a with
  | thread i m =>
    obtain ⟨u, p, -, rfl⟩ := step_thread_eq_some_iff.1 hst
    refine (h.insert i).subset fun j hj => ?_
    by_cases hji : j = i
    · exact .inl hji
    · exact .inr fun hidle => hj ((Function.update_of_ne hji _ _).trans hidle)
  | env e =>
    obtain ⟨u, -, rfl⟩ := step_env_eq_some_iff.1 hst
    exact h

variable {left : κ → ℕ}

/-- A call that takes a step has one less left. -/
theorem cost_update_lt (h : Finitely s) {p : Place κ} {u : σ}
    (hlt : p.cost left < (s.place i).cost left) :
    cost left ⟨u, Function.update s.place i p⟩ < cost left s := by
  have hfin : (fun j => (s.place j).cost left).support.Finite := by
    refine h.subset fun j hj hidle => hj ?_
    simp only [hidle, Place.cost]
  have hupdate : (fun j => (Function.update s.place i p j).cost left) =
      Function.update (fun j => (s.place j).cost left) i (p.cost left) :=
    Function.comp_update (Place.cost left) s.place i p
  rw [cost, cost, hupdate]
  exact finsum_update_lt hfin hlt

/-- A step of a call leaves less of it. -/
theorem cost_lt_of_inner (hleft : ∀ {k k'}, G.Follows k k' → left k' < left k) (h : Finitely s)
    {a : Turn ω ε ι} (ha : a.Inner) (hst : G.step s a = some t) : cost left t < cost left s := by
  have hmove {m : Move ω} {p p' : Place κ} {s t : σ} (hm : G.Moves m p p' s t)
      (hin : m = .down ∨ m = .next) : p'.cost left < p.cost left := by
    have hinside {k k' : κ} (hf : G.Follows k k') :
        (Place.inside k').cost left < (Place.inside k).cost left :=
      Nat.succ_lt_succ (hleft hf)
    cases hm with
    | call o => rcases hin with hin | hin <;> cases hin
    | interrupt hk => rcases hin with hin | hin <;> cases hin
    | down hk => exact hinside (.taken hk)
    | up hk => exact hinside (.up hk)
    | act hk hf => exact hinside (.act hk hf)
    | die hk hf => exact Nat.succ_pos _
    | ret hk => exact Nat.succ_pos _
  cases ha with
  | down i =>
    obtain ⟨u, p, hm, rfl⟩ := step_thread_eq_some_iff.1 hst
    exact cost_update_lt h (hmove hm (.inl rfl))
  | next i =>
    obtain ⟨u, p, hm, rfl⟩ := step_thread_eq_some_iff.1 hst
    exact cost_update_lt h (hmove hm (.inr rfl))

/-- Whoever is in an operation and does not wait can take a step. -/
theorem isSome_step_next (hi : s.place i = .inside k) (hk : ¬G.Waits k) :
    (G.step s (.thread i .next)).isSome := by
  rw [step, hi, Option.isSome_map, move]
  split
  · next hk' => exact absurd ⟨_, _, hk'⟩ hk
  · rfl
  · split <;> rfl
  · rfl

/-- If the points of the code are numbered downwards, the calls that have begun come to
    their end, whoever takes the steps: there are only so many, and where none is possible,
    nobody is in an operation, but those who wait if all who took the semaphore were
    killed. -/
theorem drains_of_left (hG : G.Paired held)
    (hleft : ∀ {k k'}, G.Follows k k' → left k' < left k) (hrun : (G.machine ι s₀).Run ts s) :
    (G.machine ι s₀).Drains Turn.Inner (G.Through (G.count s₀)) s (cost left s) := by
  have hfin : Finitely s :=
    hrun.invariant (I := Finitely) (by simp [Finitely, machine]) (fun h _ hst => h.step hst)
      Machine.meets_true
  refine Machine.drains_of_cost (I := fun s => G.Fair held (G.count s₀) s ∧ Finitely s) ?_ ?_
    ⟨fair_of_run hG hrun, hfin⟩
  · intro s a t ⟨hf, hfin⟩ ha hst
    exact ⟨⟨hf.step hG hst, hfin.step hst⟩, cost_lt_of_inner hleft hfin ha hst⟩
  · rintro s ⟨hf, -⟩ hdone
    by_contra hstuck
    push Not at hstuck
    -- whoever is in an operation waits, as he could go on otherwise
    have hwaits (i : ι) (k : κ) (hi : s.place i = .inside k) : G.Waits k := by
      by_contra hk
      exact hstuck _ (.next i) (isSome_step_next hi hk)
    refine hdone fun i k hi => ⟨hwaits i k hi, ?_⟩
    -- nobody has the semaphore but those killed, so that it is free unless these are all
    obtain ⟨k₁, k₂, hk⟩ := hwaits i k hi
    by_contra hd
    rcases hf.exists_free hd with hc | ⟨j, k', hj, hk'⟩
    · refine hstuck _ (.down i) ?_
      rw [machine_step, step, hi, move_eq_some_iff.2 (.down hk hc)]
      rfl
    · obtain ⟨_, _, hdown⟩ := hwaits j k' hj
      simp [(hG.down hdown).1] at hk'

/-- If what is shared was safe from the beginning, all the calls that have begun return, and
    give the semaphore back. -/
theorem Live.drains_idle {Safe : σ → Prop} (h : G.Live Safe left) (hG : G.Paired held)
    (hs₀ : Safe s₀) (hn : G.count s₀ ≠ 0) (hrun : (G.machine ι s₀).Run ts s) :
    (G.machine ι s₀).Drains Turn.Inner
      (fun t => G.count t.shared = G.count s₀ ∧ ∀ i, t.place i = .idle) s (cost left s) := by
  refine (drains_of_left hG h.left_lt hrun).mono fun {us t} hex hthrough => ?_
  have ht := hrun.append hex
  have hdeaths : deaths t = 0 := by
    rw [deaths_of_run ht, h.tally_of_safe (s := (G.machine ι s₀).init) hs₀
      (Machine.run_iff_exec.1 ht), Nat.cast_zero]
  have hidle (i : ι) : t.place i = .idle := by
    cases hp : t.place i with
    | idle => rfl
    | inside k =>
      -- nobody was killed, so that nobody waits
      have hn₀ := (hthrough i k hp).2
      rw [hdeaths] at hn₀
      exact absurd (Nat.cast_eq_zero.1 hn₀.symm) hn
    | killed => exact absurd (congrArg Place.isKilled hp) (holders_eq_zero_iff.1 hdeaths i)
  have hfair : G.Fair held (G.count s₀) t := fair_of_run hG ht
  rw [Fair, Semaphore.Balanced, holders_eq_zero_iff.2 fun i => by simp [hidle i, Place.holds],
    add_zero] at hfair
  exact ⟨Nat.cast_inj.1 hfair, hidle⟩

/-! ## Points -/

/-- What holds where the operations begin, and is kept from point to point, holds wherever a
    thread is. -/
theorem forall_inside_of_run {P : κ → Prop} (hentry : ∀ o, P (G.entry o))
    (hfollows : ∀ {k k'}, P k → G.Follows k k' → P k') (hrun : (G.machine ι s₀).Run ts s) :
    ∀ i k, s.place i = .inside k → P k := by
  refine hrun.invariant (I := fun s => ∀ i k, s.place i = .inside k → P k)
    (fun i k h => by cases h) (fun {s a t} hs _ hst i k hi => ?_) Machine.meets_true
  cases a with
  | thread j m =>
    obtain ⟨u, p, hm, rfl⟩ := step_thread_eq_some_iff.1 hst
    by_cases hij : i = j
    · subst hij
      obtain rfl : p = .inside k := (Function.update_self i p s.place).symm.trans hi
      generalize hq : s.place i = q at hm
      cases q with
      | idle =>
        cases hm
        exact hentry _
      | inside k' => exact hfollows (hs i k' hq) (follows_of_moves hm)
      | killed => cases hm
    · exact hs i k ((Function.update_of_ne hij p s.place).symm.trans hi)
  | env e =>
    obtain ⟨u, -, rfl⟩ := step_env_eq_some_iff.1 hst
    exact hs i k hi

end Gate

end Sounder

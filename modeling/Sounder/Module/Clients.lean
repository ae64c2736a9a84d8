import Mathlib.Data.Finset.Basic
import Sounder.Module.Teardown

/-!
# Several clients

Each driver keeps its work queue in one global variable, whatever the number of clients
that it is bound to. A probe that passes its check creates a work queue and stores it
there, or stores null if there is none to be had; the callbacks of every client use what is
stored, and the remove callback destroys it.

So one client is bound at a time, and each work queue is destroyed once, by the remove
callback of its client (`Bindings.Tidy`). A probe that passes its check while another client
is bound overwrites the work queue of that client, which is then lost for good
(`Bindings.Lost`). Hence a driver whose clients are all removed again has used living work
queues only, and has destroyed each of them, exactly if there was no such probe
(`clean_iff`).
-/

namespace Sounder.Module

/-- The work queue of a driver, and the clients that it is bound to. -/
structure Bindings where
  /-- The global variable, if not null. -/
  wq : Option ℕ
  /-- How many work queues were created; they are numbered. -/
  created : ℕ
  /-- The work queues that were not destroyed. -/
  alive : Finset ℕ
  /-- The clients bound. -/
  bound : List Client
  /-- The calls on what the variable holds: whether it was a living work queue. -/
  uses : List Bool

namespace Bindings

variable {ι : Type}

/-- The variable holds a living work queue. -/
def works (s : Bindings) : Bool := s.wq.any fun q => q ∈ s.alive

/-- A call on what the variable holds. -/
def use (s : Bindings) : Bindings := { s with uses := s.uses ++ [s.works] }

/-- A statement of a callback. `cancel_work_sync` needs no work queue. -/
def exec (s : Bindings) : Stmt ι → Bindings
  | .read _ | .write _ | .call (.cancel _) => s
  | .call (.queue _) | .call .flush => s.use
  | .destroy => { s.use with alive := s.wq.elim s.alive s.alive.erase }

/-- `create_singlethread_workqueue`, and the assignment of what it returns. -/
def create (s : Bindings) : Bindings :=
  { s with wq := some s.created, created := s.created + 1, alive := insert s.created s.alive }

/-- The creation of the work queue, where a probe comes to it. -/
def prepare (s : Bindings) : Callback → Bindings
  | .probe .success => s.create
  | .probe .workqueue => { s with wq := none }
  | _ => s

/-- A callback for some client. -/
def run (d : Driver) (s : Bindings) (c : Callback) : Bindings :=
  (d.code.callback c).foldl exec (s.prepare c)

/-- The core calls a callback for a client: a probe if the client is not bound, and another
    callback if it is. -/
def step (d : Driver) (s : Bindings) : Client × Callback → Option Bindings
  | (x, .probe outcome) =>
    if x ∈ s.bound then none
    else
      let t := s.run d (.probe outcome)
      some { t with bound := if outcome = .success then x :: t.bound else t.bound }
  | (x, .remove) =>
    if x ∈ s.bound then some { s.run d .remove with bound := s.bound.erase x } else none
  | (x, c) => if x ∈ s.bound then some (s.run d c) else none

/-- The core removes all the clients. -/
def removeAll (s : Bindings) : List (Client × Callback) := s.bound.map fun x => (x, .remove)

/-- A probe passes its check only while no other client is bound. -/
def Single (s : Bindings) : Client × Callback → Prop
  | (_, .probe .success) | (_, .probe .workqueue) => s.bound = []
  | _ => True

instance (s : Bindings) : DecidablePred s.Single
  | (_, .probe .success) | (_, .probe .workqueue) => inferInstanceAs (Decidable (_ = _))
  | (_, .probe .functionality) | (_, .probe .check) | (_, .suspend) | (_, .resume)
  | (_, .remove) => .isTrue trivial

/-- Only living work queues were used, and none is left. -/
structure Clean (s : Bindings) : Prop where
  uses : ∀ u ∈ s.uses, u = true
  alive : s.alive = ∅

end Bindings

/-- A driver after a load. -/
def bindings (d : Driver) : Machine Bindings (Client × Callback) where
  init := ⟨none, 0, ∅, [], []⟩
  step := Bindings.step d

namespace Bindings

variable {d : Driver} {s t : Bindings}

/-! ## The callbacks -/

theorem run_functionality : s.run d (.probe .functionality) = s := by cases d <;> rfl

theorem run_check : s.run d (.probe .check) = s := by cases d <;> rfl

theorem run_workqueue : s.run d (.probe .workqueue) = { s with wq := none } := by cases d <;> rfl

theorem run_success : s.run d (.probe .success) = s.create.use := by cases d <;> rfl

theorem run_remove :
    s.run d .remove = { s.use with alive := s.wq.elim s.alive s.alive.erase } := by
  cases d <;> rfl

/-- The other callbacks only use the work queue. -/
theorem run_pm {c : Callback} (hc : c = .suspend ∨ c = .resume) :
    ∃ n, s.run d c = { s with uses := s.uses ++ List.replicate n s.works } := by
  cases d with
  | npca110 => rcases hc with rfl | rfl <;> exact ⟨1, rfl⟩
  | ntp8230 =>
    have htwice : s.use.use = { s with uses := s.uses ++ List.replicate 2 s.works } :=
      congrArg (fun uses => { s with uses := uses }) (List.append_assoc _ _ _)
    rcases hc with rfl | rfl <;> exact ⟨2, htwice⟩

/-! ## One client -/

/-- There is no client and no work queue, or one client with the work queue stored, which
    lives; and only living work queues were used. -/
structure Tidy (s : Bindings) : Prop where
  uses : ∀ u ∈ s.uses, u = true
  shape : s.bound = [] ∧ s.alive = ∅ ∨ ∃ x q, s.bound = [x] ∧ s.wq = some q ∧ s.alive = {q}

/-- A work queue lives that is not stored any more. -/
def Lost (s : Bindings) : Prop := ∃ q ∈ s.alive, s.wq ≠ some q

/-- The work queues are numbered in the order of their creation. -/
def Numbered (s : Bindings) : Prop := ∀ q ∈ s.alive, q < s.created

theorem Tidy.not_lost (h : s.Tidy) : ¬s.Lost := by
  rintro ⟨q, hq, hne⟩
  obtain ⟨-, hs⟩ | ⟨-, q', -, hw, hs⟩ := h.shape
  · rw [hs] at hq
    exact absurd hq (Finset.notMem_empty q)
  · rw [hs, Finset.mem_singleton] at hq
    exact hne (hq ▸ hw)

theorem works_of_eq {q : ℕ} (hw : s.wq = some q) (hs : q ∈ s.alive) : s.works = true := by
  simp [works, hw, hs]

theorem uses_append {n : ℕ} {b : Bool} (h : ∀ u ∈ s.uses, u = true) (hb : b = true) :
    ∀ u ∈ s.uses ++ List.replicate n b, u = true := by
  intro u hu
  rcases List.mem_append.1 hu with hu | hu
  · exact h u hu
  · rw [List.eq_of_mem_replicate hu, hb]

/-- What a step does. -/
theorem step_cases {a : Client × Callback} (h : step d s a = some t) :
    (∃ x o, a = (x, .probe o) ∧ (o = .functionality ∨ o = .check) ∧ t = s) ∨
    (∃ x, a = (x, .probe .workqueue) ∧ t = { s with wq := none }) ∨
    (∃ x, a = (x, .probe .success) ∧ t = { s.create.use with bound := x :: s.bound }) ∨
    (∃ x c n, a = (x, c) ∧ (c = .suspend ∨ c = .resume) ∧ x ∈ s.bound ∧
      t = { s with uses := s.uses ++ List.replicate n s.works }) ∨
    ∃ x, a = (x, .remove) ∧ x ∈ s.bound ∧ t =
      { s.use with alive := s.wq.elim s.alive s.alive.erase, bound := s.bound.erase x } := by
  obtain ⟨x, c⟩ := a
  cases c with
  | probe o =>
    simp only [step] at h
    split_ifs at h with hx ho
    · obtain rfl := Option.some_inj.1 h
      subst ho
      exact .inr (.inr (.inl ⟨x, rfl, by rw [run_success]; rfl⟩))
    · obtain rfl := Option.some_inj.1 h
      cases o with
      | functionality => exact .inl ⟨x, _, rfl, .inl rfl, run_functionality⟩
      | check => exact .inl ⟨x, _, rfl, .inr rfl, run_check⟩
      | workqueue => exact .inr (.inl ⟨x, rfl, run_workqueue⟩)
      | success => exact absurd rfl ho
  | suspend =>
    simp only [step] at h
    split_ifs at h with hx
    obtain rfl := Option.some_inj.1 h
    obtain ⟨n, hn⟩ := run_pm (d := d) (s := s) (c := .suspend) (.inl rfl)
    exact .inr (.inr (.inr (.inl ⟨x, _, n, rfl, .inl rfl, hx, hn⟩)))
  | resume =>
    simp only [step] at h
    split_ifs at h with hx
    obtain rfl := Option.some_inj.1 h
    obtain ⟨n, hn⟩ := run_pm (d := d) (s := s) (c := .resume) (.inr rfl)
    exact .inr (.inr (.inr (.inl ⟨x, _, n, rfl, .inr rfl, hx, hn⟩)))
  | remove =>
    simp only [step] at h
    split_ifs at h with hx
    obtain rfl := Option.some_inj.1 h
    exact .inr (.inr (.inr (.inr ⟨x, rfl, hx, by rw [run_remove]⟩)))

/-- The numbers of the work queues are never used again. -/
theorem Numbered.step (hn : s.Numbered) {a : Client × Callback} (h : step d s a = some t) :
    t.Numbered := by
  obtain ⟨x, o, -, -, rfl⟩ | ⟨x, -, rfl⟩ | ⟨x, -, rfl⟩ | ⟨x, c, n, -, -, -, rfl⟩ | ⟨x, -, -, rfl⟩ :=
    step_cases h
  · exact hn
  · exact hn
  · intro q hq
    rcases Finset.mem_insert.1 hq with rfl | hq
    · exact Nat.lt_succ_self _
    · exact Nat.lt_succ_of_lt (hn q hq)
  · exact hn
  · intro q hq
    cases hw : s.wq with
    | none => exact hn q (by simpa [hw] using hq)
    | some q' => exact hn q (Finset.mem_of_mem_erase (by simpa [hw] using hq))

/-- A work queue that is lost stays lost. -/
theorem Lost.step (hl : s.Lost) (hn : s.Numbered) {a : Client × Callback}
    (h : step d s a = some t) : t.Lost := by
  obtain ⟨q, hq, hne⟩ := hl
  obtain ⟨x, o, -, -, rfl⟩ | ⟨x, -, rfl⟩ | ⟨x, -, rfl⟩ | ⟨x, c, n, -, -, -, rfl⟩ | ⟨x, -, -, rfl⟩ :=
    step_cases h
  · exact ⟨q, hq, hne⟩
  · exact ⟨q, hq, nofun⟩
  · exact ⟨q, Finset.mem_insert_of_mem hq, fun he => (hn q hq).ne (Option.some_inj.1 he).symm⟩
  · exact ⟨q, hq, hne⟩
  · refine ⟨q, ?_, hne⟩
    cases hw : s.wq with
    | none => simpa [hw] using hq
    | some q' =>
      have hqq : q ≠ q' := fun he => hne (he ▸ hw)
      simpa [hw, hqq] using hq

/-- A probe that passes its check keeps the order exactly if no other client is bound. -/
theorem Tidy.step (ht : s.Tidy) (hn : s.Numbered) {a : Client × Callback}
    (h : step d s a = some t) : s.Single a ∧ t.Tidy ∨ ¬s.Single a ∧ t.Lost := by
  obtain ⟨hu, hs⟩ := ht
  obtain ⟨x, o, rfl, ho, rfl⟩ | ⟨x, rfl, rfl⟩ | ⟨x, rfl, rfl⟩ | ⟨x, c, n, rfl, hc, hx, rfl⟩ |
    ⟨x, rfl, hx, rfl⟩ := step_cases h
  · refine .inl ⟨?_, hu, hs⟩
    rcases ho with rfl | rfl <;> trivial
  · obtain ⟨hb, ha⟩ | ⟨y, q, hb, hw, ha⟩ := hs
    · exact .inl ⟨hb, hu, .inl ⟨hb, ha⟩⟩
    · -- null takes the place of the work queue of the other client
      refine .inr ⟨by simp [Single, hb], q, ?_, nofun⟩
      simp [ha]
  · have hworks : s.create.works = true := works_of_eq rfl (Finset.mem_insert_self _ _)
    obtain ⟨hb, ha⟩ | ⟨y, q, hb, hw, ha⟩ := hs
    · refine .inl ⟨hb, uses_append (n := 1) hu hworks, .inr ⟨x, s.created, by rw [hb], rfl, ?_⟩⟩
      simp [use, create, ha]
    · -- a new work queue takes the place of that of the other client
      have hq : q ∈ s.alive := by simp [ha]
      refine .inr ⟨by simp [Single, hb], q, Finset.mem_insert_of_mem hq, fun he => ?_⟩
      exact (hn q hq).ne (Option.some_inj.1 he).symm
  · obtain ⟨hb, -⟩ | ⟨y, q, hb, hw, ha⟩ := hs
    · simp [hb] at hx
    · have hworks : s.works = true := works_of_eq hw (by simp [ha])
      refine .inl ⟨?_, uses_append hu hworks, .inr ⟨y, q, hb, hw, ha⟩⟩
      rcases hc with rfl | rfl <;> trivial
  · obtain ⟨hb, -⟩ | ⟨y, q, hb, hw, ha⟩ := hs
    · simp [hb] at hx
    · have hworks : s.works = true := works_of_eq hw (by simp [ha])
      rw [hb, List.mem_singleton] at hx
      subst hx
      exact .inl ⟨trivial, uses_append (n := 1) hu hworks, .inl ⟨by simp [hb], by simp [hw, ha]⟩⟩

/-! ## Runs -/

/-- The driver is in order, or has lost a work queue. -/
def Inv (s : Bindings) : Prop := s.Numbered ∧ (s.Tidy ∨ s.Lost)

theorem inv_init : (bindings d).init.Inv :=
  ⟨fun q hq => absurd hq (Finset.notMem_empty q), .inl ⟨nofun, .inl ⟨rfl, rfl⟩⟩⟩

/-- The step lemma. -/
theorem Inv.step (hi : s.Inv) {a : Client × Callback} (h : step d s a = some t) :
    t.Inv ∧ (t.Tidy ↔ s.Tidy ∧ s.Single a) := by
  obtain ⟨hn, ht | hl⟩ := hi
  · obtain ⟨hs, ht'⟩ | ⟨hs, hl'⟩ := ht.step hn h
    · exact ⟨⟨hn.step h, .inl ht'⟩, iff_of_true ht' ⟨ht, hs⟩⟩
    · exact ⟨⟨hn.step h, .inr hl'⟩, iff_of_false (fun ht' => ht'.not_lost hl') fun hc => hs hc.2⟩
  · have hl' := hl.step hn h
    exact ⟨⟨hn.step h, .inr hl'⟩,
      iff_of_false (fun ht' => ht'.not_lost hl') fun hc => hc.1.not_lost hl⟩

/-- All the clients can be removed, one after the other, and this neither makes nor breaks
    the order. -/
theorem Inv.exists_removeAll (hi : s.Inv) :
    ∃ t, (bindings d).exec s s.removeAll = some t ∧ t.bound = [] ∧ (t.Tidy ↔ s.Tidy) := by
  generalize hb : s.bound = l
  rw [removeAll, hb]
  induction l generalizing s with
  | nil => exact ⟨s, rfl, hb, Iff.rfl⟩
  | cons x l ih =>
    have hst : Bindings.step d s (x, .remove) =
        some { s.run d .remove with bound := s.bound.erase x } := by
      simp only [Bindings.step, hb, List.mem_cons_self, if_true]
    obtain ⟨hi', htidy⟩ := hi.step hst
    obtain ⟨t, ht, hbt, hiff⟩ := ih hi' (by simp [hb])
    refine ⟨t, ?_, hbt, hiff.trans (htidy.trans (and_iff_left trivial))⟩
    rw [List.map_cons, Machine.exec_cons]
    change (Bindings.step d s (x, .remove)).bind _ = _
    rw [hst, Option.bind_some, ht]

/-- A driver without clients is in order exactly if it is clean. -/
theorem clean_iff_tidy (hb : s.bound = []) : s.Clean ↔ s.Tidy := by
  constructor
  · intro hc
    exact ⟨hc.uses, .inl ⟨hb, hc.alive⟩⟩
  · rintro ⟨hu, ⟨-, ha⟩ | ⟨x, q, hx, -⟩⟩
    · exact ⟨hu, ha⟩
    · rw [hb] at hx
      cases hx

end Bindings

variable {d : Driver} {as : List (Client × Callback)} {s : Bindings}

/-- When all the clients are removed after a run, the driver has used living work queues
    only, and has destroyed each of them, exactly if no probe of the run passed its check
    while another client was bound. -/
theorem clean_iff (hrun : (bindings d).Run as s) :
    ∃ t, (bindings d).exec s s.removeAll = some t ∧
      (t.Clean ↔ (bindings d).Meets Bindings.Single as) := by
  have hi : s.Inv := hrun.invariant Bindings.inv_init (fun hi _ hst => (hi.step hst).1)
    Machine.meets_true
  have hmeets : s.Tidy ↔ (bindings d).Meets Bindings.Single as :=
    hrun.iff_meets Bindings.inv_init ⟨nofun, .inl ⟨rfl, rfl⟩⟩ fun hi hst => hi.step hst
  obtain ⟨t, ht, hb, htidy⟩ := hi.exists_removeAll (d := d)
  exact ⟨t, ht, (Bindings.clean_iff_tidy hb).trans (htidy.trans hmeets)⟩

/-- A client is probed and resumed. -/
def firstClient : List (Client × Callback) := [(1, .probe .success), (1, .resume)]

/-- A second client is probed, and finds no memory for its work queue: that of the first one
    is lost. -/
theorem clean_iff_second :
    ∃ s t, (bindings .npca110).Run (firstClient ++ [(2, .probe .workqueue)]) s ∧
      (bindings .npca110).exec s s.removeAll = some t ∧ ¬t.Clean := by
  obtain ⟨r, hr, hbound⟩ := Machine.exists_run_of_map (bindings .npca110) firstClient
    (fun r => r.bound = [1]) (by decide)
  obtain ⟨s, hs⟩ := Machine.exists_run (bindings .npca110)
    (firstClient ++ [(2, .probe .workqueue)]) (by decide)
  obtain ⟨t, ht, hiff⟩ := clean_iff hs
  refine ⟨s, t, hs, ht, fun hc => ?_⟩
  have hsingle : r.bound = [] := (hiff.1 hc).last hr
  rw [of_decide_eq_true hbound] at hsingle
  cases hsingle

end Sounder.Module

import Sounder.Lib.Machine
import Sounder.Ntp8230.Chip

/-!
# Suspend and resume

The amplifier, suspended and resumed, from a successful probe on. A callback of the
power management core makes its calls on the work queue one at a time, the thread of
the queue runs the pending items in between, one whole item at a time, and the flag
may change at any time. The bus does not fail (`Steady`).

Whenever nothing is pending and no callback is in progress, page `0` is selected,
and the registers are known (`converges`):

* after no callback, or a resume, they are the ones of the initialisation;
* after a suspend that found the flag clear, they are these, muted;
* after a suspend that found the flag set, they are what the work items before it
  left: muted, if a suspend found the flag clear and nothing un-muted the amplifier
  since (`MutedSince`), which is possible as a suspend cancels the resume work that
  is still pending (`not_restored`).
-/

namespace Sounder.Ntp8230

open Retry

/-! ## The system -/

/-- The driver, with the callback in progress and what happened before. -/
structure System where
  drv : State
  /-- The calls left of the callback in progress. -/
  calls : List (WorkQueue.Call Work)
  /-- The last callback. -/
  pm : Option Pm
  /-- The items run to their end, in order, with the flag each found. -/
  done : List (Work × Bool)

/-- The actions of the system. -/
inductive Act
  /-- The power management core starts a callback. -/
  | pm (p : Pm)
  /-- The callback in progress makes its next call. -/
  | call
  /-- The work queue thread runs one item. -/
  | work
  /-- The flag changes. -/
  | flag (earInject : Bool)
  deriving DecidableEq

/-- One action: there is one callback at a time. -/
def System.step (s : System) : Act → Option System
  | .pm p => if s.calls = [] then some { s with calls := p.calls, pm := some p } else none
  | .call =>
    match s.calls with
    | [] => none
    | c :: calls =>
      (WorkQueue.call c s.drv.queue).map fun queue =>
        { s with drv := { s.drv with queue := queue }, calls := calls }
  | .work =>
    match s.drv.queue.pending with
    | [] => none
    | w :: _ =>
      (Ntp8230.work s.drv).map fun drv =>
        { s with drv := drv, done := s.done ++ [(w, s.drv.earInject)] }
  | .flag earInject => some { s with drv := { s.drv with earInject := earInject } }

/-- The driver after `ntp8230_i2c_init`. -/
def loaded (results : Stream' ℤ) (pins : Pin → Bool) (earInject : Bool) : State where
  client := none
  wq := false
  queue := .empty
  earInject := earInject
  board := ⟨results, [], pins⟩

/-- The driver after a successful probe: the chip id is the right one. -/
def probed (client : Client) (test : UInt8) (s : State) : State :=
  (probe true client test 0x98 true s).2

/-- The system, from a successful probe on. -/
def machine (client : Client) (test : UInt8) (s : State) : Machine System Act :=
  ⟨⟨probed client test s, [], none, []⟩, System.step⟩

/-! ## What the items leave -/

/-- A suspend work found the flag clear, and only suspend works ran after it. -/
def MutedSince (done : List (Work × Bool)) : Prop :=
  ∃ pre post, done = pre ++ (.suspend, false) :: post ∧ ∀ x ∈ post, x.1 = .suspend

theorem not_mutedSince_nil : ¬MutedSince [] := by
  rintro ⟨pre, post, h, -⟩
  simp at h

theorem mutedSince_concat {done : List (Work × Bool)} {w : Work} {f : Bool} :
    MutedSince (done ++ [(w, f)]) ↔ w = .suspend ∧ (f = false ∨ MutedSince done) := by
  constructor
  · rintro ⟨pre, post, he, hpost⟩
    induction post using List.reverseRecOn with
    | nil =>
      obtain ⟨-, hx⟩ := List.append_inj' he rfl
      obtain ⟨rfl, rfl⟩ := Prod.mk.inj (List.singleton_injective hx)
      exact ⟨rfl, .inl rfl⟩
    | append_singleton post x _ =>
      rw [← List.cons_append, ← List.append_assoc] at he
      obtain ⟨rfl, hx⟩ := List.append_inj' he rfl
      obtain rfl := List.singleton_injective hx
      exact ⟨hpost (w, f) (by simp), .inr ⟨pre, post, rfl, fun x hx => hpost x (by simp [hx])⟩⟩
  · rintro ⟨rfl, rfl | ⟨pre, post, rfl, hpost⟩⟩
    · exact ⟨done, [], rfl, by simp⟩
    · refine ⟨pre, post ++ [(.suspend, f)], by simp, ?_⟩
      simpa [or_imp, forall_and] using hpost

/-- What the registers hold after the items `done`, from the registers `m` on. -/
structure Left (m : Regs) (done : List (Work × Bool)) (regs : Regs) : Prop where
  nothing : done = [] → regs = m
  mutedSince : MutedSince done → regs = muted (initMap m)
  restored : done ≠ [] → ¬MutedSince done → regs = initMap m

/-- The item `w`, run after the items `done`: the first item is never a suspend work. -/
theorem Left.accept {m regs : Regs} {done : List (Work × Bool)} (h : Left m done regs) {w : Work}
    {f : Bool} (hw : done = [] → w ≠ .suspend) :
    ∃ regs', Chip.accept ⟨0, regs⟩ (sends w f).flatten = ⟨0, regs'⟩ ∧
      Left m (done ++ [(w, f)]) regs' := by
  have hregs : regs = m ∨ regs = muted (initMap m) ∨ regs = initMap m := by
    by_cases hd : done = []
    · exact .inl (h.nothing hd)
    · by_cases hm : MutedSince done
      · exact .inr (.inl (h.mutedSince hm))
      · exact .inr (.inr (h.restored hd hm))
  by_cases hws : w = .suspend
  · subst hws
    have hd : done ≠ [] := fun hd => hw hd rfl
    cases f with
    | true =>
      refine ⟨regs, rfl, by simp, fun hm => h.mutedSince ?_, fun _ hm => h.restored hd ?_⟩
      · simpa [mutedSince_concat] using hm
      · simpa [mutedSince_concat] using hm
    | false =>
      refine ⟨muted regs, accept_muteRows regs, by simp, fun _ => ?_, fun _ hm => ?_⟩
      · by_cases hm : MutedSince done
        · rw [h.mutedSince hm, muted_muted]
        · rw [h.restored hd hm]
      · exact absurd (mutedSince_concat.2 ⟨rfl, .inl rfl⟩) hm
  · have hs : (sends w f).flatten = initRows := by
      cases w with
      | suspend => exact absurd rfl hws
      | _ => rfl
    refine ⟨initMap m, ?_, by simp, fun hm => absurd (mutedSince_concat.1 hm).1 hws, fun _ _ => rfl⟩
    rw [hs]
    rcases hregs with rfl | rfl | rfl
    · exact accept_initRows _
    · exact muted_initialised m
    · exact initialised_initialised m

/-! ## The invariant -/

/-- The work of a callback. -/
def Pm.work : Pm → Work
  | .suspend => .suspend
  | .resume => .resume

theorem Pm.eq_of_work {pm : Option Pm} (h : pm.elim .init Pm.work = .suspend) :
    pm = some .suspend := by
  match pm, h with
  | some .suspend, _ => rfl

/-- The item `w` is pending alone, or it was the last to run and nothing is. -/
def LastIs (s : System) (w : Work) : Prop :=
  s.drv.queue.pending = [w] ∨ s.drv.queue.pending = [] ∧ ∃ f, s.done.getLast? = some (w, f)

/-- What the queue holds at each point of the callbacks. -/
structure Shape (s : System) : Prop where
  /-- Nothing is pending, or one item. -/
  pending : s.drv.queue.pending = [] ∨ ∃ w, s.drv.queue.pending = [w]
  /-- The first item is the init work. -/
  first : s.done = [] → s.drv.queue.pending = [.init]
  /-- Between the callbacks, the work of the last one is pending or has run. -/
  idle : s.calls = [] → LastIs s (s.pm.elim .init Pm.work)
  /-- In a callback, its calls are left, or the last two or the last one of them. -/
  busy : s.calls ≠ [] → ∃ p, s.pm = some p ∧
    (s.calls = p.calls ∨ s.calls = [.flush, .queue p.work] ∨
      s.calls = [.queue p.work] ∧ s.drv.queue.pending = [])

/-- What every state of a run satisfies, if the registers held `m` at the probe. -/
structure Inv (client : Client) (m : Regs) (s : System) : Prop where
  client_eq : s.drv.client = some client
  steady : Steady s.drv.board.results
  shape : Shape s
  chip : ∃ regs, Chip.accept ⟨0, m⟩ (accepted s.drv.board.trace) = ⟨0, regs⟩ ∧ Left m s.done regs

variable {client : Client} {m : Regs} {s t : System} {a : Act}

theorem Shape.pm (h : Shape s) (p : Pm) :
    Shape { s with calls := p.calls, pm := some p } where
  pending := h.pending
  first := h.first
  idle hc := by cases p <;> cases hc
  busy _ := ⟨p, rfl, .inl rfl⟩

/-- The work that a callback cancels, that of the other one. -/
def Pm.cancels : Pm → Work
  | .suspend => .resume
  | .resume => .suspend

theorem Pm.cancels_ne_init (p : Pm) : p.cancels ≠ .init := by cases p <;> decide

/-- What the next call of the callback `p` does: the calls left after it, and the queue. -/
inductive CallStep (s : System) (p : Pm) : List (WorkQueue.Call Work) → WorkQueue Work → Prop
  /-- It cancels the work of the other callback. -/
  | cancel : CallStep s p [.flush, .queue p.work] (s.drv.queue.cancelWork p.cancels)
  /-- The flush is done when nothing is pending. -/
  | flush (hnil : s.drv.queue.pending = []) : CallStep s p [.queue p.work] s.drv.queue
  /-- The work of the callback is queued alone. -/
  | queue (hnil : s.drv.queue.pending = []) : CallStep s p [] (s.drv.queue.queueWork p.work)

/-- A callback makes its next call. -/
theorem Shape.callStep (h : Shape s) {c : WorkQueue.Call Work}
    {calls : List (WorkQueue.Call Work)} (hcalls : s.calls = c :: calls) {q : WorkQueue Work}
    (hq : WorkQueue.call c s.drv.queue = some q) :
    ∃ p, s.pm = some p ∧ CallStep s p calls q := by
  obtain ⟨p, hp, hc⟩ := h.busy (by simp [hcalls])
  refine ⟨p, hp, ?_⟩
  rw [hcalls] at hc
  rcases hc with hc | hc | ⟨hc, hnil⟩
  · obtain ⟨rfl, rfl⟩ : c = .cancel p.cancels ∧ calls = [.flush, .queue p.work] := by
      cases p <;> exact List.cons.inj hc
    obtain rfl := Option.some.inj hq
    exact .cancel
  · obtain ⟨rfl, rfl⟩ := List.cons.inj hc
    simp only [WorkQueue.call] at hq
    split_ifs at hq with hnil
    obtain rfl := Option.some.inj hq
    exact .flush hnil
  · obtain ⟨rfl, rfl⟩ := List.cons.inj hc
    obtain rfl := Option.some.inj hq
    exact .queue hnil

/-- A work queued alone. -/
theorem pending_queueWork_of_nil {q : WorkQueue Work} (hnil : q.pending = []) (w : Work) :
    (q.queueWork w).pending = [w] := by
  simp [WorkQueue.queueWork, hnil]

/-- The queue keeps its shape at each call. -/
theorem Shape.call (h : Shape s) {c : WorkQueue.Call Work} {calls : List (WorkQueue.Call Work)}
    (hcalls : s.calls = c :: calls) {q : WorkQueue Work}
    (hq : WorkQueue.call c s.drv.queue = some q) :
    Shape { s with drv := { s.drv with queue := q }, calls := calls } := by
  obtain ⟨p, hp, hstep⟩ := h.callStep hcalls hq
  cases hstep with
  | cancel =>
    -- what is pending stays, but for the work that is cancelled
    refine ⟨?_, fun hd => ?_, fun hc => absurd hc (by simp), fun _ => ⟨p, hp, .inr (.inl rfl)⟩⟩
    · rcases h.pending with hp | ⟨w, hp⟩
      · exact .inl (by simp [WorkQueue.cancelWork, hp])
      · by_cases hw : w = p.cancels
        · exact .inl (by simp [WorkQueue.cancelWork, hp, hw])
        · exact .inr ⟨w, by simp [WorkQueue.cancelWork, hp, hw]⟩
    · simp [WorkQueue.cancelWork, h.first hd, p.cancels_ne_init.symm]
  | flush hnil =>
    exact ⟨h.pending, h.first, fun hc => absurd hc (by simp),
      fun _ => ⟨p, hp, .inr (.inr ⟨rfl, hnil⟩)⟩⟩
  | queue hnil =>
    have hw := pending_queueWork_of_nil hnil p.work
    refine ⟨.inr ⟨_, hw⟩, fun hd => ?_, fun _ => .inl ?_, fun hc => absurd rfl hc⟩
    · exact absurd (hnil.symm.trans (h.first hd)) (by simp)
    · rw [hp]
      exact hw

/-- The only item that is pending runs. -/
theorem Shape.work (h : Shape s) {w : Work} {ws : List Work} (hq : s.drv.queue.pending = w :: ws)
    {drv : State} (hd : drv.queue.pending = ws) :
    Shape { s with drv := drv, done := s.done ++ [(w, s.drv.earInject)] } := by
  obtain rfl : ws = [] := by
    rcases h.pending with hp | ⟨v, hp⟩
    · exact absurd (hp.symm.trans hq) (by simp)
    · exact (List.cons.inj (hp.symm.trans hq)).2.symm
  refine ⟨.inl hd, fun hnil => by simp at hnil, fun hc => .inr ⟨hd, s.drv.earInject, ?_⟩,
    fun hc => ?_⟩
  · rcases h.idle hc with hp | ⟨hp, -⟩
    · obtain rfl : _ = w := (List.cons.inj (hp.symm.trans hq)).1
      exact List.getLast?_concat
    · exact absurd (hp.symm.trans hq) (by simp)
  · obtain ⟨p, hp, hb⟩ := h.busy hc
    exact ⟨p, hp, hb.imp id (Or.imp id fun hb => ⟨hb.1, hd⟩)⟩

theorem Shape.flag (h : Shape s) (f : Bool) :
    Shape { s with drv := { s.drv with earInject := f } } :=
  ⟨h.pending, h.first, h.idle, h.busy⟩

/-- The thread runs the first pending item to its end. -/
theorem System.step_work (hc : s.drv.client = some client) (hst : s.step .work = some t) :
    ∃ w q, s.drv.queue.pending = w :: q.pending ∧
      t = { s with
        drv := { s.drv with
          queue := q, board := s.drv.board.sentEach client (sends w s.drv.earInject) }
        done := s.done ++ [(w, s.drv.earInject)] } := by
  simp only [System.step] at hst
  split at hst
  · cases hst
  · next w ws hpending =>
    obtain ⟨drv, hdrv, rfl⟩ := Option.map_eq_some_iff.1 hst
    obtain ⟨q, hpop, rfl⟩ : ∃ q, s.drv.queue.pop = some (w, q) ∧ q.pending = ws :=
      ⟨⟨ws, (hpending ▸ s.drv.queue.nodup).of_cons⟩, WorkQueue.pop_eq_some_iff.2 hpending, rfl⟩
    have hwork : Ntp8230.work s.drv = execWork w { s.drv with queue := q } := by
      simp [Ntp8230.work, hpop]
    have hdrv' := hdrv.symm.trans (hwork.trans (execWork_of_client hc))
    exact ⟨w, q, hpending, by rw [Option.some_inj.1 hdrv']⟩

/-- The step lemma. -/
theorem Inv.step (h : Inv client m s) (hst : s.step a = some t) : Inv client m t := by
  cases a with
  | pm p =>
    simp only [System.step] at hst
    split_ifs at hst
    rw [← Option.some.inj hst]
    exact ⟨h.client_eq, h.steady, h.shape.pm p, h.chip⟩
  | call =>
    simp only [System.step] at hst
    split at hst
    · cases hst
    · next c calls hcalls =>
      obtain ⟨q, hq, rfl⟩ := Option.map_eq_some_iff.1 hst
      exact ⟨h.client_eq, h.steady, h.shape.call hcalls hq, h.chip⟩
  | flag f =>
    rw [← Option.some.inj hst]
    exact ⟨h.client_eq, h.steady, h.shape.flag f, h.chip⟩
  | work =>
    obtain ⟨w, q, hpending, rfl⟩ := System.step_work h.client_eq hst
    obtain ⟨regs, hregs, hleft⟩ := h.chip
    obtain ⟨regs', hregs', hleft'⟩ := hleft.accept (w := w) (f := s.drv.earInject) fun hd hw => by
      have := (h.shape.first hd).symm.trans hpending
      rw [hw] at this
      cases this
    refine ⟨h.client_eq, h.steady.restEach, h.shape.work hpending rfl, regs', ?_, hleft'⟩
    rw [accepted_sentEach, h.steady.accepted_attemptsEach (Nat.succ_pos 2), Chip.accept_append,
      hregs, hregs']

variable {test : UInt8} {results : Stream' ℤ} {pins : Pin → Bool} {earInject : Bool}
  {as : List Act}

theorem inv_of_run (hr : Steady results)
    (hrun : (machine client test (loaded results pins earInject)).Run as s) : Inv client m s := by
  refine Machine.Run.invariant (C := fun _ _ => True) (I := Inv client m) ?_
    (fun h _ hst => h.step hst) hrun Machine.meets_true
  have hq : (probed client test (loaded results pins earInject)).queue.pending = [.init] := rfl
  exact ⟨rfl, hr.tail.tail, ⟨.inr ⟨_, hq⟩, fun _ => hq, fun _ => .inl hq, fun hc => absurd rfl hc⟩,
    m, rfl, fun _ => rfl, fun h => absurd h not_mutedSince_nil, fun h => absurd rfl h⟩

/-! ## The registers -/

/-- The amplifier, if its registers held `m` at the probe. -/
def System.chip (m : Regs) (s : System) : Chip := Chip.accept ⟨0, m⟩ (accepted s.drv.board.trace)

/-- Nothing is pending, and no callback is in progress. -/
def Quiet (s : System) : Prop := s.drv.queue.pending = [] ∧ s.calls = []

/-- After a suspend that found the flag set, the registers are those of the
    initialisation. -/
def ConvergesToInit (m : Regs) (s : System) : Prop :=
  Quiet s → (s.chip m).page = 0 ∧
    (s.pm ≠ some .suspend → (s.chip m).regs = initMap m) ∧
    (s.pm = some .suspend → ∃ f, s.done.getLast? = some (.suspend, f) ∧
      (f = false → (s.chip m).regs = muted (initMap m)) ∧
      (f = true → (s.chip m).regs = initMap m))

/-- After a suspend that found the flag set, the registers are those of the
    initialisation, unless an earlier suspend work muted the amplifier and no init or
    resume work has run since. -/
def Converges (m : Regs) (s : System) : Prop :=
  Quiet s → (s.chip m).page = 0 ∧
    (s.pm ≠ some .suspend → (s.chip m).regs = initMap m) ∧
    (s.pm = some .suspend → ∃ f, s.done.getLast? = some (.suspend, f) ∧
      (f = false → (s.chip m).regs = muted (initMap m)) ∧
      (f = true → ¬MutedSince s.done → (s.chip m).regs = initMap m) ∧
      (f = true → MutedSince s.done → (s.chip m).regs = muted (initMap m)))

/-- After every run, the registers are known. -/
theorem converges (hr : Steady results)
    (hrun : (machine client test (loaded results pins earInject)).Run as s) (m : Regs) :
    Converges m s := by
  rintro ⟨hq, hcalls⟩
  have h := inv_of_run (m := m) hr hrun
  obtain ⟨regs, hregs, hleft⟩ := h.chip
  have hchip : s.chip m = ⟨0, regs⟩ := hregs
  rw [hchip]
  obtain ⟨f, hlast⟩ : ∃ f, s.done.getLast? = some (s.pm.elim .init Pm.work, f) :=
    (h.shape.idle hcalls).elim (fun hp => absurd (hq.symm.trans hp) (by simp)) And.right
  obtain ⟨done, hdone⟩ := List.getLast?_eq_some_iff.1 hlast
  have hne : s.done ≠ [] := by simp [hdone]
  refine ⟨rfl, fun hpm => ?_, fun hpm => ?_⟩
  · refine hleft.restored hne fun hm => hpm ?_
    rw [hdone, mutedSince_concat] at hm
    exact Pm.eq_of_work hm.1
  · rw [hpm] at hlast hdone
    refine ⟨f, hlast, fun hf => hleft.mutedSince ?_, fun _ => hleft.restored hne,
      fun _ => hleft.mutedSince⟩
    rw [hdone, mutedSince_concat]
    exact ⟨rfl, .inl hf⟩

/-- A run that suspends the amplifier, with the flag clear. -/
theorem converges_suspended :
    ∃ s, (machine 0 0 (loaded (Stream'.const 1) (fun _ => false) false)).Run
      [.work, .pm .suspend, .call, .call, .call, .work] s ∧ Converges (fun _ _ => []) s := by
  obtain ⟨s, hs⟩ := Machine.exists_run
    (machine 0 0 (loaded (Stream'.const 1) (fun _ => false) false))
    [.work, .pm .suspend, .call, .call, .call, .work] (by decide)
  exact ⟨s, hs, converges (steady_const Int.one_nonneg) hs _⟩

/-- A resume between two suspends, of which the second cancels the resume work, and
    finds the flag set. -/
def cancelledResume : List Act :=
  [.work, .pm .suspend, .call, .call, .call, .work, .pm .resume, .call, .call, .call,
    .pm .suspend, .call, .call, .call, .flag true, .work]

/-- The amplifier stays muted, if a suspend that finds the flag set cancels the resume
    work. -/
theorem not_restored :
    ∃ s, (machine 0 0 (loaded (Stream'.const 1) (fun _ => false) false)).Run cancelledResume s ∧
      ¬ConvergesToInit (fun _ _ => []) s := by
  obtain ⟨s, hs, hp⟩ := Machine.exists_run_of_map
    (machine 0 0 (loaded (Stream'.const 1) (fun _ => false) false)) cancelledResume
    (fun s => s.pm = some .suspend ∧ s.drv.queue.pending = [] ∧ s.calls = [] ∧
      s.done = [(.init, false), (.suspend, false), (.suspend, true)]) (by decide)
  obtain ⟨hpm, hq, hcalls, hdone⟩ := of_decide_eq_true hp
  refine ⟨s, hs, fun h => ?_⟩
  obtain ⟨-, -, hsus⟩ := h ⟨hq, hcalls⟩
  obtain ⟨f, hlast, -, hinit⟩ := hsus hpm
  obtain ⟨regs, hregs, hleft⟩ := (inv_of_run (m := fun _ _ => []) (steady_const Int.one_nonneg)
    hs).chip
  have hchip : s.chip (fun _ _ => []) = ⟨0, regs⟩ := hregs
  have hmuted : regs = muted (initMap fun _ _ => []) := hleft.mutedSince
    ⟨[(.init, false)], [(.suspend, true)], hdone, by simp⟩
  have hf : f = true := by
    rw [hdone] at hlast
    exact (Prod.mk.inj (Option.some.inj hlast)).2.symm
  have heq := hinit hf
  rw [hchip, hmuted] at heq
  exact absurd (congrFun (congrFun heq 0) 0x26) (by decide)

end Sounder.Ntp8230

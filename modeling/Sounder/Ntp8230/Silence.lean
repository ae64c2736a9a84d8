import Sounder.Ntp8230.Convergence

/-!
# The amplifier while the device is suspended

From the return of a suspend callback until the next resume callback begins, with the
flag clear, and on a bus without failures.

The callback does not mute the amplifier: it queues the work that does, and returns; and a
further probe that succeeds later on queues an item that un-mutes it (`not_silent`). But
with one probe, nothing that is pending when the callback returns can un-mute the
amplifier, and it is silent from the moment the work of the callback has run
(`silentOnce_of_run`): a suspend callback leaves no other item pending, and only suspend
works are queued before the next resume callback.
-/

namespace Sounder.Ntp8230

open Retry

/-- The registers of page `0` that mute the amplifier hold what mutes it. -/
def Silenced (regs : Regs) : Prop :=
  regs 0 0x26 = [0x07] ∧ regs 0 0x28 = [0x02] ∧ regs 0 0x27 = [0x07]

instance (regs : Regs) : Decidable (Silenced regs) := inferInstanceAs (Decidable (_ ∧ _ ∧ _))

theorem silenced_muted (regs : Regs) : Silenced (muted regs) := ⟨rfl, rfl, rfl⟩

/-- The item `w`, run while page `0` is selected, can end the silence of the amplifier. -/
def CanUnmute (w : Work) : Prop :=
  ∃ f regs, Silenced regs ∧ ¬Silenced (Chip.accept ⟨0, regs⟩ (sends w f).flatten).regs

/-- The init and resume work can un-mute the amplifier, the suspend work cannot. -/
theorem canUnmute_iff {w : Work} : CanUnmute w ↔ w ≠ .suspend := by
  have hinit : ∃ regs, Silenced regs ∧ ¬Silenced (Chip.accept ⟨0, regs⟩ initRows).regs :=
    ⟨muted fun _ _ => [], silenced_muted _, by decide⟩
  cases w with
  | init =>
    obtain ⟨regs, h, hne⟩ := hinit
    exact iff_of_true ⟨false, regs, h, hne⟩ (by decide)
  | resume =>
    obtain ⟨regs, h, hne⟩ := hinit
    exact iff_of_true ⟨false, regs, h, hne⟩ (by decide)
  | suspend =>
    refine iff_of_false ?_ fun h => h rfl
    rintro ⟨f, regs, h, hne⟩
    cases f with
    | true => exact hne h
    | false =>
      have hacc : Chip.accept ⟨0, regs⟩ (sends .suspend false).flatten = ⟨0, muted regs⟩ :=
        accept_muteRows regs
      exact hne (hacc ▸ silenced_muted regs)

/-- The amplifier is silent, and no pending item can un-mute it. -/
def Silent (m : Regs) (s : System) : Prop :=
  Silenced (s.chip m).regs ∧ ∀ w ∈ s.drv.queue.pending, ¬CanUnmute w

/-- No pending item can un-mute the amplifier, and it is silent, unless the suspend work
    that the callback queued before it returned, in the state `u`, is still pending. -/
def SilentOnce (m : Regs) (u s : System) : Prop :=
  (∀ w ∈ s.drv.queue.pending, ¬CanUnmute w) ∧
    (Silenced (s.chip m).regs ∨ s.drv.queue.pending = [.suspend] ∧ s.done = u.done)

/-- An action that neither begins a resume callback nor sets the flag. -/
def Act.KeepsSuspended (a : Act) : Prop := a ≠ .pm .resume ∧ a ≠ .flag true

instance (a : Act) : Decidable a.KeepsSuspended := inferInstanceAs (Decidable (_ ∧ _))

/-- The device is suspended, with the flag clear, since the state `u`. -/
structure Suspended (client : Client) (m : Regs) (u s : System) : Prop where
  inv : Inv client m s
  pm_eq : s.pm = some .suspend
  flag_eq : s.drv.earInject = false
  /-- Only suspend works are pending. -/
  pending : ∀ w ∈ s.drv.queue.pending, w = .suspend
  /-- The first of them is pending, or the amplifier was muted last. -/
  muted : s.drv.queue.pending = [.suspend] ∧ s.done = u.done ∨ MutedSince s.done

variable {client : Client} {m : Regs} {s t u : System} {a : Act}

/-- A suspend callback makes its next call. -/
theorem Suspended.call (h : Suspended client m u s) {c : WorkQueue.Call Work}
    {calls : List (WorkQueue.Call Work)} (hcalls : s.calls = c :: calls) {q : WorkQueue Work}
    (hq : WorkQueue.call c s.drv.queue = some q)
    (hinv : Inv client m { s with drv := { s.drv with queue := q }, calls := calls }) :
    Suspended client m u { s with drv := { s.drv with queue := q }, calls := calls } := by
  obtain ⟨p, hp, hstep⟩ := h.inv.shape.callStep hcalls hq
  obtain rfl : p = .suspend := Option.some_inj.1 (hp.symm.trans h.pm_eq)
  cases hstep with
  | cancel =>
    -- the cancel finds no resume work
    have he : (s.drv.queue.cancelWork .resume).pending = s.drv.queue.pending :=
      List.erase_of_not_mem fun hm => by cases h.pending _ hm
    exact ⟨hinv, h.pm_eq, h.flag_eq, fun w hw => h.pending w (he ▸ hw),
      h.muted.imp_left fun hm => ⟨he.trans hm.1, hm.2⟩⟩
  | flush hnil => exact ⟨hinv, h.pm_eq, h.flag_eq, h.pending, h.muted⟩
  | queue hnil =>
    have hw : (s.drv.queue.queueWork .suspend).pending = [.suspend] :=
      pending_queueWork_of_nil hnil _
    refine ⟨hinv, h.pm_eq, h.flag_eq, ?_, .inr ?_⟩
    · intro w hm
      exact List.mem_singleton.1 (hw ▸ hm)
    · exact h.muted.resolve_left fun hm => absurd (hnil.symm.trans hm.1) (by simp)

/-- The step lemma. -/
theorem Suspended.step (h : Suspended client m u s) (ha : a.KeepsSuspended)
    (hst : s.step a = some t) : Suspended client m u t := by
  have hinv : Inv client m t := h.inv.step hst
  cases a with
  | pm p =>
    cases p with
    | resume => exact absurd rfl ha.1
    | suspend =>
      simp only [System.step] at hst
      split_ifs at hst
      obtain rfl := Option.some.inj hst
      exact ⟨hinv, rfl, h.flag_eq, h.pending, h.muted⟩
  | call =>
    simp only [System.step] at hst
    split at hst
    · cases hst
    · next c calls hcalls =>
      obtain ⟨q, hq, rfl⟩ := Option.map_eq_some_iff.1 hst
      exact h.call hcalls hq hinv
  | flag f =>
    cases f with
    | true => exact absurd rfl ha.2
    | false =>
      obtain rfl := Option.some.inj hst
      exact ⟨hinv, h.pm_eq, rfl, h.pending, h.muted⟩
  | work =>
    -- the item that runs is a suspend work, which finds the flag clear
    obtain ⟨w, q, hpending, rfl⟩ := System.step_work h.inv.client_eq hst
    obtain rfl : w = .suspend := h.pending w (by simp [hpending])
    refine ⟨hinv, h.pm_eq, h.flag_eq, fun w hw => h.pending w (by simp [hpending, hw]), .inr ?_⟩
    rw [mutedSince_concat]
    exact ⟨rfl, .inl h.flag_eq⟩

/-- What a suspended device is like. -/
theorem Suspended.silentOnce (h : Suspended client m u s) : SilentOnce m u s := by
  refine ⟨fun w hw => ?_, h.muted.symm.imp_left fun hm => ?_⟩
  · rw [canUnmute_iff, not_not]
    exact h.pending w hw
  · obtain ⟨regs, hregs, hleft⟩ := h.inv.chip
    have hchip : s.chip m = ⟨0, regs⟩ := hregs
    rw [hchip, hleft.mutedSince hm]
    exact silenced_muted _

/-- The last call of a suspend callback, with the flag clear, leaves the device
    suspended. -/
theorem suspended_of_return (h : Inv client m s) (hst : s.step .call = some t)
    (hcalls : t.calls = []) (hpm : t.pm = some .suspend) (hflag : t.drv.earInject = false) :
    Suspended client m t t := by
  have hinv : Inv client m t := h.step hst
  simp only [System.step] at hst
  split at hst
  · cases hst
  · next c calls hs =>
    obtain ⟨q, hq, rfl⟩ := Option.map_eq_some_iff.1 hst
    obtain ⟨p, hp, hstep⟩ := h.shape.callStep hs hq
    obtain rfl : p = .suspend := Option.some_inj.1 (hp.symm.trans hpm)
    obtain rfl : calls = [] := hcalls
    cases hstep with
    | queue hnil =>
      have hw : (s.drv.queue.queueWork .suspend).pending = [.suspend] :=
        pending_queueWork_of_nil hnil _
      exact ⟨hinv, hpm, hflag, fun w hm => List.mem_singleton.1 (hw ▸ hm), .inl ⟨hw, rfl⟩⟩

variable {test : UInt8} {results : Stream' ℤ} {pins : Pin → Bool} {earInject : Bool}
  {as post : List Act}

/-- The device stays suspended until a resume callback begins or the flag is set. -/
theorem suspended_of_run (hr : Steady results)
    (hu : (machine client test (loaded results pins earInject)).Run (as ++ [.call]) u)
    (hcalls : u.calls = []) (hpm : u.pm = some .suspend) (hflag : u.drv.earInject = false)
    (hs : (machine client test (loaded results pins earInject)).exec u post = some s)
    (hpost : ∀ a ∈ post, a.KeepsSuspended) : Suspended client m u s := by
  obtain ⟨r, hrun, hret⟩ := Machine.run_append_iff.1 hu
  rw [Machine.exec_singleton] at hret
  have h : Suspended client m u u :=
    suspended_of_return (inv_of_run hr hrun) hret hcalls hpm hflag
  exact Machine.exec_invariant (I := Suspended client m u)
    (fun h ha hst => h.step ha hst) h hpost hs

/-- **Silence.** In every run, in the state `u` in which a suspend callback returns with
    the flag clear, and in every state after it until a resume callback begins or the flag
    is set: no pending item can un-mute the amplifier, and it is silent, unless the suspend
    work that the callback queued is still pending. -/
theorem silentOnce_of_run (hr : Steady results)
    (hu : (machine client test (loaded results pins earInject)).Run (as ++ [.call]) u)
    (hcalls : u.calls = []) (hpm : u.pm = some .suspend) (hflag : u.drv.earInject = false)
    (hs : (machine client test (loaded results pins earInject)).exec u post = some s)
    (hpost : ∀ a ∈ post, a.KeepsSuspended) (m : Regs) : SilentOnce m u s :=
  (suspended_of_run hr hu hcalls hpm hflag hs hpost).silentOnce

/-- A suspend callback, with the flag clear, and the suspend work after it. -/
theorem exists_suspend :
    ∃ u s, (machine 0 0 (loaded (Stream'.const 1) (fun _ => false) false)).Run
        ([.work, .pm .suspend, .call, .call] ++ [.call]) u ∧
      u.calls = [] ∧ u.pm = some .suspend ∧ u.drv.earInject = false ∧
      u.done = [(.init, false)] ∧
      (machine 0 0 (loaded (Stream'.const 1) (fun _ => false) false)).exec u [.work] = some s ∧
      s.drv.queue.pending = [] := by
  obtain ⟨u, hu, hp⟩ := Machine.exists_run_of_map
    (machine 0 0 (loaded (Stream'.const 1) (fun _ => false) false))
    ([.work, .pm .suspend, .call, .call] ++ [.call])
    (fun u => u.calls = [] ∧ u.pm = some .suspend ∧ u.drv.earInject = false ∧
      u.done = [(.init, false)] ∧
      ((machine 0 0 (loaded (Stream'.const 1) (fun _ => false) false)).exec u [.work]).any
        fun s => s.drv.queue.pending = [])
    (by decide)
  obtain ⟨hcalls, hpm, hflag, hdone, hany⟩ := of_decide_eq_true hp
  obtain ⟨s, hs, hnil⟩ := (Option.any_eq_true _ _).1 hany
  exact ⟨u, s, hu, hcalls, hpm, hflag, hdone, hs, of_decide_eq_true hnil⟩

theorem silentOnce_suspended :
    ∃ u s, (machine 0 0 (loaded (Stream'.const 1) (fun _ => false) false)).Run
        ([.work, .pm .suspend, .call, .call] ++ [.call]) u ∧
      (machine 0 0 (loaded (Stream'.const 1) (fun _ => false) false)).exec u [.work] = some s ∧
      SilentOnce (fun _ _ => []) u s := by
  obtain ⟨u, s, hu, hcalls, hpm, hflag, -, hs, -⟩ := exists_suspend
  exact ⟨u, s, hu, hs, silentOnce_of_run (steady_const Int.one_nonneg) hu hcalls hpm hflag hs
    (by decide) _⟩

/-- When the callback returns, the amplifier is not muted. It is muted by the suspend work,
    but a further probe that succeeds then leaves an item pending that can un-mute it. -/
theorem not_silent :
    ∃ u s, (machine 0 0 (loaded (Stream'.const 1) (fun _ => false) false)).Run
        ([.work, .pm .suspend, .call, .call] ++ [.call]) u ∧
      u.calls = [] ∧ u.pm = some .suspend ∧ u.drv.earInject = false ∧
      ¬Silent (fun _ _ => []) u ∧
      (machine 0 0 (loaded (Stream'.const 1) (fun _ => false) false)).exec u [.work] = some s ∧
      Silent (fun _ _ => []) s ∧
      ¬SilentOnce (fun _ _ => []) u { s with drv := probed 0 0 s.drv } := by
  obtain ⟨u, s, hu, hcalls, hpm, hflag, hdone, hs, hnil⟩ := exists_suspend
  have hsteady : Steady (Stream'.const (1 : ℤ)) := steady_const Int.one_nonneg
  refine ⟨u, s, hu, hcalls, hpm, hflag, fun h => ?_, hs, ?_, fun h => ?_⟩
  · obtain ⟨regs, hregs, hleft⟩ := (inv_of_run (m := fun _ _ => []) hsteady hu).chip
    have hchip : u.chip (fun _ _ => []) = ⟨0, regs⟩ := hregs
    have hne : ¬MutedSince u.done := by
      rw [hdone, ← List.nil_append [(Work.init, false)], mutedSince_concat]
      exact fun h => absurd h.1 (by decide)
    have hsilenced := h.1
    rw [hchip, hleft.restored (by simp [hdone]) hne] at hsilenced
    exact absurd hsilenced (by decide)
  · have hsusp : Suspended 0 (fun _ _ => []) u s :=
      suspended_of_run hsteady hu hcalls hpm hflag hs (by decide)
    exact ⟨hsusp.silentOnce.2.resolve_right fun h => by simp [hnil] at h, hsusp.silentOnce.1⟩
  · -- the probe has queued the init work
    have hqueue : (probed 0 0 s.drv).queue = s.drv.queue.queueWork .init := rfl
    have hinit : Work.init ∈ (probed 0 0 s.drv).queue.pending :=
      hqueue ▸ WorkQueue.mem_queueWork.2 (.inr rfl)
    exact h.1 .init hinit (canUnmute_iff.2 (by decide))

end Sounder.Ntp8230

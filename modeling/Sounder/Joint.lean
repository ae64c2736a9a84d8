import Sounder.Lib.Simulation
import Sounder.Npca110.Route
import Sounder.Ntp8230.Silence

/-!
# The two drivers together

The codec and the amplifier, each with its driver, its callbacks and its work queue, on
buses without failures. The drivers share the flag `earInject`: the npca110 driver writes
it with each route, and the suspend work of the ntp8230 driver reads it, through
`getEarInjectFlag`, and mutes the amplifier unless AUX2 is selected.

A whole command, callback or work item of the codec is one step, and so is a work item or
one call of a callback of the amplifier. Probes succeed: the amplifier has one, which comes
first.

The system of both is simulated by that of each driver (`simulates_npca110`,
`simulates_ntp8230`), where the amplifier sees the flag change with each action of the
codec. So in every run in which the codec is only configured while AUX1 is selected:
whenever both are at rest, the codec is on the input that the flag says, and after a
suspend that left this input as it was, the amplifier is silent if the codec is on AUX1;
and if it is on AUX2, exactly if an earlier suspend silenced it and nothing un-muted it
since (`restsTogether_of_run`).
-/

namespace Sounder.Joint

open Retry

/-- Both drivers. -/
structure Drivers where
  npca : Npca110.System
  ntp : Ntp8230.System

/-- The actions of the drivers. -/
inductive Act
  | npca (a : Npca110.Act)
  /-- A callback of the amplifier begins. -/
  | pm (p : Ntp8230.Pm)
  /-- The callback of the amplifier in progress makes its next call. -/
  | call
  /-- The work queue thread of the amplifier runs one item. -/
  | work
  deriving DecidableEq

/-- One action: the flag that the amplifier sees is that of the codec. -/
def Drivers.step (s : Drivers) : Act → Option Drivers
  | .npca a => (s.npca.step a).map fun npca =>
      { npca := npca, ntp := { s.ntp with drv.earInject := npca.drv.dev.earInject } }
  | .pm p => (s.ntp.step (.pm p)).map fun ntp => { s with ntp := ntp }
  | .call => (s.ntp.step .call).map fun ntp => { s with ntp := ntp }
  | .work => (s.ntp.step .work).map fun ntp => { s with ntp := ntp }

/-- Both drivers: the codec from the load of its driver on, and the amplifier from a
    successful probe on. -/
def machine (results results' : Stream' ℤ) (pins pins' : Pin → Bool) (client : Client)
    (test : UInt8) : Machine Drivers Act where
  init := ⟨(Npca110.machine results pins).init,
    (Ntp8230.machine client test (Ntp8230.loaded results' pins' false)).init⟩
  step := Drivers.step

/-- The codec is only configured while AUX1 is selected. -/
def ConfiguresOnAux1 (s : Drivers) : Act → Prop
  | .npca a => Npca110.InitWhileClear s.npca a
  | _ => True

instance (s : Drivers) : DecidablePred (ConfiguresOnAux1 s)
  | .npca _ => inferInstanceAs (Decidable (Npca110.InitWhileClear _ _))
  | .pm _ | .call | .work => .isTrue trivial

variable {results results' : Stream' ℤ} {pins pins' : Pin → Bool} {client : Client}
  {test : UInt8} {as : List Act} {s : Drivers}

/-! ## Each driver for itself -/

/-- The codec does what it does alone. -/
theorem simulates_npca110 :
    Machine.Simulates (machine results results' pins pins' client test)
      (Npca110.machine results pins) ConfiguresOnAux1 Npca110.InitWhileClear
      fun s t => t = s.npca where
  init := rfl
  step {s s' t a} hR hC hst := by
    subst hR
    cases a with
    | npca a =>
      obtain ⟨npca, hn, rfl⟩ := Option.map_eq_some_iff.1 hst
      refine ⟨[a], npca, ?_, ⟨hC, ?_⟩, rfl⟩
      · rw [Machine.exec_singleton]
        exact hn
      · split <;> trivial
    | _ =>
      obtain ⟨ntp, -, rfl⟩ := Option.map_eq_some_iff.1 hst
      exact ⟨[], _, rfl, trivial, rfl⟩

/-- An action of the amplifier leaves the flag, but for one that sets it. -/
theorem earInject_of_step {s t : Ntp8230.System} {a : Ntp8230.Act} (hst : s.step a = some t)
    (ha : ∀ f, a ≠ .flag f) : t.drv.earInject = s.drv.earInject := by
  cases a with
  | pm p =>
    simp only [Ntp8230.System.step] at hst
    split_ifs at hst
    exact Option.some.inj hst ▸ rfl
  | call =>
    simp only [Ntp8230.System.step] at hst
    split at hst
    · cases hst
    · obtain ⟨q, -, rfl⟩ := Option.map_eq_some_iff.1 hst
      rfl
  | work =>
    simp only [Ntp8230.System.step] at hst
    split at hst
    · cases hst
    · obtain ⟨drv, hdrv, rfl⟩ := Option.map_eq_some_iff.1 hst
      obtain ⟨w, q, -, hex⟩ := Ntp8230.work_eq_some_iff.1 hdrv
      exact (Ntp8230.execWork_frame hex).2.2.2
  | flag f => exact absurd rfl (ha f)

/-- The amplifier does what it does alone, while the flag changes with the codec. -/
theorem simulates_ntp8230 :
    Machine.Simulates (machine results results' pins pins' client test)
      (Ntp8230.machine client test (Ntp8230.loaded results' pins' false))
      (fun _ _ => True) (fun _ _ => True)
      fun s t => t = s.ntp ∧ s.ntp.drv.earInject = s.npca.drv.dev.earInject where
  init := ⟨rfl, rfl⟩
  step {s s' t a} hR _ hst := by
    obtain ⟨rfl, hflag⟩ := hR
    -- an action of the amplifier
    have hown {b : Ntp8230.Act} {ntp : Ntp8230.System} (hn : s.ntp.step b = some ntp)
        (hb : ∀ f, b ≠ .flag f) : ∃ bs t',
        (Ntp8230.machine client test (Ntp8230.loaded results' pins' false)).exec s.ntp bs =
          some t' ∧
        (Ntp8230.machine client test (Ntp8230.loaded results' pins' false)).Along
          (fun _ _ => True) s.ntp bs ∧
        t' = ntp ∧ ntp.drv.earInject = s.npca.drv.dev.earInject := by
      refine ⟨[b], ntp, ?_, ⟨trivial, ?_⟩, rfl, (earInject_of_step hn hb).trans hflag⟩
      · rw [Machine.exec_singleton]
        exact hn
      · split <;> trivial
    cases a with
    | npca a =>
      -- for the amplifier, the codec sets the flag, maybe to what it is
      obtain ⟨npca, -, rfl⟩ := Option.map_eq_some_iff.1 hst
      refine ⟨[.flag npca.drv.dev.earInject], _, ?_, ⟨trivial, ?_⟩, rfl, rfl⟩
      · rw [Machine.exec_singleton]
        rfl
      · split <;> trivial
    | pm p =>
      obtain ⟨ntp, hn, rfl⟩ := Option.map_eq_some_iff.1 hst
      exact hown hn nofun
    | call =>
      obtain ⟨ntp, hn, rfl⟩ := Option.map_eq_some_iff.1 hst
      exact hown hn nofun
    | work =>
      obtain ⟨ntp, hn, rfl⟩ := Option.map_eq_some_iff.1 hst
      exact hown hn nofun

/-! ## The amplifier at rest -/

section

open Ntp8230

variable {m : Regs} {t : Ntp8230.System}

/-- The registers of the amplifier at rest. -/
theorem regs_of_quiet (h : Inv client m t) (hq : Quiet t) :
    (MutedSince t.done → (t.chip m).regs = muted (initMap m)) ∧
      (¬MutedSince t.done → (t.chip m).regs = initMap m) := by
  obtain ⟨regs, hregs, hleft⟩ := h.chip
  have hchip : t.chip m = ⟨0, regs⟩ := hregs
  have hdone : t.done ≠ [] := fun hd => by
    have := h.shape.first hd
    rw [hq.1] at this
    cases this
  rw [hchip]
  exact ⟨hleft.mutedSince, hleft.restored hdone⟩

/-- The initialisation leaves the amplifier switched on. -/
theorem not_silenced_initMap (m : Regs) : ¬Silenced (initMap m) := by
  intro h
  have h26 : initMap m 0 0x26 = [0x00] := rfl
  exact absurd (h26.symm.trans h.1) (by decide)

/-- At rest, the amplifier is silent exactly if a suspend work silenced it, and nothing
    un-muted it since. -/
theorem silenced_iff (h : Inv client m t) (hq : Quiet t) :
    Silenced (t.chip m).regs ↔ MutedSince t.done := by
  by_cases hm : MutedSince t.done
  · rw [(regs_of_quiet h hq).1 hm]
    exact iff_of_true (silenced_muted _) hm
  · rw [(regs_of_quiet h hq).2 hm]
    exact iff_of_false (not_silenced_initMap m) hm

/-- At rest after the boot or a resume, nothing has silenced the amplifier. -/
theorem not_mutedSince_of_awake (h : Inv client m t) (hq : Quiet t)
    (hpm : t.pm ≠ some .suspend) : ¬MutedSince t.done := by
  obtain ⟨f, hlast⟩ : ∃ f, t.done.getLast? = some (t.pm.elim .init Pm.work, f) :=
    (h.shape.idle hq.2).elim (fun hp => absurd (hq.1.symm.trans hp) (by simp)) And.right
  obtain ⟨done, hdone⟩ := List.getLast?_eq_some_iff.1 hlast
  rw [hdone, mutedSince_concat]
  exact fun hm => hpm (Pm.eq_of_work hm.1)

end

/-! ## Both at rest -/

/-- Both drivers are at rest, and the codec has been configured or switched. -/
structure AtRest (s : Drivers) : Prop where
  pending : s.npca.drv.queue.pending = []
  done : s.npca.done ≠ []
  quiet : Ntp8230.Quiet s.ntp

/-- The input that the codec is on: AUX2 or not. -/
def OnInput (s : Drivers) (aux2 : Bool) : Prop :=
  (Npca110.chip s.npca.drv.board.trace).state.route = some (Npca110.routeOf aux2)

/-- The last callback of the amplifier was a suspend, and its work found the flag as it is
    now. -/
def SuspendedOn (s : Drivers) (aux2 : Bool) : Prop :=
  s.ntp.pm = some .suspend ∧ s.ntp.done.getLast? = some (.suspend, aux2)

/-- **The drivers together.** In every run in which the codec is only configured while AUX1
    is selected, both drivers at rest: the codec is on the input that the flag says, and the
    amplifier reads the same flag; the amplifier is switched on unless it was suspended last;
    and if it was, with the input that is selected now, it is silent exactly if this is AUX1,
    or an earlier suspend silenced it and nothing un-muted it since. -/
theorem restsTogether_of_run (hr : Steady results) (hr' : Steady results')
    (hrun : (machine results results' pins pins' client test).Run as s)
    (hm : (machine results results' pins pins' client test).Meets ConfiguresOnAux1 as)
    (hrest : AtRest s) (m : Ntp8230.Regs) :
    OnInput s s.npca.drv.dev.earInject ∧
      s.ntp.drv.earInject = s.npca.drv.dev.earInject ∧
      (s.ntp.pm ≠ some .suspend → ¬Ntp8230.Silenced (s.ntp.chip m).regs) ∧
      (SuspendedOn s s.npca.drv.dev.earInject → (Ntp8230.Silenced (s.ntp.chip m).regs ↔
        s.npca.drv.dev.earInject = false ∨ Ntp8230.MutedSince s.ntp.done.dropLast)) := by
  -- the run of each driver alone
  obtain ⟨bs, _, hbs, hD, rfl⟩ := simulates_npca110.run hrun hm
  obtain ⟨cs, _, hcs, -, rfl, hflag⟩ := simulates_ntp8230.run hrun Machine.meets_true
  have hinv : Ntp8230.Inv client m s.ntp := Ntp8230.inv_of_run hr' hcs
  have hsil := silenced_iff hinv hrest.quiet
  refine ⟨?_, hflag, fun hpm => ?_, fun ⟨hpm, hlast⟩ => ?_⟩
  · exact Npca110.good_of_run Npca110.stable_onRoute hr
      (fun _ _ hc => ⟨hc, .inr Npca110.keptByReset_onRoute⟩) hbs hD hrest.done
      (by simp [hrest.pending])
  · rw [hsil]
    exact not_mutedSince_of_awake hinv hrest.quiet hpm
  · obtain ⟨done, hdone⟩ := List.getLast?_eq_some_iff.1 hlast
    rw [hsil, hdone, Ntp8230.mutedSince_concat, List.dropLast_concat, and_iff_right rfl]

/-- AUX2, with the codec and the amplifier suspended: the amplifier plays on. -/
def ridesRun : List Act :=
  [.npca (.probe 7), .npca .work, .work, .npca (.ioctl false Npca110.aux1ToAux2), .npca .suspend,
    .pm .suspend, .call, .call, .call, .work]

theorem restsTogether_of_run_rides :
    ∃ s, (machine (Stream'.const 1) (Stream'.const 1) (fun _ => false) (fun _ => false) 8 0).Run
        ridesRun s ∧
      OnInput s true ∧ s.ntp.drv.earInject = true ∧ SuspendedOn s true ∧
      ¬Ntp8230.Silenced (s.ntp.chip fun _ _ => []).regs := by
  obtain ⟨s, hs, hp⟩ := Machine.exists_run_of_map
    (machine (Stream'.const 1) (Stream'.const 1) (fun _ => false) (fun _ => false) 8 0) ridesRun
    (fun s => s.npca.drv.queue.pending = [] ∧ s.npca.done ≠ [] ∧ s.ntp.drv.queue.pending = [] ∧
      s.ntp.calls = [] ∧ s.npca.drv.dev.earInject = true ∧ s.ntp.pm = some .suspend ∧
      s.ntp.done = [(.init, false), (.suspend, true)]) (by decide +kernel)
  obtain ⟨hq, hdone, hq', hcalls, hflag, hpm, hitems⟩ := of_decide_eq_true hp
  have hsus : SuspendedOn s true := ⟨hpm, by rw [hitems]; rfl⟩
  have hnever : ¬Ntp8230.MutedSince s.ntp.done.dropLast := by
    have hinit : s.ntp.done.dropLast = [] ++ [(.init, false)] := by rw [hitems]; rfl
    rw [hinit, Ntp8230.mutedSince_concat]
    exact fun h => absurd h.1 (by decide)
  obtain ⟨hon, hread, -, hiff⟩ := restsTogether_of_run (steady_const Int.one_nonneg)
    (steady_const Int.one_nonneg) hs (Machine.meets_of_along (by decide +kernel))
    ⟨hq, hdone, hq', hcalls⟩ fun _ _ => []
  rw [hflag] at hon hread hiff
  refine ⟨s, hs, hon, hread, hsus, fun h => ?_⟩
  exact ((hiff hsus).1 h).elim (fun h => by cases h) hnever

end Sounder.Joint

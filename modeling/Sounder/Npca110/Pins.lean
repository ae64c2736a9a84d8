import Sounder.Npca110.System

/-!
# The pins

The levels of the pins over whole runs of the driver, whose actions are whole calls and
whole work items, and whose probes succeed. What an action does to a pin is to leave it, or
to leave it high (`raises`): `npca110_ioctl` drives `ps_pin` high with the command that
selects AUX2, and `npca110_suspend` drives `ps_pin` and `pa_pin` high if it finds the flag
set; nothing drives them low again, as the statements that would are not compiled. The
resume work drives `rs_pin` low, and high again before it ends.

So a pin is low at the end of a run exactly if it was low when the driver was loaded, and
no action raised it (`pins_eq_false_iff`).
-/

namespace Sounder.Npca110

open Retry

/-- The action leaves the pin high. -/
def System.raises (s : System) (pin : Pin) : Act → Bool
  | .ioctl interrupted cmd => pin == .ps && !interrupted && cmd == aux1ToAux2
  | .suspend => (pin == .ps || pin == .pa) && s.drv.dev.earInject
  | .work => pin == .rs && s.drv.queue.pending.head? == some .sure
  | .probe _ | .resume => false

/-! ## The operations -/

variable {pin : Pin} {s t : State}

theorem pins_initEvents (h : initEvents s = some t) : t.board.pins = s.board.pins := by
  obtain ⟨client, -, rfl⟩ := initEvents_eq_some_iff.1 h
  exact pins_sendCmd _ _ _

theorem pins_suspendResume (h : suspendResume s = some t) :
    t.board.pins pin = (s.board.pins pin || pin == .rs) := by
  obtain ⟨client, -, rfl⟩ := suspendResume_eq_some_iff.1 h
  rw [pins_sendCmd]
  cases pin <;> simp [resetPulse]

theorem pins_ioctl {interrupted : Bool} {cmd : UInt32} {ret : ℤ}
    (h : ioctl interrupted cmd s = some (ret, t)) :
    t.board.pins pin = (s.board.pins pin || pin == .ps && !interrupted && cmd == aux1ToAux2) := by
  obtain ⟨rfl, -, rfl⟩ | ⟨rfl, -, -, u, hu, rfl⟩ := ioctl_eq_some_iff.1 h
  · simp
  obtain ⟨rfl, _, -, rfl⟩ | ⟨rfl, _, -, rfl⟩ | ⟨h0, -, rfl⟩ := ioctlSwitch_eq_some_iff.1 hu
  · cases pin <;> simp
  · simp [aux1ToAux2, aux2ToAux1]
  · simp [h0]

theorem pins_probe (functionality : Bool) (client : Client) (reply : List UInt8)
    (wqCreated : Bool) (s : State) :
    (probe functionality client reply wqCreated s).2.board.pins = s.board.pins := by
  cases functionality
  · rfl
  · have hcheck : (i2cCheck client reply s.board).2.pins = s.board.pins := by
      simp only [i2cCheck, i2cRead, Board.i2cExchange]
      split_ifs <;> rfl
    by_cases hret : (i2cCheck client reply s.board).1 = 1 <;> cases wqCreated <;>
      simp [probe, hret, hcheck]

theorem pins_suspendPins (earInject : Bool) (b : Board) :
    (suspendPins earInject b).pins pin =
      (b.pins pin || (pin == .ps || pin == .pa) && earInject) := by
  cases earInject <;> cases pin <;> simp [suspendPins]

/-- The flush runs the init work at most, which leaves the pins. -/
theorem pins_suspend (h : suspend s = some t) :
    t.board.pins = (suspendPins s.dev.earInject s.board).pins := by
  obtain ⟨-, hrun⟩ := suspend_eq_some_iff.1 h
  refine WorkQueue.runAll_induct
    (I := fun u => u.board.pins = (suspendPins s.dev.earInject s.board).pins)
    (fun w hw u v hu hex => ?_) rfl hrun
  obtain ⟨hne, -⟩ := WorkQueue.mem_cancelWork.1 hw
  cases w with
  | init => exact (pins_initEvents hex).trans hu
  | sure => exact absurd rfl hne

/-! ## Runs -/

variable {results : Stream' ℤ} {pins : Pin → Bool} {as : List Act}

/-- The step lemma. -/
theorem pins_of_step {s t : System} {a : Act} (hst : s.step a = some t) (pin : Pin) :
    t.drv.board.pins pin = (s.drv.board.pins pin || s.raises pin a) := by
  cases a with
  | probe client =>
    simp only [System.step] at hst
    split_ifs at hst
    rw [← Option.some.inj hst]
    change (probe true client _ true s.drv).2.board.pins pin = _
    rw [pins_probe, System.raises, Bool.or_false]
  | ioctl interrupted cmd =>
    simp only [System.step] at hst
    split_ifs at hst
    obtain ⟨⟨ret, drv⟩, hdrv, rfl⟩ := Option.map_eq_some_iff.1 hst
    exact pins_ioctl hdrv
  | suspend =>
    obtain ⟨drv, hdrv, rfl⟩ := Option.map_eq_some_iff.1 hst
    rw [pins_suspend hdrv, pins_suspendPins, System.raises]
  | resume =>
    obtain ⟨drv, hdrv, rfl⟩ := Option.map_eq_some_iff.1 hst
    obtain ⟨-, rfl⟩ := resume_eq_some_iff.1 hdrv
    exact (Bool.or_false _).symm
  | work =>
    obtain ⟨drv, hdrv, rfl⟩ := Option.map_eq_some_iff.1 hst
    obtain ⟨w, q, hpop, hex⟩ := work_eq_some_iff.1 hdrv
    have hp := WorkQueue.pop_eq_some_iff.1 hpop
    cases w with
    | init =>
      rw [pins_initEvents hex]
      simp [System.raises, hp]
    | sure =>
      rw [pins_suspendResume hex]
      simp [System.raises, hp]

/-- A pin is low exactly if it was low at first, and no action raised it. -/
theorem pins_eq_false_iff {s : System} (hrun : (machine results pins).Run as s) (pin : Pin) :
    s.drv.board.pins pin = false ↔ pins pin = false ∧
      (machine results pins).Meets (fun s a => s.raises pin a = false) as := by
  by_cases hpin : pins pin = false
  · rw [and_iff_right hpin]
    refine hrun.iff_meets (I := fun _ => True) (P := fun s => s.drv.board.pins pin = false)
      trivial hpin fun {s a t} _ hst => ⟨trivial, ?_⟩
    rw [pins_of_step hst, Bool.or_eq_false_iff]
  · refine iff_of_false (fun hlow => ?_) fun h => hpin h.1
    -- a pin that is high stays so
    have hhigh : s.drv.board.pins pin = true :=
      Machine.Run.invariant (I := fun s => s.drv.board.pins pin = true) (C := fun _ _ => True)
        (by simpa [machine, loaded] using hpin)
        (fun hs _ hst => by rw [pins_of_step hst, hs, Bool.true_or]) hrun Machine.meets_true
    exact absurd (hhigh.symm.trans hlow) (by decide)

/-- AUX2, a suspend, AUX1: both pins stay high. -/
theorem pins_eq_false_iff_aux1 :
    ∃ s, (machine (Stream'.const 1) fun _ => false).Run
        [.probe 7, .ioctl false aux1ToAux2, .suspend, .ioctl false aux2ToAux1] s ∧
      s.drv.board.pins .ps ≠ false := by
  obtain ⟨s, hs⟩ := Machine.exists_run (machine (Stream'.const 1) fun _ => false)
    [.probe 7, .ioctl false aux1ToAux2, .suspend, .ioctl false aux2ToAux1] (by decide +kernel)
  refine ⟨s, hs, fun hlow => ?_⟩
  obtain ⟨t, ht⟩ := Machine.exists_run (machine (Stream'.const 1) fun _ => false) [.probe 7]
    (by decide +kernel)
  have h := ((pins_eq_false_iff hs .ps).1 hlow).2 [.probe 7] (.ioctl false aux1ToAux2)
    [.suspend, .ioctl false aux2ToAux1] t rfl ht
  simp [System.raises] at h

end Sounder.Npca110

import Mathlib.Data.List.DropRight
import Sounder.Npca110.System

/-!
# The configuration

Whether the chip is fully configured, whenever nothing is pending and the init work
has completed: what it accepted since `rs_pin` was last low contains the whole
configuration, and the last route command from there on is the one of the flag
`earInject`.

It is not in every run (`not_configured`). A reset clears the chip, but the resume
work only sends a route table after it, and nothing sends the configuration again.
The configuration itself routes AUX1, without a look at the flag. In every run in
which the resume work is only run before the init work, and the init work only
while the flag is clear, the chip is fully configured (`configured_of_run`).
-/

namespace Sounder.Npca110

open Retry

/-- The part of a trace since `rs_pin` was last driven low. -/
def sinceReset (t : List Event) : List Event := t.rtakeWhile fun e => e ≠ .gpio .rs false

theorem sinceReset_append (t : List Event) {ev : List Event} (h : .gpio .rs false ∉ ev) :
    sinceReset (t ++ ev) = sinceReset t ++ ev := by
  induction ev using List.reverseRecOn with
  | nil => simp
  | append_singleton ev e ih =>
    rw [List.mem_append, List.mem_singleton, not_or] at h
    rw [← List.append_assoc, sinceReset,
      List.rtakeWhile_concat_pos _ _ _ (by simpa using Ne.symm h.2), ← List.append_assoc,
      ← ih h.1, sinceReset]

/-- A reset leaves nothing of the trace before it. -/
theorem sinceReset_pulse (t : List Event) : sinceReset (t ++ pulse) = [.gpio .rs true] := by
  rw [pulse, List.append_cons, sinceReset_append _ (by simp), sinceReset,
    List.rtakeWhile_concat_neg _ _ _ (by simp), List.nil_append]

/-- The words `ws` contain the whole configuration, and the last route command from
    there on is the one of `earInject`. -/
def ConfiguredBy (ws : List Word) (earInject : Bool) : Prop :=
  ∃ pre post, ws = pre ++ words maxxAudioCmdMusic1Full ++ post ∧
    (Chip.fresh.accept (words maxxAudioCmdMusic1Full ++ post)).state.route =
      some (routeOf earInject)

/-- The chip is fully configured since the last reset, when nothing is pending and
    the init work has completed. -/
def Configured (s : System) : Prop :=
  s.drv.queue.pending = [] → .item .init ∈ s.done →
    ConfiguredBy (accepted (sinceReset s.drv.board.trace)) s.drv.dev.earInject

/-- The chip is fully configured since the last reset, and at the end of a frame. -/
def OnConfiguration (t : List Event) (f : Bool) : Prop :=
  ∃ pre post, accepted (sinceReset t) = pre ++ words maxxAudioCmdMusic1Full ++ post ∧
    (Chip.fresh.accept (words maxxAudioCmdMusic1Full ++ post)).Settled ∧
    (Chip.fresh.accept (words maxxAudioCmdMusic1Full ++ post)).state.route = some (routeOf f)

theorem Sends.accepted_sinceReset {ev : List Event} {ws : List Word} (h : Sends ev ws)
    (t : List Event) : accepted (sinceReset (t ++ ev)) = accepted (sinceReset t) ++ ws := by
  rw [sinceReset_append t h.noReset, accepted_append, h.accepted_eq]

theorem stable_onConfiguration : Stable OnConfiguration where
  quiet hg hs := by
    rwa [OnConfiguration, hs.accepted_sinceReset, List.append_nil]
  switch {t ev f g} _ hg hs := by
    obtain ⟨pre, post, hacc, hset, -⟩ := hg
    refine ⟨pre, post ++ words (adcWay g), ?_, ?_⟩
    · rw [hs.accepted_sinceReset, hacc, List.append_assoc _ post]
    · rw [← List.append_assoc, Chip.accept, Receiver.feedAll_append]
      exact feed_adcWay hset g
  init {t ev} _ hs := by
    refine ⟨accepted (sinceReset t), [], ?_, ?_⟩
    · rw [hs.accepted_sinceReset, List.append_nil]
    · rw [List.append_nil]
      exact feed_maxxAudioCmdMusic1Full Chip.settled_fresh

/-- In every run that only runs the resume work before the init work, and the init
    work while the flag is clear, the chip is fully configured. -/
theorem configured_of_run {results : Stream' ℤ} {pins : Pin → Bool} {as : List Act} {s : System}
    (hr : Steady results) (hrun : (machine results pins).Run as s)
    (hm : (machine results pins).Meets (fun s a => InitWhileClear s a ∧ SureBeforeInit s a) as) :
    Configured s := by
  intro hq hdone
  obtain ⟨pre, post, hacc, -, hroute⟩ :=
    good_of_run stable_onConfiguration hr (fun _ _ hc => ⟨hc.1, .inl hc.2⟩) hrun hm
      (List.ne_nil_of_mem hdone) (by simp [hq])
  exact ⟨pre, post, hacc, hroute⟩

/-- A resume work that a suspend cancels, which runs the init work; and one that runs between
    a further probe and its init work. -/
theorem configured_suspended :
    (∃ s, (machine (Stream'.const 1) fun _ => false).Run
      [.probe 0, .resume, .suspend, .ioctl false aux1ToAux2] s ∧ Configured s) ∧
    ∃ s, (machine (Stream'.const 1) fun _ => false).Run
      [.probe 0, .work, .resume, .probe 0, .work, .work] s ∧
        s.done = [.item .init, .item .sure, .item .init] ∧ Configured s := by
  have hsteady : Steady (Stream'.const (1 : ℤ)) := steady_const Int.one_nonneg
  obtain ⟨s, hs⟩ := Machine.exists_run (machine (Stream'.const 1) fun _ => false)
    [.probe 0, .resume, .suspend, .ioctl false aux1ToAux2] (by decide)
  obtain ⟨t, ht, hdone⟩ := Machine.exists_run_of_map (machine (Stream'.const 1) fun _ => false)
    [.probe 0, .work, .resume, .probe 0, .work, .work]
    (fun t => t.done = [.item .init, .item .sure, .item .init]) (by decide)
  exact ⟨⟨s, hs, configured_of_run hsteady hs (Machine.meets_of_along (by decide))⟩,
    ⟨t, ht, of_decide_eq_true hdone,
      configured_of_run hsteady ht (Machine.meets_of_along (by decide))⟩⟩

/-- After the resume work, the chip has only been told its route since the reset. -/
theorem accepted_sinceReset_suspendResume {s t : State} (hr : Steady s.board.results)
    (hst : suspendResume s = some t) :
    accepted (sinceReset t.board.trace) = words (adcWay s.dev.earInject) := by
  obtain ⟨client, -, rfl⟩ := suspendResume_eq_some_iff.1 hst
  rw [trace_sendCmd, trace_resetPulse,
    (sends_sendEvents (s := (resetPulse s.board).results) hr client _).accepted_sinceReset,
    sinceReset_pulse, accepted_gpio, List.nil_append]

/-- A route table does not contain the configuration. -/
theorem not_configuredBy_adcWay (f g : Bool) : ¬ConfiguredBy (words (adcWay f)) g := by
  rintro ⟨pre, post, h, -⟩
  have hlen := congrArg List.length h
  have hmaxx : maxxAudioCmdMusic1Full.length / 3 = 1797 := by decide +kernel
  have hway : (adcWay f).length / 3 = 8 := by cases f <;> rfl
  simp only [words, List.length_append, length_groups, hmaxx, hway] at hlen
  omega

/-- A resume after the init work: the chip is reset, and only gets a route table. -/
theorem not_configured :
    ∃ s, (machine (Stream'.const 1) fun _ => false).Run
      [.probe 0, .work, .suspend, .resume, .work] s ∧ ¬Configured s := by
  obtain ⟨s, hs, hp⟩ := Machine.exists_run_of_map (machine (Stream'.const 1) fun _ => false)
    [.probe 0, .work, .suspend, .resume]
    (fun s => s.drv.queue.pending = [.sure] ∧ s.drv.dev = ⟨some 0, 6, false⟩ ∧
      .item .init ∈ s.done) (by decide)
  obtain ⟨hq, hdev, hdone⟩ := of_decide_eq_true hp
  have hr : Steady s.drv.board.results :=
    (inv_of_run stable_onConfiguration (steady_const Int.one_nonneg)
      (fun _ _ hc => ⟨hc.1, .inl hc.2⟩) hs (Machine.meets_of_along (C := fun s a =>
        InitWhileClear s a ∧ SureBeforeInit s a) (by decide))).sound.steady
  obtain ⟨t, ht, hst⟩ := step_work_sure (show s.drv.dev.client = some 0 by rw [hdev]) hq
  refine ⟨_, hs.step hst, fun h => ?_⟩
  have hconf := h (by rw [(execWork_frame (w := .sure) ht).2.2]; rfl)
    (List.mem_append_left _ hdone)
  rw [accepted_sinceReset_suspendResume (s := { s.drv with queue := .empty }) hr ht] at hconf
  exact not_configuredBy_adcWay _ _ hconf

end Sounder.Npca110

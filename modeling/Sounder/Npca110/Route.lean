import Sounder.Npca110.System

/-!
# The route and the flag

Whether the route of the chip agrees with the flag `earInject`, whenever nothing
is pending.

It does not in every run (`not_routeAgrees`): the configuration that the init work
sends routes AUX1 without a look at the flag, so that an `ioctl` which selects AUX2
before the init work has run leaves the flag set and the chip on AUX1. The resume
work, which sends the route table of the flag, keeps the agreement. In every run in
which the init work is only run while the flag is clear, the route and the flag
agree (`routeAgrees_of_run`), whatever the order of the calls.
-/

namespace Sounder.Npca110

open Retry

/-- The route of the chip is AUX2 exactly if the flag is set, and AUX1 exactly if it
    is clear, when nothing is pending and something has completed. -/
def RouteAgrees (s : System) : Prop :=
  s.drv.queue.pending = [] → s.done ≠ [] →
    ((chip s.drv.board.trace).state.route = some [0x00, 0x00, 0x99] ↔
      s.drv.dev.earInject = true) ∧
    ((chip s.drv.board.trace).state.route = some [0x00, 0x00, 0x88] ↔
      s.drv.dev.earInject = false)

/-- The route of the chip is that of the flag. -/
def OnRoute (t : List Event) (f : Bool) : Prop := (chip t).state.route = some (routeOf f)

theorem stable_onRoute : Stable OnRoute where
  quiet hg hs := by rwa [OnRoute, chip_append, hs.accepted_eq]
  switch hc _ hs := by
    rw [OnRoute, chip_append, hs.accepted_eq]
    exact (feed_adcWay hc _).2
  init hc hs := by
    rw [OnRoute, chip_append, hs.accepted_eq]
    exact (feed_maxxAudioCmdMusic1Full hc).2

/-- The resume work sends the route table of the flag. -/
theorem keptByReset_onRoute : KeptByReset OnRoute := by
  intro t ev f hc _ hs
  have hp : chip (t ++ pulse) = chip t := chip_append t pulse
  rw [OnRoute, chip_append, hs.accepted_eq, hp]
  exact (feed_adcWay hc f).2

theorem routeAgrees_of_onRoute {s : System}
    (h : s.drv.queue.pending = [] → s.done ≠ [] →
      OnRoute s.drv.board.trace s.drv.dev.earInject) : RouteAgrees s := by
  intro hq hdone
  rw [h hq hdone]
  cases s.drv.dev.earInject <;> decide

/-- In every run that only runs the init work while the flag is clear, the route and
    the flag agree. -/
theorem routeAgrees_of_run {results : Stream' ℤ} {pins : Pin → Bool} {as : List Act} {s : System}
    (hr : Steady results) (hrun : (machine results pins).Run as s)
    (hm : (machine results pins).Meets InitWhileClear as) : RouteAgrees s :=
  routeAgrees_of_onRoute fun hq hdone =>
    good_of_run stable_onRoute hr (fun _ _ hc => ⟨hc, .inr keptByReset_onRoute⟩) hrun hm hdone
      (by simp [hq])

/-- A run with a resume: the init work, an `ioctl`, a suspend and the resume work. -/
theorem routeAgrees_resumed :
    ∃ s, (machine (Stream'.const 1) fun _ => false).Run
      [.probe 0, .work, .ioctl false aux1ToAux2, .suspend, .resume, .work] s ∧ RouteAgrees s := by
  obtain ⟨s, hs⟩ := Machine.exists_run (machine (Stream'.const 1) fun _ => false)
    [.probe 0, .work, .ioctl false aux1ToAux2, .suspend, .resume, .work] (by decide)
  exact ⟨s, hs, routeAgrees_of_run (steady_const Int.one_nonneg) hs
    (Machine.meets_of_along (by decide))⟩

/-- An `ioctl` that selects AUX2 before the init work has run: the flag stays set,
    but the chip is on AUX1. -/
theorem not_routeAgrees :
    ∃ s, (machine (Stream'.const 1) fun _ => false).Run
      [.probe 0, .ioctl false aux1ToAux2, .work] s ∧ ¬RouteAgrees s := by
  obtain ⟨s, hs, hp⟩ := Machine.exists_run_of_map (machine (Stream'.const 1) fun _ => false)
    [.probe 0, .ioctl false aux1ToAux2]
    (fun s => s.drv.queue.pending = [.init] ∧ s.drv.dev = ⟨some 0, 6, true⟩) (by decide)
  obtain ⟨hq, hdev⟩ := of_decide_eq_true hp
  have hinv := inv_of_run stable_onRoute (steady_const Int.one_nonneg)
    (fun _ _ hc => ⟨hc, .inr keptByReset_onRoute⟩) hs (Machine.meets_of_along (by decide))
  refine ⟨_, hs.step (step_work_init (by rw [hdev]) hq), fun h => ?_⟩
  have hroute : OnRoute (sendCmd maxxAudioCmdMusic1Full 0 s.drv.board).2.trace false := by
    rw [trace_sendCmd]
    exact stable_onRoute.init hinv.sound.settled (sends_sendEvents hinv.sound.steady 0 _)
  have hflag := ((h rfl (by simp)).2.1 hroute)
  rw [show s.drv.dev.earInject = true by rw [hdev]] at hflag
  cases hflag

end Sounder.Npca110

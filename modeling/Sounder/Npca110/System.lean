import Sounder.Lib.Machine
import Sounder.Npca110.Chip

/-!
# The npca110 as a system

The driver with those who call it: the application, through `npca110_ioctl`, the
power management core, through the PM callbacks, and the thread of the work
queue. An action is one whole call, or one whole pending item. The bus does not
fail (`Steady`).

What holds whenever the init work is not pending, for every run, is a property
`Good` of the trace and of the flag `earInject` that each of these keeps
(`Stable`): the events that send nothing, a route table sent together with its
flag, and the configuration sent while the flag is clear. `good_of_run` is the
induction over the runs, under the conditions of the property on the items that
are run (`System.runs`).
-/

namespace Sounder.Npca110

open Retry

/-- What has run to its end. -/
inductive Done
  | item (w : Work)
  | ioctl
  deriving DecidableEq

/-- The driver, and the work items and `ioctl` calls that have completed, in order. -/
structure System where
  drv : State
  done : List Done

/-- The actions of the system. -/
inductive Act
  /-- A successful `npca110_probe`. -/
  | probe (client : Client)
  /-- `npca110_ioctl`, whose wait for the semaphore may be interrupted. -/
  | ioctl (interrupted : Bool) (cmd : UInt32)
  /-- `npca110_suspend`. -/
  | suspend
  /-- `npca110_resume`. -/
  | resume
  /-- The work queue thread runs one item. -/
  | work
  deriving DecidableEq

/-- The items that an action runs. -/
def System.runs (s : System) : Act → List Work
  | .suspend => (s.drv.queue.cancelWork .sure).pending
  | .work => s.drv.queue.pending.take 1
  | _ => []

/-- One action. The device file is used once the driver has been probed. -/
def System.step (s : System) : Act → Option System
  | .probe client =>
    let (ret, drv) := probe true client [0x00, 0x60, 0x00] true s.drv
    if ret = 0 then some { s with drv := drv } else none
  | .ioctl interrupted cmd =>
    if s.drv.wq then
      (ioctl interrupted cmd s.drv).map fun r => ⟨r.2, s.done ++ [.ioctl]⟩
    else none
  | .suspend => (suspend s.drv).map fun drv => ⟨drv, s.done ++ (s.runs .suspend).map .item⟩
  | .resume => (resume s.drv).map fun drv => { s with drv := drv }
  | .work => (work s.drv).map fun drv => ⟨drv, s.done ++ (s.runs .work).map .item⟩

/-- The work queue thread runs the init work, and nothing else is pending. -/
theorem step_work_init {s : System} {client : Client} (hc : s.drv.dev.client = some client)
    (hq : s.drv.queue.pending = [.init]) :
    s.step .work = some
      ⟨{ s.drv with
          queue := .empty
          board := (sendCmd maxxAudioCmdMusic1Full client s.drv.board).2 },
        s.done ++ [.item .init]⟩ := by
  have hpop : s.drv.queue.pop = some (.init, .empty) := WorkQueue.pop_eq_some_iff.2 hq
  simp [System.step, System.runs, work, hpop, execWork, initEvents, hc, hq]

/-- The work queue thread runs the resume work, and nothing else is pending. -/
theorem step_work_sure {s : System} {client : Client} (hc : s.drv.dev.client = some client)
    (hq : s.drv.queue.pending = [.sure]) :
    ∃ t, suspendResume { s.drv with queue := .empty } = some t ∧
      s.step .work = some ⟨t, s.done ++ [.item .sure]⟩ := by
  have hpop : s.drv.queue.pop = some (.sure, .empty) := WorkQueue.pop_eq_some_iff.2 hq
  obtain ⟨t, ht⟩ : ∃ t, suspendResume { s.drv with queue := .empty } = some t :=
    ⟨_, suspendResume_eq_some_iff.2 ⟨client, hc, rfl⟩⟩
  exact ⟨t, ht, by simp [System.step, System.runs, work, hpop, execWork, ht, hq]⟩

/-- The driver after `npca110_i2c_init`: the device structure is zeroed, its
    semaphore initialised. -/
def loaded (results : Stream' ℤ) (pins : Pin → Bool) : State where
  dev := ⟨none, 6, false⟩
  wq := false
  queue := .empty
  board := ⟨results, [], pins⟩

/-- The system, from the load of the driver on. -/
def machine (results : Stream' ℤ) (pins : Pin → Bool) : Machine System Act :=
  ⟨⟨loaded results pins, []⟩, System.step⟩

/-- The chip, after what it accepted so far. -/
def chip (t : List Event) : Chip := Chip.fresh.accept (accepted t)

theorem chip_append (t ev : List Event) : chip (t ++ ev) = (chip t).accept (accepted ev) := by
  rw [chip, accepted_append, Chip.accept, Receiver.feedAll_append, chip]

/-! ## What the operations send -/

/-- The events `ev` send the words `ws`, without a reset. -/
structure Sends (ev : List Event) (ws : List Word) : Prop where
  accepted_eq : accepted ev = ws
  noReset : .gpio .rs false ∉ ev

theorem sends_gpio (pin : Pin) (value : Bool) (h : pin ≠ .rs) : Sends [.gpio pin value] [] :=
  ⟨rfl, by simp [h.symm]⟩

theorem Sends.append {ev ev' : List Event} {ws ws' : List Word} (h : Sends ev ws)
    (h' : Sends ev' ws') : Sends (ev ++ ev') (ws ++ ws') :=
  ⟨by rw [accepted_append, h.accepted_eq, h'.accepted_eq],
    fun hm => (List.mem_append.1 hm).elim h.noReset h'.noReset⟩

theorem sends_sendEvents {s : Stream' ℤ} (h : Steady s) (client : Client) (l : List UInt8) :
    Sends (sendEvents client false (words l) s) (words l) :=
  ⟨accepted_sendEvents_of_steady h client l, noGpio_sendEvents _ _ _ _ _ _⟩

/-- The events of a reset pulse. -/
def pulse : List Event := [.gpio .rs false, .gpio .rs true]

theorem trace_resetPulse (b : Board) : (resetPulse b).trace = b.trace ++ pulse := by
  simp [resetPulse, pulse]

/-- A property of the trace and of the flag that what the driver does keeps, as
    long as it does not reset the chip or configure it with the flag set. -/
structure Stable (Good : List Event → Bool → Prop) : Prop where
  quiet {t ev : List Event} {f : Bool} : Good t f → Sends ev [] → Good (t ++ ev) f
  switch {t ev : List Event} {f g : Bool} : (chip t).Settled → Good t f →
    Sends ev (words (adcWay g)) → Good (t ++ ev) g
  init {t ev : List Event} : (chip t).Settled →
    Sends ev (words maxxAudioCmdMusic1Full) → Good (t ++ ev) false

/-- The property is kept by a reset followed by the route table of the flag. -/
def KeptByReset (Good : List Event → Bool → Prop) : Prop :=
  ∀ {t ev : List Event} {f : Bool}, (chip t).Settled → Good t f →
    Sends ev (words (adcWay f)) → Good (t ++ pulse ++ ev) f

/-- The bus does not fail, and the chip is at the end of a frame. -/
structure Sound (b : Board) : Prop where
  steady : Steady b.results
  settled : (chip b.trace).Settled

/-- What every state of a run satisfies, where `Good` holds while the init work is
    not pending. -/
structure Inv (Good : List Event → Bool → Prop) (s : State) : Prop where
  sound : Sound s.board
  idle : s.wq = false → s.queue.pending = []
  good : s.wq = true → .init ∈ s.queue.pending ∨ Good s.board.trace s.dev.earInject

/-- The tables of the driver. -/
inductive IsTable : List UInt8 → Prop
  | adcWay (earInject : Bool) : IsTable (adcWay earInject)
  | maxxAudioCmdMusic1Full : IsTable maxxAudioCmdMusic1Full

/-- Every table, once accepted, leaves the chip at the end of a frame. -/
theorem Sound.sendCmd {l : List UInt8} (hl : IsTable l) {b : Board} (h : Sound b)
    (client : Client) : Sound (sendCmd l client b).2 := by
  constructor
  · rw [results_sendCmd]
    exact h.steady.restAll
  · rw [trace_sendCmd, chip_append, (sends_sendEvents h.steady client l).accepted_eq]
    cases hl with
    | adcWay earInject => exact (feed_adcWay h.settled earInject).1
    | maxxAudioCmdMusic1Full => exact (feed_maxxAudioCmdMusic1Full h.settled).1

theorem Sound.gpioSetValue {b : Board} (h : Sound b) (pin : Pin) (value : Bool) :
    Sound (b.gpioSetValue pin value) := by
  refine ⟨h.steady, ?_⟩
  rw [Board.trace_gpioSetValue, chip_append]
  exact h.settled

theorem Sound.resetPulse {b : Board} (h : Sound b) : Sound (resetPulse b) :=
  (h.gpioSetValue .rs false).gpioSetValue .rs true

section Operations

variable {Good : List Event → Bool → Prop} {s t : State}

/-- The configuration, sent while the flag is clear, makes the property hold. -/
theorem good_of_initEvents (h : Sound s.board) (hG : Stable Good) (hf : s.dev.earInject = false)
    (hst : initEvents s = some t) :
    Sound t.board ∧ t.wq = s.wq ∧ Good t.board.trace t.dev.earInject := by
  obtain ⟨client, -, rfl⟩ := initEvents_eq_some_iff.1 hst
  refine ⟨h.sendCmd .maxxAudioCmdMusic1Full client, rfl, ?_⟩
  rw [trace_sendCmd, hf]
  exact hG.init h.settled (sends_sendEvents h.steady client _)

variable (Good) in
/-- A reset, followed by the route table of the flag. -/
theorem good_of_suspendResume (h : Sound s.board) (hst : suspendResume s = some t) :
    Sound t.board ∧ t.wq = s.wq ∧ t.queue = s.queue ∧ (KeptByReset Good →
      Good s.board.trace s.dev.earInject → Good t.board.trace t.dev.earInject) := by
  obtain ⟨client, -, rfl⟩ := suspendResume_eq_some_iff.1 hst
  refine ⟨h.resetPulse.sendCmd (.adcWay _) client, rfl, rfl, fun hK hg => ?_⟩
  rw [trace_sendCmd, trace_resetPulse]
  exact hK h.settled hg (sends_sendEvents h.steady client _)

/-- A call of `npca110_ioctl` sends nothing, or a route table together with its flag. -/
theorem Inv.ioctl (h : Inv Good s) (hG : Stable Good) {interrupted : Bool} {cmd : UInt32} {ret : ℤ}
    (hst : ioctl interrupted cmd s = some (ret, t)) : Inv Good t := by
  obtain ⟨-, -, rfl⟩ | ⟨-, -, -, u, hu, rfl⟩ := ioctl_eq_some_iff.1 hst
  · exact h
  obtain ⟨-, client, -, rfl⟩ | ⟨-, client, -, rfl⟩ | ⟨-, -, rfl⟩ := ioctlSwitch_eq_some_iff.1 hu
  · refine ⟨(h.sound.sendCmd (.adcWay true) client).gpioSetValue .ps true, h.idle,
      fun hwq => (h.good hwq).imp id fun hg => ?_⟩
    have hs := (sends_sendEvents h.sound.steady client (adcWay true)).append
      (sends_gpio .ps true (by decide))
    rw [List.append_nil] at hs
    rw [Board.trace_gpioSetValue, trace_sendCmd, List.append_assoc]
    exact hG.switch h.sound.settled hg hs
  · refine ⟨h.sound.sendCmd (.adcWay false) client, h.idle,
      fun hwq => (h.good hwq).imp id fun hg => ?_⟩
    rw [trace_sendCmd]
    exact hG.switch h.sound.settled hg (sends_sendEvents h.sound.steady client _)
  · exact ⟨h.sound, h.idle, h.good⟩

/-- A successful probe clears the flag and queues the init work. -/
theorem Inv.probe (h : Inv Good s) (client : Client) :
    Inv Good (probe true client [0x00, 0x60, 0x00] true s).2 := by
  refine ⟨⟨h.sound.steady.tail, ?_⟩, fun hwq => Bool.noConfusion hwq, fun _ => .inl ?_⟩
  · change (chip (s.board.trace ++ [.exchange ..])).Settled
    rw [chip_append, accepted_exchange]
    exact h.sound.settled
  · exact WorkQueue.mem_queueWork.2 (.inr rfl)

/-- The work queue thread runs an item: the init work while the flag is clear, and
    the resume work while the init work is still pending, if the property is not
    kept by a reset. -/
theorem Inv.work (h : Inv Good s) (hG : Stable Good)
    (hinit : .init ∈ s.queue.pending.take 1 → s.dev.earInject = false)
    (hsure : .sure ∈ s.queue.pending.take 1 → .init ∈ s.queue.pending ∨ KeptByReset Good)
    (hst : work s = some t) : Inv Good t := by
  obtain ⟨w, q, hpop, hex⟩ := work_eq_some_iff.1 hst
  have hp := WorkQueue.pop_eq_some_iff.1 hpop
  have hhead : w ∈ s.queue.pending.take 1 := by simp [hp]
  have hwq : s.wq = true := by
    by_contra hwq
    rw [h.idle (by simpa using hwq)] at hp
    cases hp
  cases w with
  | init =>
    obtain ⟨hs, hw, hg⟩ :=
      good_of_initEvents (s := { s with queue := q }) h.sound hG (hinit hhead) hex
    exact ⟨hs, fun hf => absurd (hw.symm.trans hf) (by simp [hwq]), fun _ => .inr hg⟩
  | sure =>
    obtain ⟨hs, hw, hq, hg⟩ :=
      good_of_suspendResume Good (s := { s with queue := q }) h.sound hex
    have hmem : .init ∈ s.queue.pending → .init ∈ t.queue.pending := fun hi => by
      rw [WorkQueue.mem_of_pop hpop] at hi
      exact hq ▸ hi.resolve_left (by decide)
    refine ⟨hs, fun hf => absurd (hw.symm.trans hf) (by simp [hwq]), fun _ => ?_⟩
    rcases h.good hwq with hi | hgood
    · exact .inl (hmem hi)
    · exact (hsure hhead).imp hmem fun hK => hg hK hgood

/-- Without the resume work, at most the init work is pending. -/
theorem pending_cancelWork_sure (q : WorkQueue Work) :
    (q.cancelWork .sure).pending = [] ∨ (q.cancelWork .sure).pending = [.init] := by
  have hmem : ∀ w ∈ (q.cancelWork .sure).pending, w = .init := by
    intro w hw
    have hne := (WorkQueue.mem_cancelWork.1 hw).1
    cases w with
    | init => rfl
    | sure => exact absurd rfl hne
  have hnd := (q.cancelWork .sure).nodup
  match hl : (q.cancelWork .sure).pending with
  | [] => exact .inl rfl
  | [w] => exact .inr (by rw [hmem w (by simp [hl])])
  | v :: w :: ws =>
    rw [hl, hmem v (by simp [hl]), hmem w (by simp [hl])] at hnd
    simp at hnd

/-- Suspending drops the resume work, and runs the init work if it is pending. -/
theorem Inv.suspend (h : Inv Good s) (hG : Stable Good)
    (hinit : .init ∈ (s.queue.cancelWork .sure).pending → s.dev.earInject = false)
    (hst : suspend s = some t) : Inv Good t := by
  obtain ⟨hwq, hrun⟩ := suspend_eq_some_iff.1 hst
  -- the pins driven on the way send nothing
  obtain ⟨hsound, hquiet⟩ : Sound (suspendPins s.dev.earInject s.board) ∧
      ∀ f, Good s.board.trace f → Good (suspendPins s.dev.earInject s.board).trace f := by
    cases s.dev.earInject
    · exact ⟨h.sound, fun _ hg => hg⟩
    · exact ⟨(h.sound.gpioSetValue .ps true).gpioSetValue .pa true, fun _ hg =>
        hG.quiet (hG.quiet hg (sends_gpio .ps true (by decide))) (sends_gpio .pa true (by decide))⟩
  rcases pending_cancelWork_sure s.queue with hq | hq
  · rw [hq, WorkQueue.runAll_nil, Option.some_inj] at hrun
    subst hrun
    refine ⟨hsound, fun hf => absurd (hwq.symm.trans hf) (by decide), fun _ => .inr ?_⟩
    rcases h.good hwq with hi | hg
    · have := WorkQueue.mem_cancelWork (w := .sure).2 ⟨by decide, hi⟩
      rw [hq] at this
      exact absurd this List.not_mem_nil
    · exact hquiet _ hg
  · rw [hq, WorkQueue.runAll_cons, Option.bind_eq_some_iff] at hrun
    obtain ⟨u, hu, hut⟩ := hrun
    rw [WorkQueue.runAll_nil, Option.some_inj] at hut
    subst hut
    obtain ⟨hs, hw, hg⟩ := good_of_initEvents
      (s := { s with board := suspendPins s.dev.earInject s.board, queue := .empty })
      hsound hG (hinit (by simp [hq])) hu
    exact ⟨hs, fun hf => absurd ((hwq.symm.trans hw.symm).trans hf) (by decide), fun _ => .inr hg⟩

theorem Inv.resume (h : Inv Good s) (hst : resume s = some t) : Inv Good t := by
  obtain ⟨hwq, rfl⟩ := resume_eq_some_iff.1 hst
  exact ⟨h.sound, fun hf => absurd (hwq.symm.trans hf) (by decide), fun hw =>
    (h.good hw).imp (fun hi => WorkQueue.mem_queueWork.2 (.inl hi)) id⟩

end Operations

/-! ## Runs -/

/-- The init work is only run while the flag is clear. -/
def InitWhileClear (s : System) (a : Act) : Prop :=
  .init ∈ s.runs a → s.drv.dev.earInject = false

/-- The resume work is only run while the init work is still pending. -/
def SureBeforeInit (s : System) (a : Act) : Prop :=
  .sure ∈ s.runs a → .init ∈ s.drv.queue.pending

instance (s : System) (a : Act) : Decidable (InitWhileClear s a) :=
  inferInstanceAs (Decidable (_ → _))

instance (s : System) (a : Act) : Decidable (SureBeforeInit s a) :=
  inferInstanceAs (Decidable (_ → _))

variable {Good : List Event → Bool → Prop} {C : System → Act → Prop} {results : Stream' ℤ}
  {pins : Pin → Bool} {as : List Act} {s t : System} {a : Act}

/-- The step lemma. -/
theorem inv_of_step (hG : Stable Good) (hinit : InitWhileClear s a)
    (hsure : SureBeforeInit s a ∨ KeptByReset Good) (h : Inv Good s.drv)
    (hst : s.step a = some t) : Inv Good t.drv := by
  cases a with
  | probe client =>
    simp only [System.step] at hst
    split_ifs at hst
    rw [← Option.some.inj hst]
    exact h.probe client
  | ioctl interrupted cmd =>
    simp only [System.step] at hst
    split_ifs at hst
    obtain ⟨⟨ret, drv⟩, hdrv, rfl⟩ := Option.map_eq_some_iff.1 hst
    exact h.ioctl hG hdrv
  | suspend =>
    obtain ⟨drv, hdrv, rfl⟩ := Option.map_eq_some_iff.1 hst
    exact h.suspend hG hinit hdrv
  | resume =>
    obtain ⟨drv, hdrv, rfl⟩ := Option.map_eq_some_iff.1 hst
    exact h.resume hdrv
  | work =>
    obtain ⟨drv, hdrv, rfl⟩ := Option.map_eq_some_iff.1 hst
    exact h.work hG hinit (fun hs => hsure.imp (fun hb => hb hs) id) hdrv

/-- After any action, the driver has been probed. -/
theorem wq_of_step (hidle : s.drv.wq = false → s.drv.queue.pending = [])
    (hst : s.step a = some t) : t.drv.wq = true := by
  cases a with
  | probe client =>
    simp only [System.step] at hst
    split_ifs at hst
    rw [← Option.some.inj hst]
    rfl
  | ioctl interrupted cmd =>
    simp only [System.step] at hst
    split_ifs at hst with hwq
    obtain ⟨⟨ret, drv⟩, hdrv, rfl⟩ := Option.map_eq_some_iff.1 hst
    exact (ioctl_frame hdrv).2.2.1.trans hwq
  | suspend =>
    obtain ⟨drv, hdrv, rfl⟩ := Option.map_eq_some_iff.1 hst
    obtain ⟨hwq, hrun⟩ := suspend_eq_some_iff.1 hdrv
    exact WorkQueue.runAll_induct (I := fun s => s.wq = true)
      (fun w _ s t hs hex => (execWork_frame hex).2.1.trans hs) hwq hrun
  | resume =>
    obtain ⟨drv, hdrv, rfl⟩ := Option.map_eq_some_iff.1 hst
    obtain ⟨hwq, rfl⟩ := resume_eq_some_iff.1 hdrv
    exact hwq
  | work =>
    obtain ⟨drv, hdrv, rfl⟩ := Option.map_eq_some_iff.1 hst
    obtain ⟨w, q, hpop, hex⟩ := work_eq_some_iff.1 hdrv
    refine (execWork_frame hex).2.1.trans ?_
    by_contra hwq
    have hp := WorkQueue.pop_eq_some_iff.1 hpop
    rw [hidle (by simpa using hwq)] at hp
    cases hp

/-- An action leaves the semaphore; it leaves the client and the work queue too, or is a
    probe, which stores both. -/
theorem frame_of_step (hst : s.step a = some t) :
    t.drv.dev.sem = s.drv.dev.sem ∧
      (t.drv.dev.client = s.drv.dev.client ∧ t.drv.wq = s.drv.wq ∨
        t.drv.dev.client ≠ none ∧ t.drv.wq = true) := by
  cases a with
  | probe client =>
    simp only [System.step] at hst
    split_ifs at hst
    rw [← Option.some.inj hst]
    exact ⟨rfl, .inr ⟨Option.some_ne_none client, rfl⟩⟩
  | ioctl interrupted cmd =>
    simp only [System.step] at hst
    split_ifs at hst
    obtain ⟨⟨ret, drv⟩, hdrv, rfl⟩ := Option.map_eq_some_iff.1 hst
    obtain ⟨hsem, hclient, hwq, -⟩ := ioctl_frame hdrv
    exact ⟨hsem, .inl ⟨hclient, hwq⟩⟩
  | suspend =>
    obtain ⟨drv, hdrv, rfl⟩ := Option.map_eq_some_iff.1 hst
    obtain ⟨hdev, hwq⟩ := suspend_frame hdrv
    exact ⟨congrArg SoundDev.sem hdev, .inl ⟨congrArg SoundDev.client hdev, hwq⟩⟩
  | resume =>
    obtain ⟨drv, hdrv, rfl⟩ := Option.map_eq_some_iff.1 hst
    obtain ⟨-, rfl⟩ := resume_eq_some_iff.1 hdrv
    exact ⟨rfl, .inl ⟨rfl, rfl⟩⟩
  | work =>
    obtain ⟨drv, hdrv, rfl⟩ := Option.map_eq_some_iff.1 hst
    obtain ⟨w, q, -, hex⟩ := work_eq_some_iff.1 hdrv
    obtain ⟨hdev, hwq, -⟩ := execWork_frame hex
    exact ⟨congrArg SoundDev.sem hdev, .inl ⟨congrArg SoundDev.client hdev, hwq⟩⟩

theorem inv_init (hr : Steady results) : Inv Good (loaded results pins) :=
  ⟨⟨hr, Chip.settled_fresh⟩, fun _ => rfl, fun hwq => Bool.noConfusion (show false = true from hwq)⟩

theorem inv_of_run (hG : Stable Good) (hr : Steady results)
    (hC : ∀ s a, C s a → InitWhileClear s a ∧ (SureBeforeInit s a ∨ KeptByReset Good))
    (hrun : (machine results pins).Run as s) (hm : (machine results pins).Meets C as) :
    Inv Good s.drv :=
  Machine.Run.invariant (I := fun s => Inv Good s.drv) (inv_init hr)
    (fun h hc hst => inv_of_step hG (hC _ _ hc).1 (hC _ _ hc).2 h hst) hrun hm

/-- Once something has completed and the init work is not pending, a stable property
    holds in every run that only runs the init work while the flag is clear, and the
    resume work before the init work, if it does not keep the property. -/
theorem good_of_run (hG : Stable Good) (hr : Steady results)
    (hC : ∀ s a, C s a → InitWhileClear s a ∧ (SureBeforeInit s a ∨ KeptByReset Good))
    (hrun : (machine results pins).Run as s) (hm : (machine results pins).Meets C as)
    (hdone : s.done ≠ []) (hq : .init ∉ s.drv.queue.pending) :
    Good s.drv.board.trace s.drv.dev.earInject := by
  have hwq : s.drv.wq = true := by
    cases hrun with
    | init => exact absurd rfl hdone
    | step hrun hst => exact wq_of_step (inv_of_run hG hr hC hrun hm.of_append).idle hst
  exact ((inv_of_run hG hr hC hrun hm).good hwq).resolve_left hq

end Sounder.Npca110

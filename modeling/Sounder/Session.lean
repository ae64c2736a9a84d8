import Sounder.AuxSwitch
import Sounder.Lib.Simulation
import Sounder.Npca110.Node
import Sounder.Npca110.Route

/-!
# A session

The system server from its boot on: it opens the sound device once, and then serves the
calls of `SoundManager.aux_switch`, one after the other as `s_lock` lets them through,
while the driver is probed, suspended and resumed and its work queue runs. Others may use
the device file of the driver as well.

An action is one whole call of `aux_switch`, one whole call of the driver, or one whole work
item, with nothing in between. The probes succeed or fail; calls are made from when one of
them has stored a client on. (A call that finds none does not return, and its thread takes
`s_lock` and the semaphore with it.)

What the service is for is said by the abstract `Switch`: it remembers which input was
selected last, answers each call, and is stuck for good from the first call on that cannot
open the device file. In every run on a bus without failures the session is such a switch,
with the flag of the driver for its memory (`toSwitch_of_run`). Whenever the driver is at
rest, the chip is on the input that the switch says (`route_of_run`), as long as no probe
fails, no client is removed, and the init work is only run while AUX1 is selected: the
session simulates the driver with its callers (`simulates_system`).
-/

namespace Sounder

open Retry Npca110

/-! ## The boot -/

/-- `sound_open`: what it returns, and whether it sets the device. -/
def soundOpen (malloc : Bool) : ℤ × Bool := if malloc then (0, true) else (-enomem, false)

/-- `sound_init`: what it returns, a `jboolean`, which nobody looks at, and whether it sets
    `sound_device`; `getModule` is the result of `hw_get_module`. -/
def soundInit (getModule : ℤ) (malloc : Bool) : UInt8 × Bool :=
  if getModule = 0 then
    let (ret, device) := soundOpen malloc
    -- as a `jboolean`, `-1` is `255`
    if ret = 0 then (0, device) else (-1, device)
  else (-1, false)

/-! ## The machine -/

/-- The buttons of the settings. -/
inductive Button
  | aux1
  | aux2
  deriving DecidableEq

/-- What a button passes to `aux_switch`. -/
def Button.way : Button → Int32
  | .aux1 => 1
  | .aux2 => 0

/-- The actions of the kernel. -/
inductive KernelAct
  /-- The driver, or another user of its device file, acts. -/
  | act (a : Npca110.Act)
  /-- `npca110_probe`, which fails. -/
  | probeFails (functionality : Bool) (client : Client) (reply : List UInt8) (wqCreated : Bool)
  /-- `npca110_i2c_remove`, after a probe that succeeded. -/
  | remove
  deriving DecidableEq

/-- The driver after an action of the kernel. -/
def KernelAct.run : KernelAct → System → Option System
  | .act a, s => s.step a
  | .probeFails functionality client reply wqCreated, s =>
    let (ret, drv) := probe functionality client reply wqCreated s.drv
    if ret = 0 then none else some { s with drv := drv }
  | .remove, s => if s.drv.wq then some { s with drv := i2cRemove s.drv } else none

/-- The driver, and the process of the service. -/
structure Session where
  /-- The driver, and what it has run to the end. -/
  kernel : System
  /-- `sound_device` is not null. -/
  device : Bool
  /-- A thread that is in no call has left `s_lock` locked. -/
  locked : Bool
  /-- What the calls returned, where they did. -/
  results : List (Option ℤ)

namespace Session

/-- The actions of a session. -/
inductive Act
  /-- An application calls `aux_switch`; `opened` is the result of the `open` of the device
      file, and the request on it is interrupted `interruptions` times. -/
  | aux (binder : Binder) (opened : ℤ) (interruptions : ℕ) (way : Int32)
  /-- The kernel acts. -/
  | kernel (a : KernelAct)
  deriving DecidableEq

/-- A button is pressed. -/
def Act.press (b : Button) (binder : Binder) (opened : ℤ) (interruptions : ℕ) : Act :=
  .aux binder opened interruptions b.way

end Session

/-- The call leaves `s_lock` locked. -/
def Layers.leavesLocked (x : Layers) : Bool :=
  x.locked || x.binder ≠ .undelivered && x.device && x.opened < 0

/-- The call makes a request on the device file. -/
def Layers.Reaches (x : Layers) : Prop :=
  x.binder ≠ .undelivered ∧ x.device = true ∧ x.locked = false ∧ 0 ≤ x.opened

instance : DecidablePred Layers.Reaches := fun _ => inferInstanceAs (Decidable (_ ∧ _))

/-- The layers of a call in a session. -/
def Session.layers (s : Session) (binder : Binder) (opened : ℤ) (interruptions : ℕ) : Layers :=
  ⟨binder, s.device, s.locked, opened, interruptions⟩

/-- One action. The service is called once a probe has stored a client. -/
def Session.step (s : Session) : Session.Act → Option Session
  | .aux binder opened interruptions way =>
    let x := s.layers binder opened interruptions
    if s.kernel.drv.dev.client ≠ none then
      match auxSwitch x way s.kernel.drv with
      | some (ret, drv) => some { s with
          kernel := ⟨drv, s.kernel.done ++ if x.Reaches then [.ioctl] else []⟩
          locked := x.leavesLocked
          results := s.results ++ [some ret] }
      -- a call that does not return waits for `s_lock`, or has it
      | none => some { s with locked := true, results := s.results ++ [none] }
    else none
  | .kernel a => (a.run s.kernel).map fun kernel => { s with kernel := kernel }

/-- The session, from the load of the driver and the boot on. -/
def session (results : Stream' ℤ) (pins : Pin → Bool) (getModule : ℤ) (malloc : Bool) :
    Machine Session Session.Act where
  init := ⟨(machine results pins).init, (soundInit getModule malloc).2, false, []⟩
  step := Session.step

/-! ## The abstract switch -/

/-- A switch between two inputs. -/
structure Switch where
  /-- AUX2 is selected. -/
  aux2 : Bool
  /-- No call returns any more. -/
  stuck : Bool
  /-- The answers. -/
  results : List (Option ℤ)

/-- The input that a number selects: a negative one selects none. -/
def selects (way : Int32) (aux2 : Bool) : Bool := if way < 0 then aux2 else way = 0

/-- The switch after an action of the session. -/
def Switch.next (device : Bool) (w : Switch) : Session.Act → Switch
  | .aux binder opened _ way =>
    if binder = .undelivered ∨ device = false then { w with results := w.results ++ [some (-1)] }
    else if w.stuck then { w with results := w.results ++ [none] }
    else if opened < 0 then { w with stuck := true, results := w.results ++ [some (-1)] }
    else { w with
      aux2 := selects way w.aux2
      results := w.results ++ [some (if binder = .delivered then 0 else -1)] }
  | .kernel (.act (.probe _)) => { w with aux2 := false }
  | .kernel (.act (.ioctl false cmd)) =>
    { w with aux2 := if cmd = aux1ToAux2 then true else if cmd = aux2ToAux1 then false else w.aux2 }
  -- a probe clears the flag before it checks the chip
  | .kernel (.probeFails functionality _ _ _) => { w with aux2 := !functionality && w.aux2 }
  | .kernel _ => w

/-- The switch after some actions. -/
def Switch.after (device : Bool) (as : List Session.Act) : Switch :=
  as.foldl (Switch.next device) ⟨false, false, []⟩

/-- What a session is as a switch. -/
def Session.toSwitch (s : Session) : Switch :=
  ⟨s.kernel.drv.dev.earInject, s.locked, s.results⟩

/-! ## A call -/

variable {x : Layers} {way : Int32} {s : State}

/-- What the native layer makes of the integer. -/
def code (way : Int32) : UInt32 := (if 1 < way then 1 else way).toUInt32

theorem auxSwitch_of_reaches (h : x.Reaches) : auxSwitch x way s =
    (ioctlRetry (code way) x.interruptions s).map fun r =>
      (if x.binder = .delivered then r.1 else -1, r.2) := by
  obtain ⟨hb, hd, hl, ho⟩ := h
  have hsvc : serviceAuxSwitch x way s = ioctlRetry (code way) x.interruptions s := by
    simp [serviceAuxSwitch, nativeAuxSwitch, soundWaySwitch, hd, hl, not_lt.2 ho, code]
  cases hb' : x.binder with
  | undelivered => exact absurd hb' hb
  | delivered => simp [auxSwitch, hb', hsvc]
  | replyLost => simp [auxSwitch, hb', hsvc]

/-- A call that makes no request leaves the driver; it waits for good if somebody left
    `s_lock` locked. -/
theorem auxSwitch_of_not_reaches (h : ¬x.Reaches) : auxSwitch x way s =
    if x.binder ≠ .undelivered ∧ x.device = true ∧ x.locked = true then none
    else some (-1, s) := by
  cases hb : x.binder with
  | undelivered => simp [auxSwitch, hb]
  | _ =>
    cases hd : x.device with
    | false => simp [auxSwitch, hb, serviceAuxSwitch, nativeAuxSwitch, hd]
    | true =>
      cases hl : x.locked with
      | true => simp [auxSwitch, hb, serviceAuxSwitch, nativeAuxSwitch, soundWaySwitch, hd, hl]
      | false =>
        have ho : x.opened < 0 := by
          by_contra ho
          exact h ⟨by simp [hb], hd, hl, not_lt.1 ho⟩
        simp [auxSwitch, hb, serviceAuxSwitch, nativeAuxSwitch, soundWaySwitch, hd, hl, ho]

/-! ## The driver in a session -/

/-- The bus does not fail, the semaphore is free, and a driver with a work queue has a
    client. -/
structure Ready (s : State) : Prop where
  steady : Steady s.board.results
  sem : 0 < s.dev.sem
  client : s.wq = true → s.dev.client ≠ none

theorem ready_loaded {results : Stream' ℤ} (hr : Steady results) (pins : Pin → Bool) :
    Ready (loaded results pins) :=
  ⟨hr, Nat.succ_pos 5, fun hwq => Bool.noConfusion (show false = true from hwq)⟩

theorem Ready.ioctl {s t : State} (h : Ready s) {interrupted : Bool} {cmd : UInt32} {ret : ℤ}
    (hst : ioctl interrupted cmd s = some (ret, t)) : Ready t := by
  obtain ⟨hsem, hclient, hwq, -⟩ := ioctl_frame hst
  refine ⟨?_, by rw [hsem]; exact h.sem, by rw [hclient, hwq]; exact h.client⟩
  obtain ⟨-, -, rfl⟩ | ⟨-, -, -, u, hu, rfl⟩ := ioctl_eq_some_iff.1 hst
  · exact h.steady
  obtain ⟨-, _, -, rfl⟩ | ⟨-, _, -, rfl⟩ | ⟨-, -, rfl⟩ := ioctlSwitch_eq_some_iff.1 hu
  · rw [Board.results_gpioSetValue, results_sendCmd]
    exact h.steady.restAll
  · rw [results_sendCmd]
    exact h.steady.restAll
  · exact h.steady

theorem Ready.execWork {s t : State} (h : Ready s) {w : Work} (hst : execWork w s = some t) :
    Ready t := by
  obtain ⟨hdev, hwq, -⟩ := execWork_frame hst
  refine ⟨?_, by rw [hdev]; exact h.sem, by rw [hdev, hwq]; exact h.client⟩
  cases w with
  | init =>
    obtain ⟨_, -, rfl⟩ := initEvents_eq_some_iff.1 hst
    rw [results_sendCmd]
    exact h.steady.restAll
  | sure =>
    obtain ⟨_, -, rfl⟩ := suspendResume_eq_some_iff.1 hst
    rw [results_sendCmd]
    exact Steady.restAll h.steady

/-- A probe, whatever its result. -/
theorem Ready.probe {s : State} (h : Ready s) (functionality : Bool) (client : Client)
    (reply : List UInt8) (wqCreated : Bool) :
    Ready (probe functionality client reply wqCreated s).2 := by
  refine ⟨?_, by rw [(probe_frame ..).1]; exact h.sem, ?_⟩ <;> cases functionality
  · exact h.steady
  · have hcheck : (i2cCheck client reply s.board).2.results = s.board.results.tail := by
      simp only [i2cCheck, i2cRead, Board.i2cExchange]
      split_ifs <;> rfl
    by_cases hret : (i2cCheck client reply s.board).1 = 1 <;> cases wqCreated <;>
      simp [Npca110.probe, hret, hcheck, h.steady.tail]
  · exact h.client
  · by_cases hret : (i2cCheck client reply s.board).1 = 1
    · cases wqCreated <;> simp [Npca110.probe, hret]
    · simpa [Npca110.probe, hret] using h.client

theorem Ready.step {s t : System} {a : Npca110.Act} (h : Ready s.drv) (hst : s.step a = some t) :
    Ready t.drv := by
  cases a with
  | probe client =>
    simp only [System.step] at hst
    split_ifs at hst
    rw [← Option.some.inj hst]
    exact h.probe ..
  | ioctl interrupted cmd =>
    simp only [System.step] at hst
    split_ifs at hst
    obtain ⟨⟨ret, drv⟩, hdrv, rfl⟩ := Option.map_eq_some_iff.1 hst
    exact h.ioctl hdrv
  | suspend =>
    obtain ⟨drv, hdrv, rfl⟩ := Option.map_eq_some_iff.1 hst
    obtain ⟨-, hrun⟩ := suspend_eq_some_iff.1 hdrv
    -- the pins driven first leave the bus as it is
    have hpins : Steady (suspendPins s.drv.dev.earInject s.drv.board).results := by
      cases s.drv.dev.earInject <;> exact h.steady
    have hready : Ready { s.drv with
        board := suspendPins s.drv.dev.earInject s.drv.board, queue := .empty } :=
      ⟨hpins, h.sem, h.client⟩
    exact WorkQueue.runAll_induct (fun _ _ _ _ hu hex => hu.execWork hex) hready hrun
  | resume =>
    obtain ⟨drv, hdrv, rfl⟩ := Option.map_eq_some_iff.1 hst
    obtain ⟨-, rfl⟩ := resume_eq_some_iff.1 hdrv
    exact ⟨h.steady, h.sem, h.client⟩
  | work =>
    obtain ⟨drv, hdrv, rfl⟩ := Option.map_eq_some_iff.1 hst
    obtain ⟨w, q, -, hex⟩ := work_eq_some_iff.1 hdrv
    exact Ready.execWork (s := { s.drv with queue := q }) ⟨h.steady, h.sem, h.client⟩ hex

theorem Ready.run {s t : System} {a : KernelAct} (h : Ready s.drv) (hst : a.run s = some t) :
    Ready t.drv := by
  cases a with
  | act a => exact h.step hst
  | probeFails functionality client reply wqCreated =>
    simp only [KernelAct.run] at hst
    split_ifs at hst
    rw [← Option.some.inj hst]
    exact h.probe ..
  | remove =>
    simp only [KernelAct.run] at hst
    split_ifs at hst
    rw [← Option.some.inj hst]
    exact ⟨h.steady, h.sem, h.client⟩

/-- No action of the kernel takes the client back. -/
theorem client_of_run {s t : System} {a : KernelAct} (hst : a.run s = some t)
    (hc : s.drv.dev.client ≠ none) : t.drv.dev.client ≠ none := by
  cases a with
  | act a =>
    obtain ⟨-, ⟨hclient, -⟩ | ⟨hclient, -⟩⟩ := frame_of_step hst
    · rwa [hclient]
    · exact hclient
  | probeFails functionality client reply wqCreated =>
    simp only [KernelAct.run] at hst
    split_ifs at hst
    rw [← Option.some.inj hst]
    exact (probe_frame ..).2 hc
  | remove =>
    simp only [KernelAct.run] at hst
    split_ifs at hst
    rw [← Option.some.inj hst]
    exact hc

/-! ## The session is a switch -/

/-- A request that was interrupted is made again. -/
theorem ioctlRetry_eq_ioctl (cmd : UInt32) (n : ℕ) (s : State) :
    ioctlRetry cmd n s = ioctl false cmd s := by
  rw [ioctlRetry_eq, ioctlRetry]
  cases h : ioctl false cmd s with
  | none => rfl
  | some r =>
    obtain ⟨ret, t⟩ := r
    obtain ⟨hf, -⟩ | ⟨-, rfl, -⟩ := ioctl_eq_some_iff.1 h
    · cases hf
    · rfl

/-- The result and the flag of a request that gets the semaphore. -/
theorem ioctl_of_ready {s : State} (h : Ready s) (hclient : s.dev.client ≠ none) (cmd : UInt32) :
    ∃ t, ioctl false cmd s = some (0, t) ∧ t.dev.earInject =
      if cmd = aux1ToAux2 then true else if cmd = aux2ToAux1 then false else s.dev.earInject := by
  obtain ⟨client, hc⟩ := Option.ne_none_iff_exists'.1 hclient
  by_cases h0 : cmd = aux1ToAux2
  · obtain ⟨t, ht, hf, -⟩ := ioctl_command true h.sem hc
    exact ⟨t, h0 ▸ ht, by rw [hf, if_pos h0]⟩
  · by_cases h1 : cmd = aux2ToAux1
    · obtain ⟨t, ht, hf, -⟩ := ioctl_command false h.sem hc
      exact ⟨t, h1 ▸ ht, by rw [hf, if_neg h0, if_pos h1]⟩
    · refine ⟨_, ioctl_eq_some_iff.2 (.inr ⟨rfl, rfl, h.sem, _,
        ioctlSwitch_eq_some_iff.2 (.inr (.inr ⟨h0, h1, rfl⟩)), rfl⟩), ?_⟩
      rw [if_neg h0, if_neg h1]

/-- The input that a number selects, as the driver sees it. -/
theorem selects_eq (way : Int32) (aux2 : Bool) : selects way aux2 =
    if code way = aux1ToAux2 then true else if code way = aux2ToAux1 then false else aux2 := by
  rcases toUInt32_clamp way with ⟨hway, hne⟩ | ⟨hway, earInject, hroute, he⟩
  · have h0 : code way ≠ aux1ToAux2 := hne true
    have h1 : code way ≠ aux2ToAux1 := hne false
    rw [selects, if_pos hway, if_neg h0, if_neg h1]
  · rw [selects, if_neg (Int32.not_lt.2 hway), code, he]
    rcases hroute with ⟨rfl, rfl⟩ | ⟨h1, rfl⟩
    · rfl
    · have hne : way ≠ 0 := by
        rintro rfl
        exact absurd h1 (by decide)
      simp [hne, command, aux1ToAux2, aux2ToAux1]

variable {results : Stream' ℤ} {pins : Pin → Bool} {getModule : ℤ} {malloc : Bool}
  {as : List Session.Act} {s t : Session}

/-- What a call does: it makes its request; or it waits for good; or it gives up, and may
    leave `s_lock` locked. -/
theorem step_aux_cases {binder : Binder} {opened : ℤ} {interruptions : ℕ} {way : Int32}
    (h : Ready s.kernel.drv) (hst : s.step (.aux binder opened interruptions way) = some t) :
    s.kernel.drv.dev.client ≠ none ∧
    ((binder ≠ .undelivered ∧ s.device = true ∧ s.locked = false ∧ 0 ≤ opened ∧
        ∃ drv, ioctl false (code way) s.kernel.drv = some (0, drv) ∧
          t = { s with
            kernel := ⟨drv, s.kernel.done ++ [.ioctl]⟩
            results := s.results ++ [some (if binder = .delivered then 0 else -1)] }) ∨
      (binder ≠ .undelivered ∧ s.device = true ∧ s.locked = true ∧
        t = { s with results := s.results ++ [none] }) ∨
      (binder ≠ .undelivered ∧ s.device = true ∧ s.locked = false ∧ opened < 0 ∧
        t = { s with locked := true, results := s.results ++ [some (-1)] }) ∨
      ((binder = .undelivered ∨ s.device = false) ∧
        t = { s with results := s.results ++ [some (-1)] })) := by
  have hclient : s.kernel.drv.dev.client ≠ none := by
    by_contra hclient
    simp [Session.step, hclient] at hst
  refine ⟨hclient, ?_⟩
  simp only [Session.step, if_pos hclient] at hst
  by_cases hx : (s.layers binder opened interruptions).Reaches
  · -- the request gets to the driver, which is probed
    obtain ⟨drv, hdrv, -⟩ := ioctl_of_ready h hclient (code way)
    rw [auxSwitch_of_reaches hx, ioctlRetry_eq_ioctl, hdrv, if_pos hx] at hst
    obtain ⟨hb, hd, hl, ho⟩ := hx
    have hlocked : (s.layers binder opened interruptions).leavesLocked = s.locked := by
      simp [Layers.leavesLocked, Session.layers, not_lt.2 (show 0 ≤ opened from ho)]
    refine .inl ⟨hb, hd, hl, ho, drv, hdrv, ?_⟩
    rw [← Option.some.inj hst, hlocked]
    rfl
  · -- one of the layers stops it: which one decides what the caller sees
    rw [auxSwitch_of_not_reaches hx, if_neg hx, List.append_nil] at hst
    simp only [Session.layers] at hx hst
    cases hd : s.device with
    | false =>
      refine .inr (.inr (.inr ⟨.inr rfl, ?_⟩))
      simp [hd, Layers.leavesLocked] at hst
      exact hst.symm
    | true =>
      by_cases hb : binder = .undelivered
      · refine .inr (.inr (.inr ⟨.inl hb, ?_⟩))
        simp [hb, hd, Layers.leavesLocked] at hst
        exact hst.symm
      · cases hl : s.locked with
        | true =>
          refine .inr (.inl ⟨hb, rfl, rfl, ?_⟩)
          simp [hb, hd, hl] at hst
          exact hst.symm
        | false =>
          have ho : opened < 0 := not_le.1 fun ho => hx ⟨hb, hd, hl, ho⟩
          refine .inr (.inr (.inl ⟨hb, rfl, rfl, ho, ?_⟩))
          simp [hb, hd, hl, Layers.leavesLocked, ho] at hst
          exact hst.symm

theorem device_of_step {a : Session.Act} (h : Ready s.kernel.drv) (hst : s.step a = some t) :
    t.device = s.device := by
  cases a with
  | aux binder opened interruptions way =>
    obtain ⟨-, ⟨-, -, -, -, drv, -, rfl⟩ | ⟨-, -, -, rfl⟩ | ⟨-, -, -, -, rfl⟩ | ⟨-, rfl⟩⟩ :=
      step_aux_cases h hst <;> rfl
  | kernel a =>
    obtain ⟨kernel, -, rfl⟩ := Option.map_eq_some_iff.1 hst
    rfl

theorem ready_of_step {a : Session.Act} (h : Ready s.kernel.drv) (hst : s.step a = some t) :
    Ready t.kernel.drv := by
  cases a with
  | aux binder opened interruptions way =>
    obtain ⟨-, ⟨-, -, -, -, drv, hdrv, rfl⟩ | ⟨-, -, -, rfl⟩ | ⟨-, -, -, -, rfl⟩ | ⟨-, rfl⟩⟩ :=
      step_aux_cases h hst
    · exact h.ioctl hdrv
    · exact h
    · exact h
    · exact h
  | kernel a =>
    obtain ⟨kernel, hk, rfl⟩ := Option.map_eq_some_iff.1 hst
    exact h.run hk

/-- A call is one of the switch. -/
theorem toSwitch_aux {binder : Binder} {opened : ℤ} {interruptions : ℕ} {way : Int32}
    (h : Ready s.kernel.drv) (hst : s.step (.aux binder opened interruptions way) = some t) :
    t.toSwitch = s.toSwitch.next s.device (.aux binder opened interruptions way) := by
  obtain ⟨hclient, ⟨hb, hd, hl, ho, drv, hdrv, rfl⟩ | ⟨hb, hd, hl, rfl⟩ |
    ⟨hb, hd, hl, ho, rfl⟩ | ⟨hbd, rfl⟩⟩ := step_aux_cases h hst
  · obtain ⟨drv', hdrv', hflag⟩ := ioctl_of_ready h hclient (code way)
    obtain rfl : drv' = drv := (Prod.mk.inj (Option.some.inj (hdrv'.symm.trans hdrv))).2
    simp [Session.toSwitch, Switch.next, hb, hd, hl, not_lt.2 ho, hflag, selects_eq]
  · simp [Session.toSwitch, Switch.next, hb, hd, hl]
  · simp [Session.toSwitch, Switch.next, hb, hd, hl, ho]
  · simp [Session.toSwitch, Switch.next, hbd]

/-- What a probe does to the flag. -/
theorem earInject_probe (functionality : Bool) (client : Client) (reply : List UInt8)
    (wqCreated : Bool) (s : State) :
    (probe functionality client reply wqCreated s).2.dev.earInject =
      (!functionality && s.dev.earInject) := by
  cases functionality
  · rfl
  · by_cases hret : (i2cCheck client reply s.board).1 = 1 <;> cases wqCreated <;>
      simp [probe, hret]

/-- What the driver, or another user of its device file, does to the flag. -/
theorem toSwitch_act {a : Npca110.Act} (h : Ready s.kernel.drv)
    (hst : s.step (.kernel (.act a)) = some t) :
    t.toSwitch = s.toSwitch.next s.device (.kernel (.act a)) := by
  obtain ⟨kernel, hk, rfl⟩ := Option.map_eq_some_iff.1 hst
  simp only [KernelAct.run] at hk
  cases a with
  | probe client =>
    simp only [System.step] at hk
    split_ifs at hk
    rw [← Option.some.inj hk]
    rfl
  | ioctl interrupted cmd =>
    simp only [System.step] at hk
    split_ifs at hk with hwq
    obtain ⟨⟨ret, drv⟩, hdrv, rfl⟩ := Option.map_eq_some_iff.1 hk
    cases interrupted with
    | true =>
      obtain ⟨-, -, rfl⟩ | ⟨hf, -⟩ := ioctl_eq_some_iff.1 hdrv
      · rfl
      · cases hf
    | false =>
      obtain ⟨drv', hdrv', hflag⟩ := ioctl_of_ready h (h.client hwq) cmd
      obtain rfl : drv' = drv := (Prod.mk.inj (Option.some.inj (hdrv'.symm.trans hdrv))).2
      simp [Session.toSwitch, Switch.next, hflag]
  | suspend =>
    obtain ⟨drv, hdrv, rfl⟩ := Option.map_eq_some_iff.1 hk
    simp [Session.toSwitch, Switch.next, (suspend_frame hdrv).1]
  | resume =>
    obtain ⟨drv, hdrv, rfl⟩ := Option.map_eq_some_iff.1 hk
    obtain ⟨-, rfl⟩ := resume_eq_some_iff.1 hdrv
    rfl
  | work =>
    obtain ⟨drv, hdrv, rfl⟩ := Option.map_eq_some_iff.1 hk
    obtain ⟨w, q, -, hex⟩ := work_eq_some_iff.1 hdrv
    simp [Session.toSwitch, Switch.next, (execWork_frame hex).1]

/-- What the kernel does, for the flag. -/
theorem toSwitch_kernel {a : KernelAct} (h : Ready s.kernel.drv)
    (hst : s.step (.kernel a) = some t) :
    t.toSwitch = s.toSwitch.next s.device (.kernel a) := by
  cases a with
  | act a => exact toSwitch_act h hst
  | probeFails functionality client reply wqCreated =>
    obtain ⟨kernel, hk, rfl⟩ := Option.map_eq_some_iff.1 hst
    simp only [KernelAct.run] at hk
    split_ifs at hk
    rw [← Option.some.inj hk]
    simp [Session.toSwitch, Switch.next, earInject_probe]
  | remove =>
    obtain ⟨kernel, hk, rfl⟩ := Option.map_eq_some_iff.1 hst
    simp only [KernelAct.run] at hk
    split_ifs at hk
    rw [← Option.some.inj hk]
    rfl

/-- Along a run, the session stays ready, and goes with the switch. -/
theorem ready_of_run (hr : Steady results)
    (hrun : (session results pins getModule malloc).Run as s) :
    Ready s.kernel.drv ∧ s.device = (soundInit getModule malloc).2 ∧
      s.toSwitch = Switch.after (soundInit getModule malloc).2 as := by
  refine Machine.Run.induct (C := fun _ _ => True)
    (I := fun as s => Ready s.kernel.drv ∧ s.device = (soundInit getModule malloc).2 ∧
      s.toSwitch = Switch.after (soundInit getModule malloc).2 as)
    ⟨ready_loaded hr pins, rfl, rfl⟩ ?_ hrun Machine.meets_true
  rintro as s a t - ⟨h, hd, he⟩ - hst
  refine ⟨ready_of_step h hst, (device_of_step h hst).trans hd, ?_⟩
  rw [Switch.after, List.foldl_append]
  change _ = Switch.next _ (Switch.after _ as) a
  rw [← he, ← hd]
  cases a with
  | aux binder opened interruptions way => exact toSwitch_aux h hst
  | kernel a => exact toSwitch_kernel h hst

/-- The init work is only run while the flag is clear; no probe fails, and no client is
    removed. -/
def Session.InitWhileClear (s : Session) : Session.Act → Prop
  | .aux .. => True
  | .kernel (.act a) => Npca110.InitWhileClear s.kernel a
  | .kernel _ => False

instance (s : Session) : DecidablePred s.InitWhileClear
  | .aux .. => .isTrue trivial
  | .kernel (.act _) => inferInstanceAs (Decidable (Npca110.InitWhileClear _ _))
  | .kernel (.probeFails ..) | .kernel .remove => .isFalse id

/-- The driver with its callers simulates the session: a call makes one request, or
    none. -/
theorem simulates_system (hr : Steady results) :
    Machine.Simulates (session results pins getModule malloc) (machine results pins)
      Session.InitWhileClear InitWhileClear fun s t => Ready s.kernel.drv ∧
        (s.kernel.drv.dev.client ≠ none → s.kernel.drv.wq = true) ∧ t = s.kernel where
  init := ⟨ready_loaded hr pins, fun hc => absurd rfl hc, rfl⟩
  step {s s' t a} hR hC hst := by
    obtain ⟨h, hbound, rfl⟩ := hR
    cases a with
    | aux binder opened interruptions way =>
      obtain ⟨hclient, ⟨-, -, -, -, drv, hdrv, rfl⟩ | ⟨-, -, -, rfl⟩ | ⟨-, -, -, -, rfl⟩ |
        ⟨-, rfl⟩⟩ := step_aux_cases h hst
      · obtain ⟨-, -, hwq, -⟩ := ioctl_frame hdrv
        refine ⟨[.ioctl false (code way)], _, ?_, ⟨nofun, ?_⟩, h.ioctl hdrv,
          fun _ => hwq.trans (hbound hclient), rfl⟩
        · rw [Machine.exec_singleton]
          simp [machine, System.step, hbound hclient, hdrv]
        · split <;> trivial
      · exact ⟨[], _, rfl, trivial, h, hbound, rfl⟩
      · exact ⟨[], _, rfl, trivial, h, hbound, rfl⟩
      · exact ⟨[], _, rfl, trivial, h, hbound, rfl⟩
    | kernel a =>
      obtain ⟨kernel, hk, rfl⟩ := Option.map_eq_some_iff.1 hst
      cases a with
      | act a =>
        refine ⟨[a], kernel, ?_, ⟨hC, ?_⟩, h.run hk, ?_, rfl⟩
        · rw [Machine.exec_singleton]
          exact hk
        · split <;> trivial
        · obtain ⟨-, ⟨hclient, hwq⟩ | ⟨-, hwq⟩⟩ := frame_of_step hk
          · rw [hclient, hwq]
            exact hbound
          · exact fun _ => hwq
      | probeFails functionality client reply wqCreated => exact hC.elim
      | remove => exact hC.elim

/-- **From the button to the chip.** In every run on a bus without failures in which no probe
    fails, no client is removed, and the init work is only run while AUX1 is selected, the
    route of the chip is the one that the switch says, whenever nothing is pending and
    something has completed. -/
theorem route_of_run (hr : Steady results)
    (hrun : (session results pins getModule malloc).Run as s)
    (hm : (session results pins getModule malloc).Meets Session.InitWhileClear as)
    (hq : s.kernel.drv.queue.pending = []) (hdone : s.kernel.done ≠ []) :
    (chip s.kernel.drv.board.trace).state.route =
      some (routeOf (Switch.after (soundInit getModule malloc).2 as).aux2) := by
  obtain ⟨bs, t, ht, hD, -, -, rfl⟩ := (simulates_system hr).run hrun hm
  obtain ⟨-, -, hswitch⟩ := ready_of_run hr hrun
  rw [← hswitch]
  exact good_of_run stable_onRoute hr (fun _ _ hc => ⟨hc, .inr keptByReset_onRoute⟩) ht hD hdone
    (by simp [hq])

/-- A boot, the first configuration, and the button of AUX2 pressed before a suspend and a
    resume. -/
def pressedRun : List Session.Act :=
  [.kernel (.act (.probe 7)), .kernel (.act .work), .press .aux2 .delivered 3 1,
    .kernel (.act .suspend), .kernel (.act .resume), .kernel (.act .work)]

theorem route_of_run_pressed :
    ∃ s, (session (Stream'.const 1) (fun _ => false) 0 true).Run pressedRun s ∧
      (chip s.kernel.drv.board.trace).state.route = some (routeOf true) := by
  obtain ⟨s, hs, hp⟩ := Machine.exists_run_of_map
    (session (Stream'.const 1) (fun _ => false) 0 true) pressedRun
    (fun s => s.kernel.drv.queue.pending = [] ∧ s.kernel.done ≠ []) (by decide +kernel)
  obtain ⟨hq, hdone⟩ := of_decide_eq_true hp
  exact ⟨s, hs, route_of_run (steady_const Int.one_nonneg) hs
    (Machine.meets_of_along (by decide +kernel)) hq hdone⟩

end Sounder

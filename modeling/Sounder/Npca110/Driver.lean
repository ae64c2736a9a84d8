import Sounder.Board
import Sounder.Lib.WorkQueue
import Sounder.Npca110.Tables

/-!
# The npca110 driver

The functions of `npca110.c` that act on the chip, the pins, the work queue and
the device structure. A function that follows a null pointer has no result: the
client is null until a probe stores one, and so is the work queue until a probe
creates it. Nor has a call that waits for the semaphore when its count is `0`.

`sendCmd` is the sender of all tables. What it does on the bus is a function of
the results of the transfers (`sendCmd_eq`): it makes the attempts of
`Retry.attempts`, three at most a word, with a delay after the word that follows
a PLL command, and returns `0` exactly when all words get through. Every other
function has a lemma giving its result when the client is bound.
-/

namespace Sounder.Npca110

open Retry

/-- `ENODEV`. -/
def enodev : ℤ := 19

/-- `ENOMEM`. -/
def enomem : ℤ := 12

/-- `AUX1_TO_AUX2`. -/
def aux1ToAux2 : UInt32 := 0

/-- `AUX2_TO_AUX1`. -/
def aux2ToAux1 : UInt32 := 1

/-- `struct npca110_sound_dev`. -/
structure SoundDev where
  /-- The bound client, if not null. -/
  client : Option Client
  /-- The count of the semaphore. -/
  sem : ℕ
  /-- The audio input is AUX2. -/
  earInject : Bool
  deriving DecidableEq

/-- The work items of the driver. -/
inductive Work
  /-- `npca110_init_work`. -/
  | init
  /-- `npca110_sure_work`. -/
  | sure
  deriving DecidableEq

/-- The driver, and the board it acts on. -/
structure State where
  /-- `npca110_dev`. -/
  dev : SoundDev
  /-- `npca110_wq` is not null. -/
  wq : Bool
  /-- The work items pending. -/
  queue : WorkQueue Work
  /-- The board. -/
  board : Board

/-! ## I2C -/

/-- `npca110_i2c_read`: `reply` is what the transfer leaves in the receive buffer. -/
def i2cRead (client : Client) (data : List UInt8) (len : ℕ) (reply : List UInt8) (b : Board) :
    ℤ × Board :=
  b.i2cExchange client (data.take len) reply

/-- `npca110_i2c_write`. -/
def i2cWrite (client : Client) (data : List UInt8) (b : Board) : ℤ × Board :=
  writeLoop client data 3 b

/-- `npca110_i2c_check`: `version[3..5]` are the reply. -/
def i2cCheck (client : Client) (reply : List UInt8) (b : Board) : ℤ × Board :=
  let (ret, b) := i2cRead client [0x00, 0xB8, 0x00] 3 reply b
  if reply = [0x00, 0x60, 0x00] then (1, b) else (ret, b)

/-- The words that need a delay: `0xFF, 0xAB, 0xFB` and `0xFF, 0xAB, 0xFA`. -/
def isPllCmd : List UInt8 → Bool
  | [a, b, c] => a == 0xFF && b == 0xAB && (c == 0xFB || c == 0xFA)
  | _ => false

/-- The loop of `Npca110_SendCmd`, with `n` words left. -/
def sendLoop (client : Client) : ℕ → List UInt8 → Bool → Board → ℤ × Board
  | 0, _, _, b => (0, b)
  | n + 1, cmdList, pllCmdDone, b =>
    let (ret, b) := i2cWrite client (cmdList.take 3) b
    let b := if pllCmdDone then b.udelay 250 else b
    -- the flag is clear by now, and set again by a PLL command
    let pllCmdDone := isPllCmd (cmdList.take 3)
    if ret < 0 then (-1, b) else sendLoop client n (cmdList.drop 3) pllCmdDone b

/-- `Npca110_SendCmd`. -/
def sendCmd (cmdList : List UInt8) (client : Client) (b : Board) : ℤ × Board :=
  sendLoop client (cmdList.length / 3) cmdList false b

/-- The words of a table. -/
def words (cmdList : List UInt8) : List (List UInt8) := groups 3 (cmdList.length / 3) cmdList

/-- What sending the words `ws` puts on the bus; `pll`: a PLL command precedes them. -/
def sendEvents (client : Client) : Bool → List (List UInt8) → Stream' ℤ → List Event
  | _, [], _ => []
  | pll, w :: ws, s =>
    transfers client ((tries 3 s).map (w, ·)) ++ (if pll then [.udelay 250] else []) ++
      if Accepts 3 s then sendEvents client (isPllCmd w) ws (rest 3 s) else []

theorem sendLoop_eq (client : Client) (n : ℕ) (l : List UInt8) (pll : Bool) (b : Board) :
    sendLoop client n l pll b =
      (if Delivers 3 n b.results then 0 else -1,
        { b with
          results := restAll 3 n b.results
          trace := b.trace ++ sendEvents client pll (groups 3 n l) b.results }) := by
  induction n generalizing l pll b with
  | zero => simp [sendLoop, sendEvents, groups, restAll]
  | succ n ih =>
    have hfst := writeLoop_fst_neg_iff client (l.take 3) 2 b
    have hsnd := writeLoop_snd client (l.take 3) 2 b
    rw [sendLoop, i2cWrite]
    simp only [hsnd, hfst]
    by_cases ha : Accepts 3 b.results
    · rw [if_neg (not_not.2 ha), ih]
      cases pll <;>
        simp [Board.written, Board.udelay, sendEvents, groups, restAll, delivers_succ, ha]
    · cases pll <;>
        simp [Board.written, Board.udelay, sendEvents, groups, restAll, delivers_succ, ha]

theorem sendCmd_eq (l : List UInt8) (client : Client) (b : Board) :
    sendCmd l client b =
      (if Delivers 3 (l.length / 3) b.results then 0 else -1,
        { b with
          results := restAll 3 (l.length / 3) b.results
          trace := b.trace ++ sendEvents client false (words l) b.results }) :=
  sendLoop_eq client _ l false b

@[simp] theorem pins_sendCmd (l : List UInt8) (client : Client) (b : Board) :
    (sendCmd l client b).2.pins = b.pins := by rw [sendCmd_eq]

@[simp] theorem results_sendCmd (l : List UInt8) (client : Client) (b : Board) :
    (sendCmd l client b).2.results = restAll 3 (l.length / 3) b.results := by rw [sendCmd_eq]

@[simp] theorem trace_sendCmd (l : List UInt8) (client : Client) (b : Board) :
    (sendCmd l client b).2.trace = b.trace ++ sendEvents client false (words l) b.results := by
  rw [sendCmd_eq]

/-- The words accepted are those of the attempts made. -/
theorem accepted_sendEvents (client : Client) (pll : Bool) (ws : List (List UInt8))
    (s : Stream' ℤ) : accepted (sendEvents client pll ws s) = Retry.accepted (attempts 3 ws s) := by
  induction ws generalizing pll s with
  | nil => rfl
  | cons w ws ih =>
    have hpll : accepted (if pll then [.udelay 250] else []) = [] := by cases pll <;> rfl
    rw [sendEvents, attempts, accepted_append, accepted_append, hpll, accepted_transfers,
      List.append_nil, Retry.accepted_append]
    congr 1
    split_ifs
    · exact ih _ _
    · rfl

/-- Sending words does not touch the pins. -/
theorem noGpio_sendEvents (client : Client) (pll : Bool) (ws : List (List UInt8))
    (s : Stream' ℤ) : NoGpio (sendEvents client pll ws s) := by
  induction ws generalizing pll s with
  | nil => exact noGpio_nil
  | cons w ws ih =>
    rw [sendEvents]
    refine ((noGpio_transfers client _).append ?_).append ?_
    · cases pll
      · exact noGpio_nil
      · exact noGpio_udelay 250
    · split_ifs
      · exact ih _ _
      · exact noGpio_nil

/-- On a bus without failures, the whole table is accepted. -/
theorem accepted_sendEvents_of_steady {s : Stream' ℤ} (h : Steady s) (client : Client)
    (l : List UInt8) : accepted (sendEvents client false (words l) s) = words l := by
  rw [accepted_sendEvents, accepted_attempts_of_delivers (h.delivers (Nat.succ_pos 2))]

/-! ## The device file -/

/-- The `switch` of `npca110_ioctl`. -/
def ioctlSwitch (cmd : UInt32) (s : State) : Option State :=
  if cmd = aux1ToAux2 then do
    let client ← s.dev.client
    -- the result of the send is dropped
    let board := (sendCmd adcWay1to2 client s.board).2
    some { s with board := board.gpioSetValue .ps true, dev.earInject := true }
  else if cmd = aux2ToAux1 then do
    let client ← s.dev.client
    let board := (sendCmd adcWay2to1 client s.board).2
    some { s with board := board, dev.earInject := false }
  else some s

/-- `npca110_ioctl`, whose wait for the semaphore is interrupted by a signal or not. -/
def ioctl (interrupted : Bool) (cmd : UInt32) (s : State) : Option (ℤ × State) :=
  if interrupted then some (-erestartsys, s)
  else if s.dev.sem = 0 then none
  else do
    let s := { s with dev.sem := s.dev.sem - 1 }
    let s ← ioctlSwitch cmd s
    let s := { s with dev.sem := s.dev.sem + 1 }
    some (0, s)

/-- The table of a route: AUX2 is the injected one. -/
def adcWay (earInject : Bool) : List UInt8 := if earInject then adcWay1to2 else adcWay2to1

/-- What a command does once it has the semaphore. -/
theorem ioctlSwitch_eq_some_iff {cmd : UInt32} {s t : State} :
    ioctlSwitch cmd s = some t ↔
      (cmd = aux1ToAux2 ∧ ∃ client, s.dev.client = some client ∧
        t = { s with
          board := (sendCmd (adcWay true) client s.board).2.gpioSetValue .ps true
          dev.earInject := true }) ∨
      (cmd = aux2ToAux1 ∧ ∃ client, s.dev.client = some client ∧
        t = { s with
          board := (sendCmd (adcWay false) client s.board).2
          dev.earInject := false }) ∨
      (cmd ≠ aux1ToAux2 ∧ cmd ≠ aux2ToAux1 ∧ t = s) := by
  have hne : aux1ToAux2 ≠ aux2ToAux1 := by decide
  rw [ioctlSwitch]
  by_cases h0 : cmd = aux1ToAux2
  · simp [h0, hne, Option.bind_eq_some_iff, adcWay, @eq_comm _ t]
  · by_cases h1 : cmd = aux2ToAux1
    · simp [h1, hne.symm, Option.bind_eq_some_iff, adcWay, @eq_comm _ t]
    · simp [h0, h1, eq_comm]

/-- A call is interrupted, and does nothing, or gets the semaphore, runs its command and
    returns `0`. -/
theorem ioctl_eq_some_iff {interrupted : Bool} {cmd : UInt32} {ret : ℤ} {s t : State} :
    ioctl interrupted cmd s = some (ret, t) ↔
      (interrupted = true ∧ ret = -erestartsys ∧ t = s) ∨
      (interrupted = false ∧ ret = 0 ∧ 0 < s.dev.sem ∧ ∃ u,
        ioctlSwitch cmd { s with dev.sem := s.dev.sem - 1 } = some u ∧
        t = { u with dev.sem := u.dev.sem + 1 }) := by
  cases interrupted
  · by_cases hsem : s.dev.sem = 0
    · simp [ioctl, hsem]
    · simp [ioctl, hsem, Nat.pos_of_ne_zero, Option.bind_eq_some_iff, @eq_comm _ t,
        @eq_comm _ ret, and_left_comm]
  · simp [ioctl, @eq_comm _ t, @eq_comm _ ret]

/-- A call of `npca110_ioctl` gives the semaphore back, and leaves the client, the work queue
    and what is pending. -/
theorem ioctl_frame {interrupted : Bool} {cmd : UInt32} {ret : ℤ} {s t : State}
    (h : ioctl interrupted cmd s = some (ret, t)) :
    t.dev.sem = s.dev.sem ∧ t.dev.client = s.dev.client ∧ t.wq = s.wq ∧ t.queue = s.queue := by
  obtain ⟨-, -, rfl⟩ | ⟨-, -, hsem, u, hu, rfl⟩ := ioctl_eq_some_iff.1 h
  · exact ⟨rfl, rfl, rfl, rfl⟩
  have hback : s.dev.sem - 1 + 1 = s.dev.sem := Nat.sub_add_cancel hsem
  obtain ⟨-, _, -, rfl⟩ | ⟨-, _, -, rfl⟩ | ⟨-, -, rfl⟩ := ioctlSwitch_eq_some_iff.1 hu <;>
    exact ⟨hback, rfl, rfl, rfl⟩

/-- `getEarInjectFlag`. -/
def getEarInjectFlag (s : State) : Bool := s.dev.earInject

/-! ## The work items -/

/-- `npca110_init_events`. -/
def initEvents (s : State) : Option State := do
  let client ← s.dev.client
  some { s with board := (sendCmd maxxAudioCmdMusic1Full client s.board).2 }

/-- The reset pulse of `npca110_suspend_resume`. -/
def resetPulse (b : Board) : Board :=
  (b.gpioSetValue .rs false).gpioSetValue .rs true

/-- `npca110_suspend_resume`. -/
def suspendResume (s : State) : Option State := do
  let s := { s with board := resetPulse s.board }
  let client ← s.dev.client
  if s.dev.earInject then
    some { s with board := (sendCmd adcWay1to2 client s.board).2 }
  else
    some { s with board := (sendCmd adcWay2to1 client s.board).2 }

theorem initEvents_eq_some_iff {s t : State} :
    initEvents s = some t ↔ ∃ client, s.dev.client = some client ∧
      t = { s with board := (sendCmd maxxAudioCmdMusic1Full client s.board).2 } := by
  simp [initEvents, Option.bind_eq_some_iff, @eq_comm _ t]

theorem suspendResume_eq_some_iff {s t : State} :
    suspendResume s = some t ↔ ∃ client, s.dev.client = some client ∧
      t = { s with
        board := (sendCmd (adcWay s.dev.earInject) client (resetPulse s.board)).2 } := by
  cases h : s.dev.earInject <;>
    simp [suspendResume, Option.bind_eq_some_iff, adcWay, h, @eq_comm _ t]

/-- The function of a work item. -/
def execWork : Work → State → Option State
  | .init => initEvents
  | .sure => suspendResume

/-- The work queue thread runs the next pending item. -/
def work (s : State) : Option State := do
  let (w, queue) ← s.queue.pop
  execWork w { s with queue := queue }

/-- A work item leaves the device structure, the work queue and what is pending. -/
theorem execWork_frame {w : Work} {s t : State} (h : execWork w s = some t) :
    t.dev = s.dev ∧ t.wq = s.wq ∧ t.queue = s.queue := by
  cases w with
  | init =>
    obtain ⟨_, -, rfl⟩ := initEvents_eq_some_iff.1 h
    exact ⟨rfl, rfl, rfl⟩
  | sure =>
    obtain ⟨_, -, rfl⟩ := suspendResume_eq_some_iff.1 h
    exact ⟨rfl, rfl, rfl⟩

theorem work_eq_some_iff {s t : State} :
    work s = some t ↔ ∃ w queue, s.queue.pop = some (w, queue) ∧
      execWork w { s with queue := queue } = some t := by
  simp [work, Option.bind_eq_some_iff]

/-- `flush_workqueue(npca110_wq)`. -/
def flushWorkqueue (s : State) : Option State :=
  if s.wq then WorkQueue.runAll execWork s.queue.pending { s with queue := .empty } else none

/-! ## The I2C driver -/

/-- `npca110_probe`: `functionality` and `wqCreated` are the results of
    `i2c_check_functionality` and `create_singlethread_workqueue`. -/
def probe (functionality : Bool) (client : Client) (reply : List UInt8) (wqCreated : Bool)
    (s : State) : ℤ × State :=
  if !functionality then (-enodev, s)
  else
    let s := { s with dev.earInject := false }
    let (ret, board) := i2cCheck client reply s.board
    let s := { s with board := board }
    if ret ≠ 1 then (-1, s)
    else
      let s := { s with dev.client := some client, wq := wqCreated }
      if !wqCreated then (-enomem, s)
      else (0, { s with queue := s.queue.queueWork .init })

/-- A probe leaves the semaphore, and does not take the client back. -/
theorem probe_frame (functionality : Bool) (client : Client) (reply : List UInt8)
    (wqCreated : Bool) (s : State) :
    (probe functionality client reply wqCreated s).2.dev.sem = s.dev.sem ∧
      (s.dev.client ≠ none →
        (probe functionality client reply wqCreated s).2.dev.client ≠ none) := by
  cases functionality
  · exact ⟨rfl, id⟩
  · by_cases hret : (i2cCheck client reply s.board).1 = 1 <;> cases wqCreated <;>
      simp [probe, hret]

/-- The pins that `npca110_suspend` drives. -/
def suspendPins (earInject : Bool) (b : Board) : Board :=
  if earInject then (b.gpioSetValue .ps true).gpioSetValue .pa true else b

/-- `npca110_suspend`. -/
def suspend (s : State) : Option State :=
  let s := { s with board := suspendPins s.dev.earInject s.board }
  flushWorkqueue { s with queue := s.queue.cancelWork .sure }

theorem suspend_eq_some_iff {s t : State} :
    suspend s = some t ↔ s.wq = true ∧
      WorkQueue.runAll execWork (s.queue.cancelWork .sure).pending
        { s with board := suspendPins s.dev.earInject s.board, queue := .empty } = some t := by
  simp [suspend, flushWorkqueue]

/-- A call of `npca110_suspend` leaves the device structure and the work queue. -/
theorem suspend_frame {s t : State} (h : suspend s = some t) : t.dev = s.dev ∧ t.wq = s.wq := by
  obtain ⟨-, hrun⟩ := suspend_eq_some_iff.1 h
  refine WorkQueue.runAll_induct (I := fun u => u.dev = s.dev ∧ u.wq = s.wq)
    (fun w _ u v hu hex => ?_) ⟨rfl, rfl⟩ hrun
  obtain ⟨hdev, hwq, -⟩ := execWork_frame hex
  exact ⟨hdev.trans hu.1, hwq.trans hu.2⟩

/-- `npca110_resume`. -/
def resume (s : State) : Option State :=
  if s.wq then some { s with queue := s.queue.queueWork .sure } else none

theorem resume_eq_some_iff {s t : State} :
    resume s = some t ↔ s.wq = true ∧ t = { s with queue := s.queue.queueWork .sure } := by
  simp [resume, @eq_comm _ t]

end Sounder.Npca110

import Sounder.Board
import Sounder.Lib.WorkQueue
import Sounder.Ntp8230.Tables

/-!
# The ntp8230 driver

The functions of `ntp8230.c` that act on the amplifier and on the work queue. A
function that follows a null client has no result.

Nothing here looks at the result of a send: the sends of a work item are made one
after the other, whatever becomes of each. What an item does is therefore given by
the lists of messages it sends (`sends`), each with a sender of its own
(`execWork_eq_some_iff`).
-/

namespace Sounder

open Retry

/-- What sending the messages `rows` leaves behind. -/
def Board.sent (client : Client) (rows : List (List UInt8)) (b : Board) : Board :=
  { b with
    results := restAll 3 rows.length b.results
    trace := b.trace ++ transfers client (attempts 3 rows b.results) }

/-- What several sends leave behind. -/
def Board.sentEach (client : Client) (sends : List (List (List UInt8))) (b : Board) : Board :=
  { b with
    results := restEach 3 sends b.results
    trace := b.trace ++ transfers client (attemptsEach 3 sends b.results) }

@[simp] theorem Board.sentEach_nil (client : Client) (b : Board) : b.sentEach client [] = b := by
  simp [Board.sentEach, attemptsEach, restEach, transfers]

theorem Board.sentEach_cons (client : Client) (rows : List (List UInt8))
    (sends : List (List (List UInt8))) (b : Board) :
    b.sentEach client (rows :: sends) = (b.sent client rows).sentEach client sends := by
  simp [Board.sentEach, Board.sent, attemptsEach, restEach, transfers]

theorem accepted_sentEach (client : Client) (sends : List (List (List UInt8))) (b : Board) :
    accepted (b.sentEach client sends).trace =
      accepted b.trace ++ Retry.accepted (attemptsEach 3 sends b.results) := by
  rw [Board.sentEach, accepted_append, accepted_transfers]

namespace Ntp8230

/-- `ENODEV`. -/
def enodev : ℤ := 19

/-- `ENOMEM`. -/
def enomem : ℤ := 12

/-- The work items of the driver. -/
inductive Work
  /-- `ntp8230_init_work`. -/
  | init
  /-- `ntp8230_suspend_work`. -/
  | suspend
  /-- `ntp8230_resume_work`. -/
  | resume
  deriving DecidableEq

/-- The driver, and the board it acts on. -/
structure State where
  /-- `ntp8230_dev->client`, if not null. -/
  client : Option Client
  /-- `ntp8230_wq` is not null. -/
  wq : Bool
  /-- The work items pending. -/
  queue : WorkQueue Work
  /-- The flag of the npca110 driver, which `getEarInjectFlag` returns. -/
  earInject : Bool
  /-- The board. -/
  board : Board

/-! ## I2C -/

/-- `ntp8230_i2c_read`: `reply` is what the transfer leaves in the receive buffer. -/
def i2cRead (client : Client) (data : List UInt8) (len : ℕ) (reply : List UInt8) (b : Board) :
    ℤ × Board :=
  b.i2cExchange client (data.take len) reply

/-- `ntp8230_i2c_write`. -/
def i2cWrite (client : Client) (data : List UInt8) (b : Board) : ℤ × Board :=
  writeLoop client data 3 b

/-- `ntp8230_i2c_check`: the replies are `test_tab[1]` and `data_tab[1]`, the chip id. -/
def i2cCheck (client : Client) (test data : UInt8) (b : Board) : ℤ × Board :=
  let (_, b) := i2cRead client [0x1F, 0x00] 1 [test] b
  let (ret, b) := i2cRead client [0x7F, 0x00] 1 [data] b
  if data = 0x98 then (1, b) else (ret, b)

/-- The loop of `ntp8230_SendCmd` and `ntp8230_Send5Cmd`, with `n` messages of `k` bytes
    left. -/
def sendLoop (client : Client) (k : ℕ) : ℕ → List UInt8 → Board → ℤ × Board
  | 0, _, b => (0, b)
  | n + 1, cmdList, b =>
    let (ret, b) := i2cWrite client (cmdList.take k) b
    if ret < 0 then (-1, b) else sendLoop client k n (cmdList.drop k) b

/-- `ntp8230_SendCmd`. -/
def sendCmd (cmdList : List UInt8) (client : Client) (b : Board) : ℤ × Board :=
  sendLoop client 2 (cmdList.length / 2) cmdList b

/-- `ntp8230_Send5Cmd`. -/
def send5Cmd (cmdList : List UInt8) (client : Client) (b : Board) : ℤ × Board :=
  sendLoop client 5 (cmdList.length / 5) cmdList b

theorem i2cWrite_snd (client : Client) (data : List UInt8) (b : Board) :
    (i2cWrite client data b).2 = b.sent client [data] := by
  rw [i2cWrite, writeLoop_snd]
  by_cases ha : Accepts 3 b.results <;>
    simp [Board.written, Board.sent, restAll, attempts, ha]

theorem sendLoop_eq (client : Client) (k n : ℕ) (l : List UInt8) (b : Board) :
    sendLoop client k n l b =
      (if Delivers 3 n b.results then 0 else -1, b.sent client (groups k n l)) := by
  induction n generalizing l b with
  | zero => simp [sendLoop, Board.sent, groups, attempts, restAll, transfers]
  | succ n ih =>
    have hfst := writeLoop_fst_neg_iff client (l.take k) 2 b
    have hsnd := writeLoop_snd client (l.take k) 2 b
    rw [sendLoop, i2cWrite]
    simp only [hsnd, hfst]
    by_cases ha : Accepts 3 b.results
    · rw [if_neg (not_not.2 ha), ih]
      simp [Board.written, Board.sent, groups, restAll, attempts, transfers, delivers_succ, ha]
    · rw [if_pos ha]
      simp [Board.written, Board.sent, groups, restAll, attempts, transfers, delivers_succ, ha]

theorem sendCmd_snd {rows : List Row} (h : ∀ row ∈ rows, row.length = 2) (client : Client)
    (b : Board) : (sendCmd rows.flatten client b).2 = b.sent client rows := by
  rw [sendCmd, sendLoop_eq, groups_flatten (Nat.succ_pos 1) h]

theorem send5Cmd_snd {rows : List Row} (h : ∀ row ∈ rows, row.length = 5) (client : Client)
    (b : Board) : (send5Cmd rows.flatten client b).2 = b.sent client rows := by
  rw [send5Cmd, sendLoop_eq, groups_flatten (Nat.succ_pos 4) h]

/-! ## The work items -/

/-- `ntp8230_init`. -/
def init (client : Client) (b : Board) : Board :=
  -- the results of the sends are dropped
  let b := (sendCmd initPart1.flatten client b).2
  let b := (i2cWrite client [0x7E, 0x03] b).2
  let b := (send5Cmd drcPart0.flatten client b).2
  let b := (i2cWrite client [0x7E, 0x00] b).2
  let b := (sendCmd drcPart1.flatten client b).2
  let b := (i2cWrite client [0x7E, 0x03] b).2
  let b := (send5Cmd highfreqDiv.flatten client b).2
  let b := (i2cWrite client [0x7E, 0x04] b).2
  let b := (send5Cmd lowfreqDiv.flatten client b).2
  let b := (i2cWrite client [0x7E, 0x00] b).2
  (sendCmd initPart4.flatten client b).2

/-- `ntp8230_init_events`. -/
def initEvents (s : State) : Option State := do
  let client ← s.client
  some { s with board := init client s.board }

/-- `ntp8230_resume_event`. -/
def resumeEvent (s : State) : Option State := do
  let client ← s.client
  some { s with board := init client s.board }

/-- `ntp8230_suspend_event`. -/
def suspendEvent (s : State) : Option State :=
  if !s.earInject then do
    let client ← s.client
    let b := (i2cWrite client [0x26, 0x07] s.board).2
    let b := (i2cWrite client [0x28, 0x02] b).2
    let b := (i2cWrite client [0x27, 0x07] b).2
    some { s with board := b }
  else some s

/-- The function of a work item. -/
def execWork : Work → State → Option State
  | .init => initEvents
  | .suspend => suspendEvent
  | .resume => resumeEvent

/-- The work queue thread runs the next pending item. -/
def work (s : State) : Option State := do
  let (w, queue) ← s.queue.pop
  execWork w { s with queue := queue }

/-- The sends of `ntp8230_init`. -/
def initSends : List (List Row) :=
  [initPart1, [[0x7E, 0x03]], drcPart0, [[0x7E, 0x00]], drcPart1, [[0x7E, 0x03]], highfreqDiv,
    [[0x7E, 0x04]], lowfreqDiv, [[0x7E, 0x00]], initPart4]

/-- The sends of `ntp8230_suspend_event`, which mute the amplifier. -/
def muteSends : List (List Row) := [[[0x26, 0x07]], [[0x28, 0x02]], [[0x27, 0x07]]]

/-- The sends of a work item. -/
def sends : Work → Bool → List (List Row)
  | .suspend, earInject => if earInject then [] else muteSends
  | _, _ => initSends

theorem init_eq (client : Client) (b : Board) : init client b = b.sentEach client initSends := by
  rw [init, sendCmd_snd (by decide), i2cWrite_snd, send5Cmd_snd (by decide), i2cWrite_snd,
    sendCmd_snd (by decide), i2cWrite_snd, send5Cmd_snd (by decide), i2cWrite_snd,
    send5Cmd_snd (by decide), i2cWrite_snd, sendCmd_snd (by decide), initSends]
  simp only [Board.sentEach_cons, Board.sentEach_nil]

/-- A work item makes its sends. -/
theorem execWork_of_client {w : Work} {s : State} {client : Client} (hc : s.client = some client) :
    execWork w s = some { s with board := s.board.sentEach client (sends w s.earInject) } := by
  cases w with
  | suspend =>
    cases hf : s.earInject <;>
      simp [execWork, suspendEvent, hf, hc, sends, muteSends, i2cWrite_snd, Board.sentEach_cons]
    · rw [← hc, ← hf]
  | _ => simp [execWork, initEvents, resumeEvent, hc, init_eq, sends]

/-- A work item leaves the driver as it is, but for the board. -/
theorem execWork_frame {w : Work} {s t : State} (h : execWork w s = some t) :
    t.client = s.client ∧ t.wq = s.wq ∧ t.queue = s.queue ∧ t.earInject = s.earInject := by
  cases w with
  | suspend =>
    simp only [execWork, suspendEvent] at h
    split_ifs at h
    · obtain ⟨_, -, he⟩ := Option.bind_eq_some_iff.1 h
      exact Option.some.inj he ▸ ⟨rfl, rfl, rfl, rfl⟩
    · exact Option.some.inj h ▸ ⟨rfl, rfl, rfl, rfl⟩
  | _ =>
    obtain ⟨_, -, he⟩ := Option.bind_eq_some_iff.1 h
    exact Option.some.inj he ▸ ⟨rfl, rfl, rfl, rfl⟩

theorem work_eq_some_iff {s t : State} :
    work s = some t ↔ ∃ w queue, s.queue.pop = some (w, queue) ∧
      execWork w { s with queue := queue } = some t := by
  simp [work, Option.bind_eq_some_iff]

/-! ## The I2C driver -/

/-- `ntp8230_probe`: `functionality` and `wqCreated` are the results of
    `i2c_check_functionality` and `create_singlethread_workqueue`. -/
def probe (functionality : Bool) (client : Client) (test data : UInt8) (wqCreated : Bool)
    (s : State) : ℤ × State :=
  if !functionality then (-enodev, s)
  else
    let (ret, board) := i2cCheck client test data s.board
    let s := { s with board := board }
    if ret ≠ 1 then (-1, s)
    else
      let s := { s with client := some client, wq := wqCreated }
      if !wqCreated then (-enomem, s)
      else (0, { s with queue := s.queue.queueWork .init })

/-- The PM callbacks. -/
inductive Pm
  | suspend
  | resume
  deriving DecidableEq

/-- The calls of `ntp8230_suspend` and `ntp8230_resume`. -/
def Pm.calls : Pm → List (WorkQueue.Call Work)
  | .suspend => [.cancel .resume, .flush, .queue .suspend]
  | .resume => [.cancel .suspend, .flush, .queue .resume]

end Ntp8230

end Sounder

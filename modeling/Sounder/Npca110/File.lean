import Sounder.DeviceFile
import Sounder.Npca110.Node
import Sounder.Npca110.System

/-!
# The device file

The device file of the codec, with any number of threads that call its operations, statement
by statement. An `ioctl` is the `down_interruptible`, the `switch`, each word of
`Npca110_SendCmd` with its attempts, the pin, the flag, the `up` and the `return`. The
semaphore of the device structure is initialised to `6`. In between, clients are probed and
removed, the power management core suspends and resumes, and the work queue runs its items
(`env`). Taken with nothing in between, the statements are the functions of the driver
(`exec_call`).

A route command that finds no client kills its thread, which takes the semaphore with it.
In every run:

* the count of the semaphore, and the threads that have taken it and not given it back, are
  `6`, and every thread has given it back as often as it took it, but for the time it has it
  in hand (`sem_add_holders`);
* who waits can still get in, one way or another, exactly if such commands were not six
  (`served_iff`);
* from when a client is stored, nobody is killed any more, and who waits gets in by the
  steps of those inside alone, unless there were six (`served_of_stored`);
* without new calls, those that have begun come to their end, in whatever order they take
  their steps (`drains_of_run`).
-/

namespace Sounder.Npca110.File

open DeviceFile

/-! ## The operations -/

/-- The points of `npca110_ioctl` while it has the semaphore, but for the `up`. -/
inductive Own
  /-- Before the `switch`. -/
  | switch (cmd : UInt32)
  /-- In the loop of `Npca110_SendCmd`, with `n` words left. -/
  | send (earInject : Bool) (client : Client) (n : ℕ) (cmdList : List UInt8) (pllCmdDone : Bool)
  /-- Before the pin is driven. -/
  | pin
  /-- Before the flag is written. -/
  | store (earInject : Bool)
  deriving DecidableEq

/-- The operations. -/
abbrev Op := DeviceFile.Op

/-- Their points. -/
abbrev Point := DeviceFile.Point Own

/-- What follows `Npca110_SendCmd`, whose result is dropped. -/
def afterSend : Bool → Point
  | true => .own .pin
  | false => .own (.store false)

/-- The call of `Npca110_SendCmd` with the table of a route. -/
def beginSend (earInject : Bool) (client : Client) : Own :=
  .send earInject client ((adcWay earInject).length / 3) (adcWay earInject) false

/-- A statement of `npca110_ioctl`. -/
def own : Own → State → Option (State × Point)
  | .switch cmd, s =>
    if cmd = aux1ToAux2 then s.dev.client.map fun client => (s, .own (beginSend true client))
    else if cmd = aux2ToAux1 then
      s.dev.client.map fun client => (s, .own (beginSend false client))
    else some (s, .up 0)
  | .send earInject _ 0 _ _, s => some (s, afterSend earInject)
  | .send earInject client (n + 1) cmdList pllCmdDone, s =>
    let (ret, b) := i2cWrite client (cmdList.take 3) s.board
    let b := if pllCmdDone then b.udelay 250 else b
    let pllCmdDone := isPllCmd (cmdList.take 3)
    let s := { s with board := b }
    if ret < 0 then some (s, afterSend earInject)
    else some (s, .own (.send earInject client n (cmdList.drop 3) pllCmdDone))
  | .pin, s => some ({ s with board := s.board.gpioSetValue .ps true }, .own (.store true))
  | .store earInject, s => some ({ s with dev.earInject := earInject }, .up 0)

/-- The other calls of the driver. -/
inductive Env
  /-- `npca110_probe`. -/
  | probe (functionality : Bool) (client : Client) (reply : List UInt8) (wqCreated : Bool)
  /-- `npca110_i2c_remove`, after a probe that succeeded. -/
  | remove
  /-- `npca110_suspend`. -/
  | suspend
  /-- `npca110_resume`. -/
  | resume
  /-- The work queue thread runs one item. -/
  | work
  deriving DecidableEq

/-- A call of the driver. -/
def env : Env → State → Option State
  | .probe functionality client reply wqCreated, s =>
    some (probe functionality client reply wqCreated s).2
  | .remove, s => if s.wq then some (i2cRemove s) else none
  | .suspend, s => suspend s
  | .resume, s => resume s
  | .work, s => work s

/-- The other calls leave the semaphore, and do not take the client back. -/
theorem env_frame {e : Env} {s t : State} (h : env e s = some t) :
    t.dev.sem = s.dev.sem ∧ (s.dev.client ≠ none → t.dev.client ≠ none) := by
  cases e with
  | probe functionality client reply wqCreated =>
    obtain rfl := Option.some.inj h
    exact probe_frame functionality client reply wqCreated s
  | remove =>
    simp only [env] at h
    split_ifs at h
    obtain rfl := Option.some.inj h
    exact ⟨rfl, id⟩
  | suspend =>
    have hdev := (suspend_frame h).1
    exact ⟨by rw [hdev], by rw [hdev]; exact id⟩
  | resume =>
    obtain ⟨-, rfl⟩ := resume_eq_some_iff.1 h
    exact ⟨rfl, id⟩
  | work =>
    obtain ⟨w, q, -, hex⟩ := work_eq_some_iff.1 h
    have hdev := (execWork_frame hex).1
    exact ⟨by rw [hdev], by rw [hdev]; exact id⟩

/-! ## The statements -/

/-- The rest of `npca110_ioctl` after `Npca110_SendCmd`, up to the `up`. -/
def routed (earInject : Bool) (s : State) : State :=
  { s with
    board := if earInject then s.board.gpioSetValue .ps true else s.board
    dev.earInject := earInject }

/-- What the `switch` does: a route command goes on with its table if it finds a client, and
    any other command is ignored. -/
theorem switch_cases (cmd : UInt32) (s : State) :
    (∃ earInject, (cmd = aux1ToAux2 ∨ cmd = aux2ToAux1) ∧
        own (.switch cmd) s =
          s.dev.client.map (fun client => (s, .own (beginSend earInject client))) ∧
        ioctlSwitch cmd s = s.dev.client.map fun client =>
          routed earInject { s with board := (sendCmd (adcWay earInject) client s.board).2 }) ∨
      (own (.switch cmd) s = some (s, .up 0) ∧ ioctlSwitch cmd s = some s) := by
  by_cases h0 : cmd = aux1ToAux2
  · refine .inl ⟨true, .inl h0, if_pos h0, ?_⟩
    rw [ioctlSwitch, if_pos h0]
    cases s.dev.client <;> rfl
  · by_cases h1 : cmd = aux2ToAux1
    · refine .inl ⟨false, .inr h1, ?_, ?_⟩
      · rw [own, if_neg h0, if_pos h1]
      · rw [ioctlSwitch, if_neg h0, if_pos h1]
        cases s.dev.client <;> rfl
    · refine .inr ⟨?_, ?_⟩
      · rw [own, if_neg h0, if_neg h1]
      · rw [ioctlSwitch, if_neg h0, if_neg h1]

/-- How many steps are left before `npca110_ioctl` returns, at most. -/
def Own.left : Own → ℕ
  | .store _ => 2
  | .pin => 3
  | .send _ _ n _ _ => n + 4
  | .switch _ => 13

theorem left_beginSend_lt (earInject : Bool) (client : Client) (cmd : UInt32) :
    (beginSend earInject client).left < (Own.switch cmd).left := by
  have hlen : (adcWay earInject).length = 24 := by cases earInject <;> rfl
  simp [beginSend, Own.left, hlen]

/-- The thread goes on at `k'`, with the semaphore in hand, and less than `n` steps left. -/
structure GoesOn (n : ℕ) (k' : Point) : Prop where
  held : k'.held = true
  left_lt : k'.left Own.left < n
  zero : k'.Zero

theorem goesOn_own {k : Own} {n : ℕ} (h : k.left < n) : GoesOn n (.own k) := ⟨rfl, h, trivial⟩

theorem goesOn_up {n : ℕ} (h : 1 < n) : GoesOn n (.up 0) := ⟨rfl, h, rfl⟩

theorem goesOn_afterSend (earInject : Bool) {n : ℕ} (h : 3 < n) :
    GoesOn n (afterSend earInject) := by
  cases earInject
  · exact goesOn_own (Nat.lt_of_succ_lt h)
  · exact goesOn_own h

/-- What a statement of `npca110_ioctl` does: it leads on, and leaves the count and the
    client; or it is a route command that finds no client. -/
theorem own_cases (k : Own) (s : State) :
    (∃ t k', own k s = some (t, k') ∧ GoesOn k.left k' ∧
        t.dev.sem = s.dev.sem ∧ t.dev.client = s.dev.client) ∨
      (own k s = none ∧ s.dev.client = none ∧
        ∃ cmd, k = .switch cmd ∧ (cmd = aux1ToAux2 ∨ cmd = aux2ToAux1)) := by
  cases k with
  | switch cmd =>
    obtain ⟨earInject, hcmd, hown, -⟩ | ⟨hown, -⟩ := switch_cases cmd s
    · cases hc : s.dev.client with
      | none => exact .inr ⟨by rw [hown, hc]; rfl, rfl, cmd, rfl, hcmd⟩
      | some client =>
        exact .inl ⟨s, .own (beginSend earInject client), by rw [hown, hc]; rfl,
          goesOn_own (left_beginSend_lt earInject client cmd), rfl, hc⟩
    · exact .inl ⟨s, .up 0, hown, goesOn_up (by simp [Own.left]), rfl, rfl⟩
  | send earInject client n cmdList pllCmdDone =>
    cases n with
    | zero =>
      exact .inl ⟨s, afterSend earInject, rfl, goesOn_afterSend earInject (Nat.lt_succ_self 3), rfl,
        rfl⟩
    | succ n =>
      by_cases h : (i2cWrite client (cmdList.take 3) s.board).1 < 0
      · exact .inl ⟨_, afterSend earInject, if_pos h,
          goesOn_afterSend earInject (by simp only [Own.left]; omega), rfl, rfl⟩
      · exact .inl ⟨_, .own (.send earInject client n (cmdList.drop 3) _), if_neg h,
          goesOn_own (by simp only [Own.left]; omega), rfl, rfl⟩
  | pin => exact .inl ⟨_, .own (.store true), rfl, goesOn_own (by decide), rfl, rfl⟩
  | store earInject => exact .inl ⟨_, .up 0, rfl, goesOn_up (by simp [Own.left]), rfl, rfl⟩

/-- A statement that leads on. -/
theorem own_frame {k : Own} {k' : Point} {s t : State} (h : own k s = some (t, k')) :
    GoesOn k.left k' ∧ t.dev.sem = s.dev.sem ∧ t.dev.client = s.dev.client := by
  obtain ⟨u, k'', hk, hspec⟩ | ⟨hk, -⟩ := own_cases k s
  · obtain ⟨rfl, rfl⟩ := Prod.mk.inj (Option.some.inj (hk.symm.trans h))
    exact hspec
  · rw [hk] at h
    cases h

/-- The device file of the codec. -/
def file : DeviceFile State Own Env where
  count s := s.dev.sem
  setCount n s := { s with dev.sem := n }
  ioctl cmd := .downOwn (.switch cmd)
  own := own
  env := env
  count_setCount _ _ := rfl
  count_own h := (own_frame h).2.1
  count_env h := (env_frame h).1

/-- `npca110_read`. -/
def read : Bool → ℕ → List UInt8 → ℕ → State → Option ((ℤ × Option (List UInt8)) × State) :=
  file.read

/-- `npca110_write`. -/
def write : Bool → State → Option (ℤ × State) := file.write

/-- The operations, with the semaphore. -/
abbrev gate : Gate State Point Op Env := file.gate

/-- The threads, from the load of the driver on. -/
abbrev machine (results : Stream' ℤ) (pins : Pin → Bool) :
    Machine (Gate.Crowd State Point ℕ) (Gate.Turn Op Env ℕ) :=
  gate.machine ℕ (loaded results pins)

/-- The statements of `npca110_ioctl` lead to its `up`. -/
theorem leads : file.Leads Own.left where
  ioctl _ := ⟨rfl, trivial⟩
  own h := ⟨(own_frame h).1.held, (own_frame h).1.left_lt, (own_frame h).1.zero⟩

/-! ## The statements are the functions of the driver -/

section Ends

variable {interrupted : Bool} {s t : State} {v : ℤ}

theorem ends_afterSend_iff {earInject : Bool} :
    gate.Ends interrupted (afterSend earInject) s v t ↔
      gate.Ends interrupted (.up 0) (routed earInject s) v t := by
  cases earInject with
  | false => exact Gate.ends_of_act rfl rfl
  | true =>
    have hstore {s : State} : gate.Ends interrupted (.own (.store true)) s v t ↔
        gate.Ends interrupted (.up 0) { s with dev.earInject := true } v t :=
      Gate.ends_of_act rfl rfl
    exact Iff.trans (Gate.ends_of_act rfl rfl) hstore

/-- What is left of the loop, and the rest of the call. -/
theorem ends_send_iff {earInject pll : Bool} {client : Client} {n : ℕ} {l : List UInt8} :
    gate.Ends interrupted (.own (.send earInject client n l pll)) s v t ↔
      gate.Ends interrupted (.up 0)
        (routed earInject { s with board := (sendLoop client n l pll s.board).2 }) v t := by
  induction n generalizing l pll s with
  | zero => exact Iff.trans (Gate.ends_of_act rfl rfl) ends_afterSend_iff
  | succ n ih =>
    rw [sendLoop]
    by_cases hret : (i2cWrite client (l.take 3) s.board).1 < 0
    · -- the loop gives up, and the rest of the call does not look at its result
      simp only [hret, if_true]
      exact Iff.trans (Gate.ends_of_act rfl (if_pos hret)) ends_afterSend_iff
    · simp only [hret, if_false]
      exact Iff.trans (Gate.ends_of_act rfl (if_neg hret)) ih

/-- The table of a route, and the rest of the call. -/
theorem ends_beginSend_iff {earInject : Bool} {client : Client} :
    gate.Ends interrupted (.own (beginSend earInject client)) s v t ↔
      gate.Ends interrupted (.up 0)
        (routed earInject { s with board := (sendCmd (adcWay earInject) client s.board).2 }) v t :=
  ends_send_iff

/-- The `switch` of `npca110_ioctl`. -/
theorem ends_switch_iff {cmd : UInt32} : gate.Ends interrupted (.own (.switch cmd)) s v t ↔
    ∃ u, ioctlSwitch cmd s = some u ∧ gate.Ends interrupted (.up 0) u v t := by
  obtain ⟨earInject, -, hown, hswitch⟩ | ⟨hown, hswitch⟩ := switch_cases cmd s
  · cases hc : s.dev.client with
    | none =>
      refine iff_of_false (Gate.not_ends_of_act (f := own (.switch cmd)) rfl ?_) ?_
      · rw [hown, hc]
        rfl
      · simp [hswitch, hc]
    | some client =>
      have hbegin : gate.Ends interrupted (.own (.switch cmd)) s v t ↔
          gate.Ends interrupted (.own (beginSend earInject client)) s v t :=
        Gate.ends_of_act (f := own (.switch cmd)) rfl (by rw [hown, hc]; rfl)
      simp [hbegin, ends_beginSend_iff, hswitch, hc]
  · have hup : gate.Ends interrupted (.own (.switch cmd)) s v t ↔
        gate.Ends interrupted (.up 0) s v t :=
      Gate.ends_of_act (f := own (.switch cmd)) rfl hown
    simp [hup, hswitch]

/-- The statements of `npca110_ioctl`. -/
theorem ends_ioctl_iff {cmd : UInt32} : gate.Ends interrupted (gate.entry (.ioctl cmd)) s v t ↔
    ioctl interrupted cmd s = some (v, t) := by
  refine Iff.trans (ends_down_iff rfl) (Iff.trans ?_ ioctl_eq_some_iff.symm)
  refine or_congr_right (and_congr_right fun _ => ?_)
  simp only [ends_switch_iff, ends_up_iff, down_eq_some_iff]
  constructor
  · rintro ⟨_, ⟨hsem, rfl⟩, u, hu, rfl, rfl⟩
    exact ⟨rfl, hsem, u, hu, rfl⟩
  · rintro ⟨rfl, hsem, u, hu, rfl⟩
    exact ⟨_, ⟨hsem, rfl⟩, u, hu, rfl, rfl⟩

end Ends

variable {results : Stream' ℤ} {pins : Pin → Bool} {s t : Gate.Crowd State Point ℕ} {i : ℕ}
  {ts us : List (Gate.Turn Op Env ℕ)}

/-- A whole call, with nothing in between, is the function of the driver. -/
theorem exec_call {interrupted : Bool} {buffer : List UInt8} {op : Op} {ret : ℤ} {u : State}
    (hi : s.place i = .idle)
    (h : file.run ioctl interrupted buffer op s.shared = some (ret, u)) :
    ∃ ms : List (Gate.Move Op), (machine results pins).exec s
      ((.call op :: ms).map (.thread i)) = some ⟨u, s.place⟩ :=
  exec_of_run ends_ioctl_iff.2 hi h

/-! ## The semaphore -/

/-- In every run, the count of the semaphore, and the threads that have it or were killed
    with it, are `6`; and every thread has taken it as often as it has given it back, and once
    more if it has it. -/
theorem sem_add_holders (hrun : (machine results pins).Run ts s) :
    (s.shared.dev.sem : ℕ∞) + {i | (s.place i).holds Point.held = true}.encard = 6 ∧
      ∀ i, (machine results pins).tally (Gate.downs i) (machine results pins).init ts =
        (machine results pins).tally (gate.ups i) (machine results pins).init ts +
          ((s.place i).holds Point.held).toNat :=
  ⟨Gate.fair_of_run leads.paired hrun, Gate.downs_eq_of_run leads.paired hrun⟩

/-- A thread that is killed, one whose wait is interrupted, one that has jumped to
    `READ_OUT` and returned, and one that has the semaphore. -/
def someTurns : List (Gate.Turn Op Env ℕ) :=
  [.thread 0 (.call (.ioctl aux1ToAux2)), .thread 1 (.call .write),
    .thread 2 (.call (.read 8 0)), .thread 0 .down, .thread 1 .interrupt, .thread 2 .down,
    .thread 0 .next, .thread 2 .next, .thread 2 .next, .thread 1 .next, .thread 2 .next,
    .thread 3 (.call .write), .thread 3 .down]

theorem sem_add_holders_some :
    ∃ s, (machine (Stream'.const 1) fun _ => false).Run someTurns s ∧ s.shared.dev.sem = 4 ∧
      (s.shared.dev.sem : ℕ∞) + {i | (s.place i).holds Point.held = true}.encard = 6 := by
  obtain ⟨s, hs, hsem⟩ := Machine.exists_run_of_map (machine (Stream'.const 1) fun _ => false)
    someTurns (fun s => s.shared.dev.sem = 4) (by decide +kernel)
  exact ⟨s, hs, of_decide_eq_true hsem, (sem_add_holders hs).1⟩

/-! ## Who waits gets in -/

/-- A client has been stored. -/
def Stored (s : State) : Prop := s.dev.client ≠ none

theorem live : gate.Live Stored (Point.left Own.left) :=
  leads.live (fun _ _ hs => hs)
    (fun hs h => by
      rw [Stored, (own_frame h).2.2]
      exact hs)
    (fun hs h => (env_frame h).2 hs)
    (fun k s hs h => by
      obtain ⟨t, k', hk, -⟩ | ⟨-, hc, -⟩ := own_cases k s
      · cases hk.symm.trans h
      · exact hs hc)
    fun s => ⟨.probe true 0 [0x00, 0x60, 0x00] true, _, rfl, by simp [Stored, probe, i2cCheck]⟩

/-- A route command is about to send its table, and finds no client. -/
def findsNone (s : Gate.Crowd State Point ℕ) : Gate.Turn Op Env ℕ → Bool
  | .thread i .next =>
    match s.place i with
    | .inside (.own (.switch cmd)) =>
      (cmd == aux1ToAux2 || cmd == aux2ToAux1) && s.shared.dev.client.isNone
    | _ => false
  | _ => false

/-- This is what kills a thread, and nothing else does. -/
theorem kills_eq (s : Gate.Crowd State Point ℕ) (a : Gate.Turn Op Env ℕ) :
    gate.kills s a = findsNone s a := by
  cases a with
  | env e => rfl
  | thread i m =>
    rw [Bool.eq_iff_iff, Gate.kills_iff]
    constructor
    · rintro ⟨rfl, k, f, hi, hk, hf⟩
      obtain ⟨j, rfl, hj⟩ := own_of_act_eq_none hk hf
      obtain ⟨t, k', hsome, -⟩ | ⟨-, hc, cmd, rfl, hcmd⟩ := own_cases j s.shared
      · cases hj.symm.trans hsome
      · simpa [findsNone, hi, hc] using hcmd
    · intro h
      cases m with
      | next =>
        simp only [findsNone] at h
        split at h
        · next cmd hi =>
          simp only [Bool.and_eq_true, Bool.or_eq_true, beq_iff_eq,
            Option.isNone_iff_eq_none] at h
          obtain ⟨hcmd, hc⟩ := h
          refine ⟨rfl, _, own (.switch cmd), hi, rfl, ?_⟩
          by_cases h0 : cmd = aux1ToAux2
          · simp only [own, if_pos h0, hc, Option.map_none]
          · simp only [own, if_neg h0, if_pos (hcmd.resolve_left h0), hc, Option.map_none]
        · cases h
      | _ => cases h

theorem kills_eq_findsNone : gate.kills (ι := ℕ) = findsNone :=
  funext fun s => funext (kills_eq s)

/-- The threads killed are as many as the route commands that found no client. -/
theorem deaths_eq (hrun : (machine results pins).Run ts s) :
    Gate.deaths s =
      ((machine results pins).tally findsNone (machine results pins).init ts : ℕ) := by
  rw [← kills_eq_findsNone]
  exact Gate.deaths_of_run hrun

/-- Who waits can get in, one way or another, exactly if there were not six route commands
    that found no client. -/
theorem served_iff (hrun : (machine results pins).Run ts s) {k : Point}
    (hi : s.place i = .inside k) (hk : gate.Waits k) :
    (∃ us t, (machine results pins).exec s us = some t ∧
        (gate.step t (.thread i .down)).isSome) ↔
      (machine results pins).tally findsNone (machine results pins).init ts ≠ 6 := by
  have h := live.servable_iff leads.paired hrun hi hk
  rw [deaths_eq hrun] at h
  exact h.trans (not_congr Nat.cast_inj)

/-- Six route commands before the first probe, and a seventh call. -/
def sixLost : List (Gate.Turn Op Env ℕ) :=
  (List.range 6).flatMap (fun i =>
    [.thread i (.call (.ioctl aux1ToAux2)), .thread i .down, .thread i .next]) ++
    [.thread 6 (.call .write)]

/-- The seventh call waits for good. -/
theorem served_iff_sixLost :
    ∃ s, (machine (Stream'.const 1) fun _ => false).Run sixLost s ∧
      ¬∃ us t, (machine (Stream'.const 1) fun _ => false).exec s us = some t ∧
        (gate.step t (.thread 6 .down)).isSome := by
  obtain ⟨s, hs, hp⟩ := Machine.exists_run_of_map (machine (Stream'.const 1) fun _ => false)
    sixLost (fun s => s.place 6 = .inside .downWrite) (by decide +kernel)
  refine ⟨s, hs, fun h => (served_iff hs (of_decide_eq_true hp) ⟨_, _, rfl⟩).1 h ?_⟩
  decide +kernel

/-- From when a client is stored, no route command fails to find one, and who waits gets in
    by the steps of those inside, unless six had found none before. -/
theorem served_of_stored (hrun : (machine results pins).Run ts s)
    (hs : s.shared.dev.client ≠ none) (ht : (machine results pins).exec s us = some t) :
    (machine results pins).tally findsNone s us = 0 ∧
      ((machine results pins).tally findsNone (machine results pins).init ts ≠ 6 →
        ∀ i k, t.place i = .inside k → gate.Waits k →
          ∃ vs u, (∀ a ∈ vs, ∃ j, a = .thread j .next) ∧
            (machine results pins).exec t vs = some u ∧
            (gate.step u (.thread i .down)).isSome) := by
  have hst := live.safe_of_exec hs ht
  have hnone : (machine results pins).tally findsNone s us = 0 := by
    rw [← kills_eq_findsNone]
    exact live.tally_of_safe hs ht
  refine ⟨hnone, fun hsix i k hi hk => live.servable_of_safe leads.paired
    (Gate.fair_of_run leads.paired (hrun.append ht)) hst hi hk ?_⟩
  rw [Gate.deaths_of_exec ht, kills_eq_findsNone, hnone, Nat.cast_zero, add_zero, deaths_eq hrun]
  exact fun h => hsix (Nat.cast_inj.1 h)

/-- A command that finds no client, and a probe. -/
def storedTurns : List (Gate.Turn Op Env ℕ) :=
  [.thread 0 (.call (.ioctl aux1ToAux2)), .thread 0 .down, .thread 0 .next,
    .env (.probe true 7 [0x00, 0x60, 0x00] true)]

/-- Another command on its way, and a call that waits. -/
def laterTurns : List (Gate.Turn Op Env ℕ) :=
  [.thread 1 (.call (.ioctl aux1ToAux2)), .thread 1 .down, .thread 1 .next,
    .thread 2 (.call .write)]

theorem served_of_stored_probed :
    ∃ s t, (machine (Stream'.const 1) fun _ => false).Run storedTurns s ∧
      (machine (Stream'.const 1) fun _ => false).exec s laterTurns = some t ∧
      ∃ vs u, (∀ a ∈ vs, ∃ j, a = .thread j .next) ∧
        (machine (Stream'.const 1) fun _ => false).exec t vs = some u ∧
        (gate.step u (.thread 2 .down)).isSome := by
  obtain ⟨s, hs, hc⟩ := Machine.exists_run_of_map (machine (Stream'.const 1) fun _ => false)
    storedTurns (fun s => s.shared.dev.client = some 7) (by decide +kernel)
  obtain ⟨t, ht, hp⟩ := Machine.exists_run_of_map (machine (Stream'.const 1) fun _ => false)
    (storedTurns ++ laterTurns) (fun t => t.place 2 = .inside .downWrite) (by decide +kernel)
  obtain ⟨s', hs', hex⟩ := Machine.run_append_iff.1 ht
  obtain rfl := hs.unique hs'
  have hstored : s.shared.dev.client ≠ none := by simp [of_decide_eq_true hc]
  exact ⟨s, t, hs, hex,
    (served_of_stored hs hstored hex).2 (by decide +kernel) 2 .downWrite (of_decide_eq_true hp)
      ⟨_, _, rfl⟩⟩

/-- Without new calls, those that have begun come to their end within so many steps, whoever
    takes them, and whatever the bus does: then nobody has the semaphore, and nobody waits
    unless six were killed. -/
theorem drains_of_run (hrun : (machine results pins).Run ts s) :
    (machine results pins).Drains Gate.Turn.Inner (gate.Through 6) s
      (Gate.cost (Point.left Own.left) s) :=
  Gate.drains_of_left leads.paired leads.left_lt hrun

theorem drains_of_run_inside :
    ∃ s, (machine (Stream'.const (-1)) fun _ => false).Run (storedTurns ++ laterTurns) s ∧
      (∃ k, s.place 1 = .inside k ∧ k.held = true) ∧
      (machine (Stream'.const (-1)) fun _ => false).Drains Gate.Turn.Inner (gate.Through 6) s
        (Gate.cost (Point.left Own.left) s) := by
  obtain ⟨s, hs, hp⟩ := Machine.exists_run_of_map
    (machine (Stream'.const (-1)) fun _ => false) (storedTurns ++ laterTurns)
    (fun s => s.place 1 = .inside (.own (beginSend true 7))) (by decide +kernel)
  exact ⟨s, hs, ⟨_, of_decide_eq_true hp, rfl⟩, drains_of_run hs⟩

end Sounder.Npca110.File

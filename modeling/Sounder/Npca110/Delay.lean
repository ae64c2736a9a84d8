import Mathlib.Order.Bounds.Basic
import Sounder.Npca110.System

/-!
# How long a call waits

A transfer that fails is followed by `mdelay(30)`, a word after a PLL command by
`udelay(250)`, and each change of the reset pin by `msleep(5)`. What a call waits for in all
depends on the bus (`waited`). Of a table, every word but the last may fail twice and get
through; the last one may fail three times, and ends the call. So there is a longest wait
for each table (`longestSend`), and a bus on which it happens (`stingy`).

The route tables take half a second at worst, with the semaphore in hand, and the
configuration more than a hundred seconds: `npca110_suspend` waits as long, if it has to
flush the init work (`isGreatest_waits`). The wait for the semaphore, and for an item that is
running already, is not counted.
-/

namespace Sounder.Npca110

open Retry

/-! ## Waiting -/

/-- The delay that follows an event, in microseconds. -/
def eventWait : Event → ℕ
  | .transfer _ _ ret => if ret < 0 then 30000 else 0
  | .udelay usecs => usecs
  | .gpio .rs _ => 5000
  | _ => 0

/-- The delays of a trace. -/
def waited : List Event → ℕ
  | [] => 0
  | e :: t => eventWait e + waited t

@[simp] theorem waited_nil : waited [] = 0 := rfl

@[simp] theorem waited_append (t t' : List Event) : waited (t ++ t') = waited t + waited t' := by
  induction t with
  | nil => exact (Nat.zero_add _).symm
  | cons e t ih => rw [List.cons_append, waited, ih, waited, Nat.add_assoc]

variable {client : Client} {w : Word} {ws : List Word} {s : Stream' ℤ} {pll : Bool}

theorem waited_transfers_of_neg {rs : List ℤ} (h : ∀ r ∈ rs, r < 0) :
    waited (transfers client (rs.map (w, ·))) = 30000 * rs.length := by
  induction rs with
  | nil => rfl
  | cons r rs ih =>
    obtain ⟨hr, h⟩ := List.forall_mem_cons.1 h
    have hcons : waited (transfers client ((r :: rs).map (w, ·))) =
        eventWait (.transfer client w r) + waited (transfers client (rs.map (w, ·))) := rfl
    rw [hcons, ih h, eventWait, if_pos hr, List.length_cons]
    omega

/-- A word waits for 60 milliseconds at most if it gets through, and else for 90. -/
theorem waited_tries (client : Client) (w : Word) (s : Stream' ℤ) :
    waited (transfers client ((tries 3 s).map (w, ·))) ≤ if Accepts 3 s then 60000 else 90000 := by
  obtain ⟨fails, hneg, hf⟩ := tries_eq (n := 3) (s := s)
  by_cases ha : Accepts 3 s
  · -- at least one of the three attempts is accepted, and not followed by a delay
    rw [if_pos ha] at hf ⊢
    obtain ⟨r, hr, hlt, he⟩ := hf
    have hlast : waited (transfers client [(w, r)]) = 0 := if_neg (not_lt.2 hr)
    rw [he, List.map_append, transfers, List.map_append, waited_append]
    change waited (transfers client (fails.map (w, ·))) + waited (transfers client [(w, r)]) ≤ _
    rw [waited_transfers_of_neg hneg, hlast]
    omega
  · rw [if_neg ha] at hf ⊢
    rw [hf.2, waited_transfers_of_neg hneg, hf.1]

/-- The longest wait for the words `ws`; `pll`: a PLL command precedes them. -/
def longestSend : Bool → List Word → ℕ
  | _, [] => 0
  | pll, [_] => (if pll then 250 else 0) + 90000
  | pll, w :: w' :: ws => (if pll then 250 else 0) + 60000 + longestSend (isPllCmd w) (w' :: ws)

theorem waited_udelay (pll : Bool) :
    waited (if pll then [.udelay 250] else []) = if pll then 250 else 0 := by
  cases pll <;> rfl

theorem longestSend_ge (pll : Bool) (w : Word) (ws : List Word) :
    90000 ≤ longestSend pll (w :: ws) := by
  induction ws generalizing pll w with
  | nil =>
    rw [longestSend]
    omega
  | cons w' ws ih =>
    have h := ih (isPllCmd w) w'
    rw [longestSend]
    omega

/-- No bus makes the words wait longer. -/
theorem waited_sendEvents_le (client : Client) (pll : Bool) (ws : List Word) (s : Stream' ℤ) :
    waited (sendEvents client pll ws s) ≤ longestSend pll ws := by
  induction ws generalizing pll s with
  | nil => exact le_rfl
  | cons w ws ih =>
    have htries := waited_tries client w s
    rw [sendEvents, waited_append, waited_append, waited_udelay]
    by_cases ha : Accepts 3 s
    · rw [if_pos ha] at htries ⊢
      have hrest := ih (isPllCmd w) (rest 3 s)
      cases ws with
      | nil =>
        have hnil : waited (sendEvents client (isPllCmd w) [] (rest 3 s)) = 0 := rfl
        rw [longestSend, hnil]
        omega
      | cons w' ws =>
        rw [longestSend]
        omega
    · rw [if_neg ha] at htries ⊢
      rw [waited_nil]
      cases ws with
      | nil =>
        rw [longestSend]
        omega
      | cons w' ws =>
        -- giving up here saves the words that follow
        have hge := longestSend_ge (isPllCmd w) w' ws
        rw [longestSend]
        omega

/-- A bus that lets `n` words through, each at the third attempt, and then nothing. -/
def stingy : ℕ → Stream' ℤ
  | 0 => Stream'.const (-1)
  | n + 1 => .cons (-1) (.cons (-1) (.cons 1 (stingy n)))

theorem not_accepts_stingy : ¬Accepts 3 (stingy 0) := by
  rintro ⟨i, -, hi⟩
  rw [stingy, Stream'.get_const] at hi
  exact absurd hi (by decide)

theorem accepts_stingy (n : ℕ) : Accepts 3 (stingy (n + 1)) := ⟨2, by decide, Int.one_nonneg⟩

theorem tries_stingy_zero : tries 3 (stingy 0) = [-1, -1, -1] := by
  have hneg : (stingy 0).head < 0 := by decide
  have htail : (stingy 0).tail = stingy 0 := Stream'.tail_const (-1)
  rw [tries_of_neg hneg, htail, tries_of_neg hneg, htail, tries_of_neg hneg, tries]
  rfl

theorem tries_stingy_succ (n : ℕ) :
    tries 3 (stingy (n + 1)) = [-1, -1, 1] ∧ rest 3 (stingy (n + 1)) = stingy n := by
  have hneg (s : Stream' ℤ) : (Stream'.cons (-1) s).head < 0 := by
    rw [Stream'.head_cons]
    decide
  have hpos (s : Stream' ℤ) : 0 ≤ (Stream'.cons 1 s).head := Int.one_nonneg
  constructor
  · rw [stingy, tries_of_neg (hneg _), Stream'.tail_cons, tries_of_neg (hneg _), Stream'.tail_cons,
      tries_of_nonneg (hpos _)]
    rfl
  · rw [stingy, rest_of_neg (hneg _), Stream'.tail_cons, rest_of_neg (hneg _), Stream'.tail_cons,
      rest_of_nonneg (hpos _), Stream'.tail_cons]

/-- On this bus, the words wait that long. -/
theorem waited_stingy (w : Word) :
    waited (sendEvents client pll (w :: ws) (stingy ws.length)) = longestSend pll (w :: ws) := by
  induction ws generalizing pll w with
  | nil =>
    have hwait : waited (transfers client (([-1, -1, -1] : List ℤ).map (w, ·))) = 90000 := by
      simp [waited, transfers, eventWait]
    rw [List.length_nil, sendEvents, if_neg not_accepts_stingy, longestSend, waited_append,
      waited_append, waited_udelay, tries_stingy_zero, hwait, waited_nil]
    omega
  | cons w' ws ih =>
    have hwait : waited (transfers client (([-1, -1, 1] : List ℤ).map (w, ·))) = 60000 := by
      simp [waited, transfers, eventWait]
    rw [List.length_cons, sendEvents, if_pos (accepts_stingy _), longestSend, waited_append,
      waited_append, waited_udelay, (tries_stingy_succ _).1, hwait, (tries_stingy_succ _).2, ih]
    omega

/-! ## Calls -/

/-- The calls that may keep their caller, or the thread of the work queue, waiting. -/
inductive Call
  /-- `npca110_ioctl`. -/
  | ioctl (interrupted : Bool) (cmd : UInt32)
  /-- `npca110_suspend`. -/
  | suspend
  /-- `npca110_resume`. -/
  | resume
  /-- The work queue thread runs one item. -/
  | work
  deriving DecidableEq

/-- The driver after a call. -/
def Call.run : Call → State → Option State
  | .ioctl interrupted cmd, s => (Npca110.ioctl interrupted cmd s).map Prod.snd
  | .suspend, s => Npca110.suspend s
  | .resume, s => Npca110.resume s
  | .work, s => Npca110.work s

/-- A call leaves the client. -/
theorem Call.client_of_run {c : Call} {s t : State} (h : c.run s = some t) :
    t.dev.client = s.dev.client := by
  cases c with
  | ioctl interrupted cmd =>
    obtain ⟨⟨ret, t⟩, ht, rfl⟩ := Option.map_eq_some_iff.1 h
    exact (ioctl_frame ht).2.1
  | suspend => rw [(suspend_frame h).1]
  | resume =>
    obtain ⟨-, rfl⟩ := resume_eq_some_iff.1 h
    rfl
  | work =>
    obtain ⟨w, q, -, hex⟩ := work_eq_some_iff.1 h
    rw [(execWork_frame hex).1]

/-- How long a call may wait, for the answers that the bus may give. -/
def Call.waits (c : Call) (s : State) : Set ℕ :=
  {n | ∃ results t, c.run { s with board.results := results } = some t ∧
    waited t.board.trace = waited s.board.trace + n}

/-- The longest wait of a work item, in microseconds. -/
def Work.longest : Work → ℕ
  | .init => 107851000
  | .sure => 520000

/-- The longest wait of a call. -/
def Call.longest (s : State) : Call → ℕ
  | .ioctl interrupted cmd =>
    if !interrupted && (cmd == aux1ToAux2 || cmd == aux2ToAux1) then 510000 else 0
  | .suspend => if .init ∈ s.queue.pending then Work.init.longest else 0
  | .resume => 0
  | .work => (s.queue.pending.head?.map Work.longest).getD 0

theorem longestSend_adcWay (earInject : Bool) :
    longestSend false (words (adcWay earInject)) = 510000 := by
  cases earInject <;> decide +kernel

theorem longestSend_music1Full :
    longestSend false (words maxxAudioCmdMusic1Full) = 107851000 := by decide +kernel

/-- The waits of a call that sends a table, after `n` microseconds of another kind. -/
theorem isGreatest_waits_of_send {c : Call} {s : State} {table : List UInt8} {m n : ℕ}
    (client : Client) (htable : longestSend false (words table) = m) (hm : 0 < m)
    (h : ∀ results, ∃ t, c.run { s with board.results := results } = some t ∧
      waited t.board.trace =
        waited s.board.trace + (n + waited (sendEvents client false (words table) results))) :
    IsGreatest (c.waits s) (n + m) := by
  constructor
  · match hws : words table with
    | [] =>
      rw [hws] at htable
      exact absurd htable (Nat.ne_of_lt hm)
    | w :: ws =>
      obtain ⟨t, ht, hw⟩ := h (stingy ws.length)
      refine ⟨_, t, ht, ?_⟩
      rw [hw, hws, waited_stingy, ← hws, htable]
  · -- the call has one result, whose wait is that of the words
    rintro k ⟨results, t, ht, hk⟩
    obtain ⟨t', ht', hw⟩ := h results
    obtain rfl := Option.some_inj.1 (ht.symm.trans ht')
    have hle := waited_sendEvents_le client false (words table) results
    omega

/-- A call that sends nothing waits for nothing. -/
theorem isGreatest_waits_of_quiet {c : Call} {s : State}
    (h : ∀ results, ∃ t, c.run { s with board.results := results } = some t ∧
      waited t.board.trace = waited s.board.trace) : IsGreatest (c.waits s) 0 := by
  constructor
  · obtain ⟨t, ht, hw⟩ := h s.board.results
    exact ⟨_, t, ht, hw⟩
  · rintro k ⟨results, t, ht, hk⟩
    obtain ⟨t', ht', hw⟩ := h results
    obtain rfl := Option.some_inj.1 (ht.symm.trans ht')
    omega

variable {s : State} {client : Client}

theorem waited_suspendPins (earInject : Bool) (b : Board) :
    waited (suspendPins earInject b).trace = waited b.trace := by
  cases earInject with
  | false => rfl
  | true => simp [suspendPins, waited, eventWait]

theorem results_suspendPins (earInject : Bool) (b : Board) :
    (suspendPins earInject b).results = b.results := by
  cases earInject <;> rfl

theorem waited_resetPulse (b : Board) : waited (resetPulse b).trace = waited b.trace + 10000 := by
  simp [resetPulse, waited, eventWait]

/-- The configuration is sent, and nothing else is waited for. -/
theorem waited_initEvents (hc : s.dev.client = some client) :
    ∃ t, initEvents s = some t ∧ waited t.board.trace = waited s.board.trace + (0 +
      waited (sendEvents client false (words maxxAudioCmdMusic1Full) s.board.results)) := by
  refine ⟨_, initEvents_eq_some_iff.2 ⟨client, hc, rfl⟩, ?_⟩
  rw [trace_sendCmd, waited_append, Nat.zero_add]

/-- The route is sent after a reset pulse. -/
theorem waited_suspendResume (hc : s.dev.client = some client) :
    ∃ t, suspendResume s = some t ∧ waited t.board.trace = waited s.board.trace + (10000 +
      waited (sendEvents client false (words (adcWay s.dev.earInject)) s.board.results)) := by
  refine ⟨_, suspendResume_eq_some_iff.2 ⟨client, hc, rfl⟩, ?_⟩
  have hres : (resetPulse s.board).results = s.board.results := rfl
  rw [trace_sendCmd, waited_append, waited_resetPulse, hres, Nat.add_assoc]

/-- A call that gets the semaphore runs its command. -/
theorem run_ioctl (hsem : 0 < s.dev.sem) {cmd : UInt32} {u : State}
    (h : ioctlSwitch cmd { s with dev.sem := s.dev.sem - 1 } = some u) :
    Call.run (.ioctl false cmd) s = some { u with dev.sem := u.dev.sem + 1 } := by
  rw [Call.run, ioctl_eq_some_iff.2 (.inr ⟨rfl, rfl, hsem, u, h, rfl⟩), Option.map_some]

/-- A route command sends its table; the pin it drives is not waited for. -/
theorem waited_ioctl (hsem : 0 < s.dev.sem) {cmd : UInt32} (hc : s.dev.client = some client)
    (hcmd : cmd = aux1ToAux2 ∨ cmd = aux2ToAux1) :
    ∃ t, Call.run (.ioctl false cmd) s = some t ∧
      waited t.board.trace = waited s.board.trace + (0 +
        waited (sendEvents client false (words (adcWay (cmd == aux1ToAux2))) s.board.results)) := by
  have hne : (aux2ToAux1 == aux1ToAux2) = false := rfl
  have hps : waited [.gpio .ps true] = 0 := rfl
  obtain rfl | rfl := hcmd
  · refine ⟨_, run_ioctl hsem (ioctlSwitch_eq_some_iff.2 (.inl ⟨rfl, client, hc, rfl⟩)), ?_⟩
    rw [Board.trace_gpioSetValue, trace_sendCmd, waited_append, waited_append, hps,
      beq_self_eq_true, Nat.zero_add, Nat.add_zero]
  · refine ⟨_, run_ioctl hsem (ioctlSwitch_eq_some_iff.2 (.inr (.inl ⟨rfl, client, hc, rfl⟩))),
      ?_⟩
    rw [trace_sendCmd, waited_append, hne, Nat.zero_add]

/-- A command that is interrupted, or unknown, waits for nothing. -/
theorem quiet_ioctl {interrupted : Bool} {cmd : UInt32}
    (hsem : interrupted = false → 0 < s.dev.sem)
    (h : ¬(interrupted = false ∧ (cmd = aux1ToAux2 ∨ cmd = aux2ToAux1))) :
    ∃ t, Call.run (.ioctl interrupted cmd) s = some t ∧
      waited t.board.trace = waited s.board.trace := by
  cases interrupted with
  | true => exact ⟨s, rfl, rfl⟩
  | false =>
    obtain ⟨h0, h1⟩ := not_or.1 fun hcmd => h ⟨rfl, hcmd⟩
    exact ⟨_, run_ioctl (hsem rfl) (ioctlSwitch_eq_some_iff.2 (.inr (.inr ⟨h0, h1, rfl⟩))), rfl⟩

/-- Before a suspend there is the init work to flush, or nothing. -/
theorem run_suspend (hwq : s.wq = true) {b : Board} (hb : b = suspendPins s.dev.earInject s.board) :
    Call.run .suspend s =
      if .init ∈ s.queue.pending then initEvents { s with board := b, queue := .empty }
      else some { s with board := b, queue := .empty } := by
  have hmem : .init ∈ (s.queue.cancelWork .sure).pending ↔ .init ∈ s.queue.pending :=
    WorkQueue.mem_cancelWork.trans (and_iff_right (by decide))
  rw [Call.run, suspend, flushWorkqueue, if_pos hwq, hb]
  rcases pending_cancelWork_sure s.queue with hq | hq
  · rw [hq] at hmem ⊢
    rw [if_neg fun h => List.not_mem_nil (hmem.2 h), WorkQueue.runAll_nil]
  · rw [hq] at hmem ⊢
    rw [if_pos (hmem.1 List.mem_cons_self)]
    exact Option.bind_fun_some _

/-- A suspend waits for the init work that it flushes. -/
theorem waited_suspend (hc : s.dev.client = some client) (hwq : s.wq = true)
    (h : .init ∈ s.queue.pending) : ∃ t, Call.run .suspend s = some t ∧
      waited t.board.trace = waited s.board.trace + (0 +
        waited (sendEvents client false (words maxxAudioCmdMusic1Full) s.board.results)) := by
  rw [run_suspend hwq rfl, if_pos h, ← waited_suspendPins s.dev.earInject s.board,
    ← results_suspendPins s.dev.earInject s.board]
  exact waited_initEvents hc

/-- A suspend with no init work to flush waits for nothing. -/
theorem quiet_suspend (hwq : s.wq = true) (h : .init ∉ s.queue.pending) :
    ∃ t, Call.run .suspend s = some t ∧ waited t.board.trace = waited s.board.trace := by
  rw [run_suspend hwq rfl, if_neg h]
  exact ⟨_, rfl, waited_suspendPins _ _⟩

theorem isGreatest_ioctl (hc : s.dev.client = some client) {interrupted : Bool}
    (hsem : interrupted = false → 0 < s.dev.sem) (cmd : UInt32) :
    IsGreatest (Call.waits (.ioctl interrupted cmd) s)
      (Call.longest s (.ioctl interrupted cmd)) := by
  by_cases h : interrupted = false ∧ (cmd = aux1ToAux2 ∨ cmd = aux2ToAux1)
  · obtain ⟨rfl, hcmd⟩ := h
    have hlongest : Call.longest s (.ioctl false cmd) = 510000 := by simp [Call.longest, hcmd]
    rw [hlongest]
    exact isGreatest_waits_of_send client (longestSend_adcWay _) (by decide)
      fun results => waited_ioctl (s := { s with board.results := results }) (hsem rfl) hc hcmd
  · have hlongest : Call.longest s (.ioctl interrupted cmd) = 0 := by
      rw [Call.longest, if_neg]
      simpa using h
    rw [hlongest]
    exact isGreatest_waits_of_quiet fun results =>
      quiet_ioctl (s := { s with board.results := results }) hsem h

theorem isGreatest_suspend (hc : s.dev.client = some client) (hwq : s.wq = true) :
    IsGreatest (Call.waits .suspend s) (Call.longest s .suspend) := by
  by_cases h : .init ∈ s.queue.pending
  · have hlongest : Call.longest s .suspend = 107851000 := if_pos h
    rw [hlongest]
    exact isGreatest_waits_of_send client longestSend_music1Full (by decide)
      fun results => waited_suspend hc hwq h
  · have hlongest : Call.longest s .suspend = 0 := if_neg h
    rw [hlongest]
    exact isGreatest_waits_of_quiet fun results => quiet_suspend hwq h

theorem isGreatest_work (hc : s.dev.client = some client) {w : Work} {queue : WorkQueue Work}
    (hpop : s.queue.pop = some (w, queue)) :
    IsGreatest (Call.waits .work s) (Call.longest s .work) := by
  have hlongest : Call.longest s .work = w.longest := by
    rw [Call.longest, WorkQueue.pop_eq_some_iff.1 hpop, List.head?_cons, Option.map_some,
      Option.getD_some]
  have hrun (results : Stream' ℤ) : Call.run .work { s with board.results := results } =
      execWork w { s with board.results := results, queue := queue } := by
    simp only [Call.run, work, hpop]
    rfl
  rw [hlongest]
  cases w with
  | init =>
    refine isGreatest_waits_of_send client longestSend_music1Full (by decide) fun results => ?_
    rw [hrun]
    exact waited_initEvents hc
  | sure =>
    refine isGreatest_waits_of_send client (longestSend_adcWay s.dev.earInject) (by decide)
      fun results => ?_
    rw [hrun]
    exact waited_suspendResume hc

/-- Once a client is bound, no call that gets the semaphore, if it asks for it, waits longer
    than its longest wait, and on some bus it waits as long. -/
theorem isGreatest_waits (hc : s.dev.client ≠ none) (hwq : s.wq = true) (c : Call)
    (hsem : ∀ cmd, c = .ioctl false cmd → 0 < s.dev.sem)
    (hwork : c = .work → s.queue.pending ≠ []) : IsGreatest (c.waits s) (c.longest s) := by
  obtain ⟨client, hclient⟩ := Option.ne_none_iff_exists'.1 hc
  cases c with
  | ioctl interrupted cmd =>
    refine isGreatest_ioctl hclient (fun hi => hsem cmd ?_) cmd
    rw [hi]
  | suspend => exact isGreatest_suspend hclient hwq
  | resume =>
    exact isGreatest_waits_of_quiet fun results => ⟨_, resume_eq_some_iff.2 ⟨hwq, rfl⟩, rfl⟩
  | work =>
    obtain ⟨w, ws, hws⟩ := List.exists_cons_of_ne_nil (hwork rfl)
    have hpop : s.queue.pop = some (w, ⟨ws, (hws ▸ s.queue.nodup).of_cons⟩) :=
      WorkQueue.pop_eq_some_iff.2 hws
    exact isGreatest_work hclient hpop

/-- A driver with a client, after a probe: the init work is pending. -/
def afterProbe : State :=
  ⟨⟨some 0x73, 6, false⟩, true, ⟨[.init], List.nodup_singleton _⟩, ⟨.const 1, [], fun _ => false⟩⟩

/-- A route command, with the semaphore free, and a suspend that flushes the init work. -/
theorem isGreatest_waits_probed :
    IsGreatest (Call.waits (.ioctl false aux1ToAux2) afterProbe) 510000 ∧
      IsGreatest (Call.waits .suspend afterProbe) 107851000 :=
  ⟨isGreatest_waits (Option.some_ne_none _) rfl (.ioctl false aux1ToAux2)
      (fun _ _ => by decide) nofun,
    isGreatest_waits (Option.some_ne_none _) rfl .suspend nofun nofun⟩

end Sounder.Npca110

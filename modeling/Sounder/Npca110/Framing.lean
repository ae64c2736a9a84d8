import Sounder.Npca110.Configured

/-!
# The framing of the commands

The init work, the resume work and the route commands, executed one after the other,
on a bus with any results. `Npca110_SendCmd` stops at the first word that is refused
three times, and all that call it go on: the words of a table may end after a command
and before its data, and the chip then reads the first words of the next table as data
(`not_inStep`). The resume work resets the chip before it sends.

The chip reads every word as what it is in its table, in exactly the runs in which no
table is sent without a reset after one that was cut off within a frame (`inStep_iff`).
-/

namespace Sounder.Npca110.Framing

open Retry

/-- The operations that send a table. -/
inductive Op
  | initEvents
  | suspendResume
  | ioctl (interrupted : Bool) (cmd : UInt32)
  deriving DecidableEq

/-- An operation, executed. -/
def Op.exec : Op → State → Option State
  | initEvents => Npca110.initEvents
  | suspendResume => Npca110.suspendResume
  | ioctl interrupted cmd => fun s => (Npca110.ioctl interrupted cmd s).map Prod.snd

/-- The table that an operation sends, if any. -/
def Op.table (s : State) : Op → Option (List UInt8)
  | initEvents => some maxxAudioCmdMusic1Full
  | suspendResume => some (adcWay s.dev.earInject)
  | ioctl true _ => none
  | ioctl false cmd =>
    if cmd = aux1ToAux2 then some (adcWay true)
    else if cmd = aux2ToAux1 then some (adcWay false)
    else none

/-- The board at the first word of an operation. -/
def Op.start (b : Board) : Op → Board
  | suspendResume => resetPulse b
  | _ => b

/-- The words of an operation that the chip accepts. -/
def Op.gets (op : Op) (s : State) : List Word :=
  (op.table s).elim [] fun l => (words l).take (count 3 (words l).length s.board.results)

/-! ## What an operation does -/

theorem sends_take (client : Client) (l : List UInt8) (s : Stream' ℤ) :
    Sends (sendEvents client false (words l) s) ((words l).take (count 3 (words l).length s)) :=
  ⟨by rw [accepted_sendEvents, accepted_attempts], noGpio_sendEvents _ _ _ _ _ _⟩

theorem Op.exec_spec {op : Op} {s t : State} {client : Client} (hc : s.dev.client = some client)
    (h : op.exec s = some t) :
    t.dev.client = some client ∧
      ∃ ev, t.board.trace = (op.start s.board).trace ++ ev ∧ Sends ev (op.gets s) := by
  have hsends (l : List UInt8) (b : Board) (hb : b.results = s.board.results) :
      ∃ ev, (sendCmd l client b).2.trace = b.trace ++ ev ∧
        Sends ev ((words l).take (count 3 (words l).length s.board.results)) :=
    ⟨_, trace_sendCmd l client b, hb ▸ sends_take client l b.results⟩
  cases op with
  | initEvents =>
    obtain ⟨client', hc', rfl⟩ := initEvents_eq_some_iff.1 h
    obtain rfl : client' = client := Option.some_inj.1 (hc'.symm.trans hc)
    exact ⟨hc, hsends _ _ rfl⟩
  | suspendResume =>
    obtain ⟨client', hc', rfl⟩ := suspendResume_eq_some_iff.1 h
    obtain rfl : client' = client := Option.some_inj.1 (hc'.symm.trans hc)
    exact ⟨hc, hsends _ _ rfl⟩
  | ioctl interrupted cmd =>
    obtain ⟨⟨ret, t'⟩, hioctl, rfl⟩ := Option.map_eq_some_iff.1 h
    have hquiet : ∃ ev, s.board.trace = s.board.trace ++ ev ∧ Sends ev [] :=
      ⟨[], (List.append_nil _).symm, ⟨rfl, List.not_mem_nil⟩⟩
    rcases ioctl_eq_some_iff.1 hioctl with ⟨rfl, -, rfl⟩ | ⟨rfl, -, -, u, hu, rfl⟩
    · exact ⟨hc, hquiet⟩
    · rcases ioctlSwitch_eq_some_iff.1 hu with
        ⟨rfl, client', hc', rfl⟩ | ⟨rfl, client', hc', rfl⟩ | ⟨h0, h1, rfl⟩
      · obtain rfl : client' = client := Option.some_inj.1 (hc'.symm.trans hc)
        obtain ⟨ev, htrace, hev⟩ := hsends (adcWay true) s.board rfl
        refine ⟨hc, ev ++ [.gpio .ps true], ?_, ?_⟩
        · rw [Board.trace_gpioSetValue, ← List.append_assoc]
          exact congrArg (· ++ _) htrace
        · have := hev.append (sends_gpio .ps true (by decide))
          rwa [List.append_nil] at this
      · obtain rfl : client' = client := Option.some_inj.1 (hc'.symm.trans hc)
        exact ⟨hc, hsends (adcWay false) s.board rfl⟩
      · refine ⟨hc, ?_⟩
        rw [Op.gets, Op.table, if_neg h0, if_neg h1]
        exact hquiet

/-! ## Runs -/

/-- A table sent by an operation. -/
structure Sending where
  table : List UInt8
  /-- The events before its first word. -/
  before : List Event
  /-- The events from its first word on. -/
  sent : List Event
  /-- The results of the transfers, from its first word on. -/
  results : Stream' ℤ

/-- The chip at the first word of a table: what it read since the last reset. -/
def Sending.chip (x : Sending) : Chip := Npca110.chip (sinceReset x.before)

/-- A table is sent to a chip that waits for no data, and the chip reads every word it
    accepts as what it is in the table: a command, or data. -/
structure Sending.InStep (x : Sending) : Prop where
  idle : x.chip.Idle
  role : ∀ i < (accepted x.sent).length,
    ((x.chip.accept ((accepted x.sent).take i)).Idle ↔
      (Chip.fresh.accept ((words x.table).take i)).Idle)

/-- The words of a table that get through end within a frame. -/
def Sending.CutOff (x : Sending) : Prop :=
  ¬(Chip.fresh.accept
    ((words x.table).take (count 3 (words x.table).length x.results))).Idle

instance (x : Sending) : Decidable x.CutOff := inferInstanceAs (Decidable (¬_))

/-- The driver, and the tables sent so far. -/
structure System where
  drv : State
  sendings : List Sending

/-- One operation. -/
def System.step (s : System) (op : Op) : Option System :=
  (op.exec s.drv).map fun t =>
    let before := (op.start s.drv.board).trace
    let sending := (op.table s.drv).map fun l =>
      (⟨l, before, t.board.trace.drop before.length, s.drv.board.results⟩ : Sending)
    ⟨t, s.sendings ++ sending.toList⟩

/-- A driver with a bound client, before it sends anything. -/
def bound (client : Client) (sem : ℕ) (earInject : Bool) (b : Board) : State where
  dev := ⟨some client, sem, earInject⟩
  wq := true
  queue := .empty
  board := { b with trace := [] }

/-- The operations, executed one after the other. -/
def machine (client : Client) (sem : ℕ) (earInject : Bool) (b : Board) : Machine System Op :=
  ⟨⟨bound client sem earInject b, []⟩, System.step⟩

/-- A table that is sent without a reset does not follow one that was cut off within a
    frame. -/
def FollowsWhole (s : System) (op : Op) : Prop :=
  op.table s.drv ≠ none → op ≠ .suspendResume → ∀ x ∈ s.sendings.getLast?, ¬x.CutOff

instance (s : System) (op : Op) : Decidable (FollowsWhole s op) :=
  inferInstanceAs (Decidable (_ → _ → _))

/-- What every state of a run satisfies: the chip is where the last table left it, if all
    tables were in step. -/
structure Inv (client : Client) (s : System) : Prop where
  client_eq : s.drv.dev.client = some client
  waiting : (∀ x ∈ s.sendings, x.InStep) →
    ((chip (sinceReset s.drv.board.trace)).Idle ↔ ∀ x ∈ s.sendings.getLast?, ¬x.CutOff)

variable {client : Client} {s t : System} {op : Op}

/-- A reset leaves a chip that waits for no data. -/
theorem idle_start_suspendResume (b : Board) :
    (chip (sinceReset (Op.start b .suspendResume).trace)).Idle := by
  rw [Op.start, trace_resetPulse, sinceReset_pulse]
  exact Chip.settled_fresh.idle

/-- The other operations do not reset the chip. -/
theorem start_of_ne (hne : op ≠ .suspendResume) (b : Board) : op.start b = b := by
  cases op with
  | suspendResume => exact absurd rfl hne
  | _ => rfl

/-- What the chip has read after an operation. -/
theorem chip_of_exec {u v : State} {ev : List Event}
    (htrace : v.board.trace = (op.start u.board).trace ++ ev) (hev : Sends ev (op.gets u)) :
    chip (sinceReset v.board.trace) =
      (chip (sinceReset (op.start u.board).trace)).accept (op.gets u) := by
  rw [htrace, chip, hev.accepted_sinceReset, Chip.accept, Receiver.feedAll_append, chip]

/-- The words of a table, sent to a chip that waits for no data. -/
theorem inStep_of_idle {x : Sending} (hx : x.chip.Idle)
    (hacc : accepted x.sent = (words x.table).take (count 3 (words x.table).length x.results)) :
    x.InStep := by
  refine ⟨hx, fun i hi => ?_⟩
  rw [hacc, List.length_take] at hi
  rw [hacc, List.take_take, min_eq_left (by omega), Receiver.Idle, Receiver.Idle,
    Receiver.waiting_feedAll_of_idle dataWords Codec.act hx Chip.settled_fresh.idle]

/-- At the first word of a table, the chip waits for no data exactly if the table follows a
    whole one. -/
theorem Inv.idle_start_iff (h : Inv client s) (hall : ∀ x ∈ s.sendings, x.InStep)
    (htable : op.table s.drv ≠ none) :
    (chip (sinceReset (op.start s.drv.board).trace)).Idle ↔ FollowsWhole s op := by
  by_cases hne : op = .suspendResume
  · subst hne
    exact iff_of_true (idle_start_suspendResume _) fun _ h' => absurd rfl h'
  · rw [start_of_ne hne, h.waiting hall]
    exact ⟨fun hw _ _ => hw, fun hw => hw htable hne⟩

/-- The step lemma: an operation leaves the tables sent before it in step, and sends its
    own in step exactly if it follows a whole one. -/
theorem Inv.step (h : Inv client s) (hst : s.step op = some t) :
    Inv client t ∧
      ((∀ x ∈ t.sendings, x.InStep) ↔ (∀ x ∈ s.sendings, x.InStep) ∧ FollowsWhole s op) := by
  obtain ⟨u, hu, rfl⟩ := Option.map_eq_some_iff.1 hst
  obtain ⟨hclient, ev, htrace, hev⟩ := op.exec_spec h.client_eq hu
  have hchip := chip_of_exec htrace hev
  cases htable : op.table s.drv with
  | none =>
    -- nothing is sent, and the chip not reset
    have hne : op ≠ .suspendResume := by
      rintro rfl
      cases htable
    have hwhole : FollowsWhole s op := fun h' => absurd htable h'
    rw [Op.gets, htable, start_of_ne hne] at hchip
    simp only [Option.map_none, Option.toList_none, List.append_nil, hwhole, and_true, iff_self]
    exact ⟨hclient, fun hall => by rw [hchip]; exact h.waiting hall⟩
  | some l =>
    let x : Sending := ⟨l, (op.start s.drv.board).trace,
      u.board.trace.drop (op.start s.drv.board).trace.length, s.drv.board.results⟩
    have hgets : op.gets s.drv = (words x.table).take (count 3 (words x.table).length x.results) :=
      by rw [Op.gets, htable, Option.elim_some]
    have hsent : accepted x.sent = op.gets s.drv := by
      rw [← hev.accepted_eq, show x.sent = u.board.trace.drop _ from rfl, htrace, List.drop_left]
    have hin : x.InStep ↔ x.chip.Idle := ⟨Sending.InStep.idle, fun hx =>
      inStep_of_idle hx (hsent.trans hgets)⟩
    have hall : (∀ y ∈ s.sendings ++ [x], y.InStep) ↔
        (∀ y ∈ s.sendings, y.InStep) ∧ x.InStep := by
      rw [List.forall_mem_append, List.forall_mem_singleton]
    simp only [Option.map_some, Option.toList_some]
    refine ⟨⟨hclient, fun hall' => ?_⟩, ?_⟩
    · -- the chip is left where the words that get through leave an idle one
      have hx := hin.1 (hall.1 hall').2
      rw [List.getLast?_concat, hchip, hgets]
      have hwait := Receiver.waiting_feedAll_of_idle dataWords Codec.act hx Chip.settled_fresh.idle
        ((words x.table).take (count 3 (words x.table).length x.results))
      simp only [Option.mem_some, forall_eq', Sending.CutOff, not_not]
      exact Eq.congr hwait rfl
    · rw [hall, hin]
      exact and_congr_right fun h' => h.idle_start_iff h' (by simp [htable])

/-! ## Main result -/

variable {sem : ℕ} {earInject : Bool} {b : Board} {ops : List Op}

/-- **Framing.** In a run, whatever the results of the transfers, every table is sent in
    step exactly if no table sent without a reset follows one that was cut off within a
    frame. -/
theorem inStep_iff (hrun : (machine client sem earInject b).Run ops s) :
    (∀ x ∈ s.sendings, x.InStep) ↔ (machine client sem earInject b).Meets FollowsWhole ops := by
  refine hrun.iff_meets (I := Inv client) (P := fun s => ∀ x ∈ s.sendings, x.InStep)
    ⟨rfl, fun _ => ?_⟩ (by simp [machine]) fun h hst => h.step hst
  exact iff_of_true Chip.settled_fresh.idle (by simp [machine])

/-- A board on which the second word is refused, and all others are accepted. -/
def secondRefused : Board := ⟨fun i => if 1 ≤ i ∧ i < 4 then -121 else 1, [], fun _ => false⟩

/-- A run with a table that is cut off after a command, and a reset before the next. -/
theorem inStep_reset :
    ∃ s, (machine 0 6 false secondRefused).Run
        [.ioctl false aux1ToAux2, .suspendResume, .ioctl false aux2ToAux1] s ∧
      ((∀ x ∈ s.sendings, x.InStep) ↔ (machine 0 6 false secondRefused).Meets FollowsWhole
        [.ioctl false aux1ToAux2, .suspendResume, .ioctl false aux2ToAux1]) := by
  obtain ⟨s, hs⟩ := Machine.exists_run (machine 0 6 false secondRefused)
    [.ioctl false aux1ToAux2, .suspendResume, .ioctl false aux2ToAux1] (by decide)
  exact ⟨s, hs, inStep_iff hs⟩

/-- A route command that is cut off after its first command word, and another one. -/
theorem not_inStep :
    ∃ s, (machine 0 6 false secondRefused).Run
        [.ioctl false aux1ToAux2, .ioctl false aux2ToAux1] s ∧
      ¬∀ x ∈ s.sendings, x.InStep := by
  obtain ⟨s, hs, hp⟩ := Machine.exists_run_of_map (machine 0 6 false secondRefused)
    [.ioctl false aux1ToAux2, .ioctl false aux2ToAux1]
    (fun s => s.sendings.any fun x => x.chip.waiting ≠ 0) (by decide +kernel)
  obtain ⟨x, hx, hwait⟩ := List.any_eq_true.1 hp
  exact ⟨s, hs, fun h => of_decide_eq_true hwait (h x hx).idle⟩

end Sounder.Npca110.Framing

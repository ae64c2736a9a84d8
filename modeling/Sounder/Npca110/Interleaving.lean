import Sounder.Lib.Machine
import Sounder.Lib.Serial
import Sounder.Npca110.Ioctl

/-!
# Interleaved operations

The operations on the chip, a step at a time: the threads that call `npca110_ioctl`,
any number of them, and the thread of the work queue. A step is one word accepted by
the chip, one change of a pin, one operation of the semaphore, or one read or write of
the flag. Any actor may take the next step (`interleaving`).

Each operation shows the chip one *unit* (`IsUnit`): a route table, the
configuration, or a reset pulse followed by a route table. The functions of the
driver are the operations that run alone (`alone_ioctl`, `alone_execWork`), and an
operation that runs alone is one whose turns come in a row (`exists_turns`).

The units are not shown one after the other in every run (`not_serialised`): the
semaphore starts at `6`, so that it does not exclude a second `ioctl`, and the work
items do not take it. They are exactly if an operation only begins on the chip while
no other one is in the middle of its unit (`serialised_iff`).
-/

namespace Sounder.Npca110

open Retry

/-! ## Units -/

/-- What the chip sees: the words it accepts, and its reset pin. -/
inductive ChipStep
  | word (w : List UInt8)
  | reset (value : Bool)
  deriving DecidableEq

/-- The words of a table, as the chip sees them. -/
def table (l : List UInt8) : List ChipStep := (words l).map .word

/-- What one operation shows the chip. -/
inductive IsUnit : List ChipStep → Prop
  | adcWay (earInject : Bool) : IsUnit (table (adcWay earInject))
  | maxxAudioCmdMusic1Full : IsUnit (table maxxAudioCmdMusic1Full)
  | reset (earInject : Bool) :
    IsUnit (.reset false :: .reset true :: table (adcWay earInject))

@[simp] theorem length_table (l : List UInt8) : (table l).length = l.length / 3 := by
  rw [table, List.length_map, words, length_groups]

theorem length_adcWay (earInject : Bool) : (adcWay earInject).length = 24 := by
  cases earInject <;> rfl

theorem length_maxxAudioCmdMusic1Full : maxxAudioCmdMusic1Full.length = 5391 := by decide +kernel

theorem head_table_adcWay (earInject : Bool) :
    (table (adcWay earInject)).head? = some (.word [0xFF, 0xAD, 0x83]) := by
  cases earInject <;> rfl

theorem head_table_maxxAudioCmdMusic1Full :
    (table maxxAudioCmdMusic1Full).head? = some (.word [0x00, 0xA5, 0x00]) := by decide +kernel

theorem IsUnit.ne_nil {u : List ChipStep} (hu : IsUnit u) : u ≠ [] := by
  rw [← List.length_pos_iff]
  cases hu <;> simp [length_adcWay, length_maxxAudioCmdMusic1Full]

/-- Units that agree in their first step are equally long. -/
theorem IsUnit.length_eq {u v : List ChipStep} (hu : IsUnit u) (hv : IsUnit v)
    (h : u.head? = v.head?) : u.length = v.length := by
  cases hu <;> cases hv <;>
    simp_all [head_table_adcWay, head_table_maxxAudioCmdMusic1Full, length_adcWay]

theorem prefixCode_isUnit : PrefixCode IsUnit where
  ne_nil := IsUnit.ne_nil
  eq_of_begins hu hv h := by
    refine h.eq_of_length (hu.length_eq hv ?_)
    obtain ⟨t, rfl⟩ := h
    exact (List.head?_append_of_ne_nil _ hu.ne_nil).symm

/-! ## Statements -/

/-- The statements of the operations. -/
inductive Stmt
  /-- `down_interruptible(&dev->sem)`. -/
  | down
  /-- `up(&dev->sem)`. -/
  | up
  /-- A word of `Npca110_SendCmd`, accepted by the chip. -/
  | word (w : List UInt8)
  /-- `__gpio_set_value`. -/
  | gpio (pin : Pin) (value : Bool)
  /-- A write of the flag. -/
  | store (earInject : Bool)
  /-- The read of the flag that selects the route table sent next. -/
  | load
  deriving DecidableEq

/-- `Npca110_SendCmd` of a table. -/
def send (l : List UInt8) : List Stmt := (words l).map .word

/-- `npca110_ioctl`, with a command that selects an input. -/
def ioctlStmts : Bool → List Stmt
  | true => .down :: (send adcWay1to2 ++ [.gpio .ps true, .store true, .up])
  | false => .down :: (send adcWay2to1 ++ [.store false, .up])

/-- The work items. -/
def workStmts : Work → List Stmt
  | .init => send maxxAudioCmdMusic1Full
  | .sure => [.gpio .rs false, .gpio .rs true, .load]

/-- What the operations share. -/
structure Shared where
  /-- The count of the semaphore. -/
  sem : ℕ
  /-- `npca110_dev->earInject`. -/
  earInject : Bool
  /-- The level each pin was last driven to. -/
  pins : Pin → Bool

/-- What is shared after a statement; it has no result where the statement waits. -/
def Stmt.exec (sh : Shared) : Stmt → Option Shared
  | .down => if 0 < sh.sem then some { sh with sem := sh.sem - 1 } else none
  | .up => some { sh with sem := sh.sem + 1 }
  | .gpio pin value => some { sh with pins := Function.update sh.pins pin value }
  | .store earInject => some { sh with earInject := earInject }
  | .word _ | .load => some sh

/-- What the chip sees of a statement. -/
def Stmt.shown : Stmt → List ChipStep
  | .word w => [.word w]
  | .gpio .rs value => [.reset value]
  | _ => []

/-- The statements that a statement selects: a load, the route table of the flag. -/
def Stmt.selects (earInject : Bool) : Stmt → List Stmt
  | .load => send (adcWay earInject)
  | _ => []

/-- The statement shows something to the chip, or selects one that does. -/
def Stmt.OnChip (st : Stmt) : Prop := st.shown ≠ [] ∨ st = .load

instance : DecidablePred Stmt.OnChip := fun _ => inferInstanceAs (Decidable (_ ∨ _))

/-- What the chip may see of statements, while others may change the flag. -/
inductive Shows : List Stmt → List ChipStep → Prop
  | nil : Shows [] []
  | cons {st : Stmt} {r : List Stmt} {l : List ChipStep} (earInject : Bool) :
    Shows (st.selects earInject ++ r) l → Shows (st :: r) (st.shown ++ l)

/-! ## The machine -/

/-- Those who operate on the chip. -/
inductive Actor
  | thread (i : ℕ)
  | worker
  deriving DecidableEq

/-- An operation in progress: what it has shown to the chip, and what is left of it. -/
structure Op where
  seen : List ChipStep
  left : List Stmt
  deriving DecidableEq

/-- The operation is in the middle of its unit. -/
def Op.Midway (k : Op) : Prop := k.seen ≠ [] ∧ ∃ st ∈ k.left, st.OnChip

instance : DecidablePred Op.Midway := fun _ => inferInstanceAs (Decidable (_ ∧ _))

/-- The next statement of the operation is its first on the chip. -/
def Op.Begins (k : Op) : Prop := k.seen = [] ∧ ∃ st ∈ k.left.head?, st.shown ≠ []

/-- The operation waits for the semaphore. -/
def Op.Waits (k : Op) : Prop := ∃ earInject, k = ⟨[], ioctlStmts earInject⟩

instance : DecidablePred Op.Waits := fun _ => inferInstanceAs (Decidable (∃ _, _))

structure Interleaved where
  shared : Shared
  ops : Actor → Op
  /-- What the chip has seen, and of whom. -/
  trace : List (Actor × ChipStep)

/-- One step of one actor. -/
inductive Turn
  /-- A thread without an operation calls `npca110_ioctl`. -/
  | call (i : ℕ) (earInject : Bool)
  /-- A signal interrupts a thread that waits for the semaphore. -/
  | interrupt (i : ℕ)
  /-- The work queue thread starts an item. -/
  | start (w : Work)
  /-- An actor executes its next statement. -/
  | stmt (a : Actor)
  deriving DecidableEq

/-- One turn. -/
def Interleaved.step (s : Interleaved) : Turn → Option Interleaved
  | .call i earInject =>
    if (s.ops (.thread i)).left = [] then
      some { s with ops := Function.update s.ops (.thread i) ⟨[], ioctlStmts earInject⟩ }
    else none
  | .interrupt i =>
    if (s.ops (.thread i)).Waits then
      some { s with ops := Function.update s.ops (.thread i) ⟨[], []⟩ }
    else none
  | .start w =>
    if (s.ops .worker).left = [] then
      some { s with ops := Function.update s.ops .worker ⟨[], workStmts w⟩ }
    else none
  | .stmt a =>
    match (s.ops a).left with
    | [] => none
    | st :: rest =>
      (st.exec s.shared).map fun shared =>
        { shared := shared
          ops := Function.update s.ops a
            ⟨(s.ops a).seen ++ st.shown, st.selects s.shared.earInject ++ rest⟩
          trace := s.trace ++ tagged a st.shown }

/-- The operations, interleaved: `sema_init` sets the semaphore to `6`. -/
def interleaving (pins : Pin → Bool) : Machine Interleaved Turn where
  init := ⟨⟨6, false, pins⟩, fun _ => ⟨[], []⟩, []⟩
  step := Interleaved.step

/-! ## What an operation shows -/

theorem shows_nil {l : List ChipStep} : Shows [] l ↔ l = [] :=
  ⟨fun h => by cases h; rfl, fun h => h ▸ .nil⟩

theorem shows_cons {st : Stmt} {r : List Stmt} {l : List ChipStep} :
    Shows (st :: r) l ↔ ∃ f l', Shows (st.selects f ++ r) l' ∧ l = st.shown ++ l' := by
  constructor
  · rintro (_ | ⟨f, h⟩)
    exact ⟨f, _, h, rfl⟩
  · rintro ⟨f, l', h, rfl⟩
    exact .cons f h

theorem shows_words {ws : List (List UInt8)} {r : List Stmt} {l : List ChipStep} :
    Shows (ws.map .word ++ r) l ↔ ∃ l', Shows r l' ∧ l = ws.map .word ++ l' := by
  induction ws generalizing l with
  | nil => simp
  | cons w ws ih => simp [shows_cons, Stmt.selects, Stmt.shown, ih]

theorem shows_send {t : List UInt8} {r : List Stmt} {l : List ChipStep} :
    Shows (send t ++ r) l ↔ ∃ l', Shows r l' ∧ l = table t ++ l' := shows_words

theorem shows_send_nil {t : List UInt8} {l : List ChipStep} :
    Shows (send t) l ↔ l = table t := by
  rw [← List.append_nil (send t), shows_send]
  simp [shows_nil]

/-- An `ioctl` shows the table of its route. -/
theorem shows_ioctlStmts {earInject : Bool} {l : List ChipStep} :
    Shows (ioctlStmts earInject) l ↔ l = table (adcWay earInject) := by
  cases earInject <;>
    simp [ioctlStmts, shows_cons, shows_send, shows_nil, Stmt.selects, Stmt.shown, adcWay]

theorem shows_workStmts_init {l : List ChipStep} :
    Shows (workStmts .init) l ↔ l = table maxxAudioCmdMusic1Full := shows_send_nil

/-- The resume work shows a reset pulse, and the table of some route. -/
theorem shows_workStmts_sure {l : List ChipStep} : Shows (workStmts .sure) l ↔
    ∃ f, l = .reset false :: .reset true :: table (adcWay f) := by
  simp [workStmts, shows_cons, shows_send_nil, Stmt.selects, Stmt.shown]

/-- An operation shows a unit. -/
theorem isUnit_of_shows_ioctlStmts {earInject : Bool} {l : List ChipStep}
    (h : Shows (ioctlStmts earInject) l) : IsUnit l :=
  shows_ioctlStmts.1 h ▸ .adcWay earInject

theorem isUnit_of_shows_workStmts {w : Work} {l : List ChipStep} (h : Shows (workStmts w) l) :
    IsUnit l := by
  cases w with
  | init => exact shows_workStmts_init.1 h ▸ .maxxAudioCmdMusic1Full
  | sure =>
    obtain ⟨f, rfl⟩ := shows_workStmts_sure.1 h
    exact .reset f

/-- What is left of an operation can show something; nothing exactly if none of its
    statements leads to the chip. -/
theorem exists_shows (r : List Stmt) : ∃ l, Shows r l ∧ (l = [] ↔ ∀ st ∈ r, ¬st.OnChip) := by
  induction r with
  | nil => exact ⟨[], .nil, by simp⟩
  | cons st r ih =>
    obtain ⟨l, hl, hnil⟩ := ih
    by_cases hload : st = .load
    · subst hload
      refine ⟨_, .cons false (shows_send.2 ⟨l, hl, rfl⟩), iff_of_false ?_ ?_⟩
      · simp [(IsUnit.adcWay false).ne_nil]
      · exact fun h => h .load List.mem_cons_self (.inr rfl)
    · have hsel : st.selects false = [] := by cases st <;> first | rfl | exact absurd rfl hload
      refine ⟨_, .cons false (by rwa [hsel]), ?_⟩
      rw [List.append_eq_nil_iff, hnil, List.forall_mem_cons, Stmt.OnChip, or_iff_left hload,
        not_not]

/-! ## Operations alone -/

/-- Statements executed with nothing in between: what is shared before and after
    them, and what they show. -/
inductive Alone : List Stmt → Shared → Shared → List ChipStep → Prop
  | nil (sh : Shared) : Alone [] sh sh []
  | cons {st : Stmt} {r : List Stmt} {sh sh' sh'' : Shared} {l : List ChipStep} :
    st.exec sh = some sh' → Alone (st.selects sh.earInject ++ r) sh' sh'' l →
      Alone (st :: r) sh sh'' (st.shown ++ l)

theorem Alone.words {ws : List (List UInt8)} {r : List Stmt} {sh sh' : Shared}
    {l : List ChipStep} (h : Alone r sh sh' l) :
    Alone (ws.map .word ++ r) sh sh' (ws.map .word ++ l) := by
  induction ws with
  | nil => exact h
  | cons w ws ih => exact .cons rfl ih

theorem Alone.send {t : List UInt8} {r : List Stmt} {sh sh' : Shared} {l : List ChipStep}
    (h : Alone r sh sh' l) : Alone (send t ++ r) sh sh' (table t ++ l) := h.words

/-- What the chip sees of a trace: the words accepted, and the reset pin. -/
def chipSteps (t : List Event) : List ChipStep :=
  t.filterMap fun
    | .transfer _ buf ret => if 0 ≤ ret then some (.word buf) else none
    | .gpio .rs value => some (.reset value)
    | _ => none

@[simp] theorem chipSteps_append (t t' : List Event) :
    chipSteps (t ++ t') = chipSteps t ++ chipSteps t' :=
  List.filterMap_append

/-- Without a change of a pin, the chip sees the words accepted. -/
theorem chipSteps_of_noGpio {t : List Event} (h : NoGpio t) :
    chipSteps t = (accepted t).map .word := by
  induction t with
  | nil => rfl
  | cons e t ih =>
    have ht : NoGpio t := fun pin value hm => h pin value (List.mem_cons_of_mem _ hm)
    have he : chipSteps [e] = (accepted [e]).map .word := by
      cases e with
      | transfer client buf ret =>
        by_cases hret : 0 ≤ ret <;> simp [chipSteps, accepted, hret]
      | gpio pin value => exact absurd List.mem_cons_self (h pin value)
      | _ => rfl
    rw [← List.singleton_append, chipSteps_append, accepted_append, List.map_append, he, ih ht]

/-- On a bus without failures, the chip sees the whole table. -/
theorem chipSteps_sendCmd {b : Board} (h : Steady b.results) (client : Client) (l : List UInt8) :
    chipSteps (sendCmd l client b).2.trace = chipSteps b.trace ++ table l := by
  rw [trace_sendCmd, chipSteps_append, chipSteps_of_noGpio (noGpio_sendEvents _ _ _ _),
    accepted_sendEvents_of_steady h, table]

/-- What the operations share, of the state of the driver. -/
def State.shared (s : State) : Shared := ⟨s.dev.sem, s.dev.earInject, s.board.pins⟩

theorem alone_ioctlStmts (earInject f : Bool) {sem : ℕ} (h : 0 < sem) (pins : Pin → Bool) :
    Alone (ioctlStmts earInject) ⟨sem, f, pins⟩
      ⟨sem - 1 + 1, earInject, if earInject then Function.update pins .ps true else pins⟩
      (table (adcWay earInject)) := by
  rw [← List.append_nil (table _)]
  cases earInject with
  | false => exact .cons (if_pos h) (Alone.send (.cons rfl (.cons rfl (.nil _))))
  | true => exact .cons (if_pos h) (Alone.send (.cons rfl (.cons rfl (.cons rfl (.nil _)))))

theorem alone_workStmts_init (sh : Shared) :
    Alone (workStmts .init) sh sh (table maxxAudioCmdMusic1Full) := by
  rw [workStmts, ← List.append_nil (send _), ← List.append_nil (table _)]
  exact Alone.send (.nil sh)

theorem alone_workStmts_sure (sh : Shared) :
    Alone (workStmts .sure) sh
      { sh with pins := Function.update (Function.update sh.pins .rs false) .rs true }
      (.reset false :: .reset true :: table (adcWay sh.earInject)) := by
  rw [← List.append_nil (table _)]
  exact .cons rfl (.cons rfl (.cons rfl (Alone.send (.nil _))))

/-- A call of `npca110_ioctl` is its statements, executed alone. -/
theorem alone_ioctl {earInject : Bool} {ret : ℤ} {s t : State} (hr : Steady s.board.results)
    (h : ioctl false (command earInject) s = some (ret, t)) :
    ∃ l, Alone (ioctlStmts earInject) s.shared t.shared l ∧
      chipSteps t.board.trace = chipSteps s.board.trace ++ l := by
  refine ⟨table (adcWay earInject), ?_⟩
  obtain ⟨hi, -⟩ | ⟨-, -, hsem, u, hu, rfl⟩ := ioctl_eq_some_iff.1 h
  · cases hi
  have halone := alone_ioctlStmts earInject s.dev.earInject hsem s.board.pins
  cases earInject with
  | false =>
    obtain ⟨hc, -⟩ | ⟨-, client, -, rfl⟩ | ⟨-, hc, -⟩ := ioctlSwitch_eq_some_iff.1 hu
    · exact absurd hc (by decide)
    · exact ⟨by simpa [State.shared] using halone, chipSteps_sendCmd hr client _⟩
    · exact absurd rfl hc
  | true =>
    obtain ⟨-, client, -, rfl⟩ | ⟨hc, -⟩ | ⟨hc, -⟩ := ioctlSwitch_eq_some_iff.1 hu
    · refine ⟨by simpa [State.shared] using halone, ?_⟩
      rw [Board.trace_gpioSetValue, chipSteps_append, chipSteps_sendCmd hr]
      exact List.append_nil _
    · exact absurd hc (by decide)
    · exact absurd rfl hc

/-- A work item is its statements, executed alone. -/
theorem alone_execWork {w : Work} {s t : State} (hr : Steady s.board.results)
    (h : execWork w s = some t) :
    ∃ l, Alone (workStmts w) s.shared t.shared l ∧
      chipSteps t.board.trace = chipSteps s.board.trace ++ l := by
  cases w with
  | init =>
    obtain ⟨client, -, rfl⟩ := initEvents_eq_some_iff.1 h
    refine ⟨_, ?_, chipSteps_sendCmd hr client _⟩
    simpa [State.shared] using alone_workStmts_init s.shared
  | sure =>
    obtain ⟨client, -, rfl⟩ := suspendResume_eq_some_iff.1 h
    refine ⟨.reset false :: .reset true :: table (adcWay s.dev.earInject), ?_, ?_⟩
    · simpa [State.shared, resetPulse] using alone_workStmts_sure s.shared
    · rw [chipSteps_sendCmd (b := resetPulse s.board) hr]
      simp [resetPulse, chipSteps]

/-- Statements executed alone are the turns of one actor in a row. -/
theorem exists_turns (pins : Pin → Bool) {r : List Stmt} {sh sh' : Shared} {l : List ChipStep}
    (h : Alone r sh sh' l) (a : Actor) {s : Interleaved} (hs : s.shared = sh)
    (hleft : (s.ops a).left = r) : ∃ n,
      (interleaving pins).exec s (List.replicate n (.stmt a)) =
        some ⟨sh', Function.update s.ops a ⟨(s.ops a).seen ++ l, []⟩, s.trace ++ tagged a l⟩ := by
  induction h generalizing s with
  | nil sh =>
    refine ⟨0, ?_⟩
    have hop : (⟨(s.ops a).seen ++ [], []⟩ : Op) = s.ops a := by rw [List.append_nil, ← hleft]
    rw [hop, Function.update_eq_self, tagged_nil, List.append_nil, ← hs]
    rfl
  | @cons st r sh sh' sh'' l hex _ ih =>
    subst hs
    obtain ⟨t, hst, ht⟩ : ∃ t, s.step (.stmt a) = some t ∧ t =
        { shared := sh'
          ops := Function.update s.ops a
            ⟨(s.ops a).seen ++ st.shown, st.selects s.shared.earInject ++ r⟩
          trace := s.trace ++ tagged a st.shown } := by
      simp [Interleaved.step, hleft, hex]
    obtain ⟨n, hn⟩ := ih (s := t) (by rw [ht]) (by rw [ht]; simp)
    refine ⟨n + 1, ?_⟩
    rw [List.replicate_succ, Machine.exec_cons]
    change (s.step (.stmt a)).bind _ = _
    rw [hst, Option.bind_some, hn, ht]
    simp [tagged_append]

/-! ## Turns -/

/-- What an operation has shown and will show is a unit, unless there is none. -/
def Op.Sound (k : Op) : Prop := k = ⟨[], []⟩ ∨ ∀ l, Shows k.left l → IsUnit (k.seen ++ l)

theorem Op.Sound.exec {k : Op} (hk : k.Sound) {st : Stmt} {rest : List Stmt}
    (hleft : k.left = st :: rest) (f : Bool) :
    Op.Sound ⟨k.seen ++ st.shown, st.selects f ++ rest⟩ := by
  rcases hk with rfl | hk
  · cases hleft
  · refine .inr fun l hl => ?_
    rw [List.append_assoc]
    exact hk _ (hleft ▸ .cons f hl)

/-- An operation that has shown something, and is not in the middle of its unit, has
    shown it all. -/
theorem Op.Sound.isUnit {k : Op} (hk : k.Sound) (hne : k.seen ≠ []) (hm : ¬k.Midway) :
    IsUnit k.seen := by
  rcases hk with rfl | hk
  · exact absurd rfl hne
  obtain ⟨l, hl, hnil⟩ := exists_shows k.left
  obtain rfl : l = [] := hnil.2 fun st hst hon => hm ⟨hne, st, hst, hon⟩
  have := hk _ hl
  rwa [List.append_nil] at this

/-- An operation in the middle of its unit has shown the beginning of it. -/
theorem Op.Sound.exists_unit {k : Op} (hk : k.Sound) (hm : k.Midway) :
    ∃ u, IsUnit u ∧ k.seen <+: u ∧ k.seen ≠ u := by
  rcases hk with rfl | hk
  · exact absurd rfl hm.1
  obtain ⟨l, hl, hnil⟩ := exists_shows k.left
  refine ⟨_, hk l hl, List.prefix_append _ l, fun h => ?_⟩
  obtain ⟨st, hst, hon⟩ := hm.2
  exact hnil.1 (List.append_right_eq_self.1 h.symm) st hst hon

theorem Stmt.shown_eq (st : Stmt) : st.shown = [] ∨ ∃ x, st.shown = [x] := by
  cases st with
  | word w => exact .inr ⟨_, rfl⟩
  | gpio pin value => cases pin <;> first | exact .inl rfl | exact .inr ⟨_, rfl⟩
  | _ => exact .inl rfl

/-- A statement that shows nothing leaves an operation in the middle of its unit, or
    not. -/
theorem Op.midway_exec_iff {k : Op} {st : Stmt} {rest : List Stmt} (hleft : k.left = st :: rest)
    (hst : st.shown = []) (f : Bool) :
    Op.Midway ⟨k.seen ++ st.shown, st.selects f ++ rest⟩ ↔ k.Midway := by
  rw [Op.Midway, Op.Midway, hleft, hst, List.append_nil]
  by_cases hload : st = .load
  · subst hload
    refine and_congr_right fun _ => iff_of_true ?_ ⟨.load, List.mem_cons_self, .inr rfl⟩
    exact ⟨.word [0xFF, 0xAD, 0x83], List.mem_append_left _ (by cases f <;> decide),
      .inl (List.cons_ne_nil _ _)⟩
  · have hsel : st.selects f = [] := by cases st <;> first | rfl | exact absurd rfl hload
    simp [hsel, Stmt.OnChip, hst, hload]

theorem Op.not_midway_of_left {k : Op} (h : k.left = []) : ¬k.Midway := by
  rintro ⟨-, st, hst, -⟩
  rw [h] at hst
  cases hst

/-- The actor `a` may be in the middle of its unit, and nobody else is. -/
structure Split (s : Interleaved) (a : Actor) (t₀ : List (Actor × ChipStep)) : Prop where
  others : ∀ b ≠ a, ¬(s.ops b).Midway
  whole : Whole (ByOne IsUnit) t₀
  trace_eq : s.trace = t₀ ++ if (s.ops a).Midway then tagged a (s.ops a).seen else []

/-- What every state satisfies, as long as the operations exclude each other. -/
structure Interleaved.Inv (s : Interleaved) : Prop where
  sound : ∀ a, (s.ops a).Sound
  split : ∃ a t₀, Split s a t₀

variable {s t : Interleaved} {a b : Actor}

theorem Split.whole_of_not_midway {t₀ : List (Actor × ChipStep)} (h : Split s a t₀)
    (ha : ¬(s.ops a).Midway) : Whole (ByOne IsUnit) s.trace := by
  rw [h.trace_eq, if_neg ha, List.append_nil]
  exact h.whole

theorem Split.eq_of_midway {t₀ : List (Actor × ChipStep)} (h : Split s a t₀)
    (hb : (s.ops b).Midway) : b = a := by
  by_contra hne
  exact h.others b hne hb

/-- An actor that is not in the middle of a unit gets a new operation. -/
theorem Interleaved.Inv.replace (h : s.Inv) {k : Op} (hk : k.Sound) (hseen : k.seen = [])
    (ha : ¬(s.ops a).Midway) : Interleaved.Inv { s with ops := Function.update s.ops a k } := by
  have hkm : ¬k.Midway := fun hm => hm.1 hseen
  have hiff : ∀ b, (Function.update s.ops a k b).Midway ↔ (s.ops b).Midway := by
    intro b
    by_cases hba : b = a
    · subst hba
      rw [Function.update_self]
      exact iff_of_false hkm ha
    · rw [Function.update_of_ne hba]
  obtain ⟨c, t₀, hs⟩ := h.split
  refine ⟨fun b => ?_, c, t₀, fun b hb => ?_, hs.whole, ?_⟩
  · by_cases hba : b = a
    · subst hba
      simpa using hk
    · simpa [hba] using h.sound b
  · exact fun hm => hs.others b hb ((hiff b).1 hm)
  · rw [hs.trace_eq]
    by_cases hm : (s.ops c).Midway
    · have hca : c ≠ a := fun he => ha (he ▸ hm)
      simp [hm, hca]
    · rw [if_neg hm, if_neg fun hm' => hm ((hiff c).1 hm')]

/-- An operation only begins on the chip while no other one is in the middle of its
    unit. -/
def Exclusive (s : Interleaved) : Turn → Prop
  | .stmt a => (s.ops a).Begins → ∀ b ≠ a, ¬(s.ops b).Midway
  | _ => True

/-- An actor that shows a step of its unit, alone in the middle of one. -/
theorem Interleaved.Inv.show_step (h : s.Inv) {st : Stmt} {rest : List Stmt}
    (hleft : (s.ops a).left = st :: rest) {x : ChipStep} (hx : st.shown = [x])
    (hex : Exclusive s (.stmt a)) :
    (∀ b ≠ a, ¬(s.ops b).Midway) ∧
      ∃ t₀, Whole (ByOne IsUnit) t₀ ∧ s.trace = t₀ ++ tagged a (s.ops a).seen := by
  obtain ⟨c, t₀, hs⟩ := h.split
  by_cases hseen : (s.ops a).seen = []
  · have ha : ¬(s.ops a).Midway := fun hm => hm.1 hseen
    have hothers : ∀ b ≠ a, ¬(s.ops b).Midway :=
      hex ⟨hseen, st, by rw [hleft]; rfl, by simp [hx]⟩
    have hc : ¬(s.ops c).Midway := by
      by_cases hca : c = a
      · exact hca ▸ ha
      · exact hothers c hca
    exact ⟨hothers, s.trace, hs.whole_of_not_midway hc, by simp [hseen]⟩
  · have ha : (s.ops a).Midway :=
      ⟨hseen, st, by rw [hleft]; exact List.mem_cons_self, .inl (by simp [hx])⟩
    obtain rfl := hs.eq_of_midway ha
    exact ⟨hs.others, t₀, hs.whole, by rw [hs.trace_eq, if_pos ha]⟩

/-- An actor executes a statement. -/
theorem Interleaved.Inv.stmt (h : s.Inv) {st : Stmt} {rest : List Stmt} {sh : Shared}
    (hleft : (s.ops a).left = st :: rest) (hex : Exclusive s (.stmt a)) (f : Bool) :
    Interleaved.Inv
      { shared := sh
        ops := Function.update s.ops a ⟨(s.ops a).seen ++ st.shown, st.selects f ++ rest⟩
        trace := s.trace ++ tagged a st.shown } := by
  have hsound := (h.sound a).exec hleft f
  refine ⟨fun b => ?_, ?_⟩
  · by_cases hba : b = a
    · subst hba
      simpa using hsound
    · simpa [hba] using h.sound b
  rcases st.shown_eq with hnil | ⟨x, hx⟩
  · have hm : Op.Midway ⟨(s.ops a).seen, st.selects f ++ rest⟩ ↔ (s.ops a).Midway := by
      simpa [hnil] using Op.midway_exec_iff hleft hnil f
    obtain ⟨c, t₀, hs⟩ := h.split
    refine ⟨c, t₀, fun b hb => ?_, hs.whole, ?_⟩
    · by_cases hba : b = a
      · subst hba
        simpa [hnil, hm] using hs.others b hb
      · simpa [hba] using hs.others b hb
    · by_cases hca : c = a
      · subst hca
        simp [hm, hs.trace_eq, hnil]
      · simp [hca, hs.trace_eq, hnil]
  · obtain ⟨hothers, t₀, hw, htr⟩ := h.show_step hleft hx hex
    by_cases hm : Op.Midway ⟨(s.ops a).seen ++ st.shown, st.selects f ++ rest⟩
    · refine ⟨a, t₀, fun b hb => by simpa [hb] using hothers b hb, hw, ?_⟩
      simp [hm, htr, tagged_append]
    · have hu := hsound.isUnit (by simp [hx]) hm
      refine ⟨a, t₀ ++ tagged a ((s.ops a).seen ++ st.shown),
        fun b hb => by simpa [hb] using hothers b hb, hw.concat (byOne_tagged a hu), ?_⟩
      simp [hm, htr, tagged_append]

/-- The step lemma. -/
theorem Interleaved.Inv.step (h : s.Inv) {turn : Turn} (hex : Exclusive s turn)
    (hst : s.step turn = some t) : t.Inv := by
  cases turn with
  | call i earInject =>
    simp only [Interleaved.step] at hst
    split_ifs at hst with hleft
    rw [← Option.some.inj hst]
    exact h.replace (.inr fun l hl => isUnit_of_shows_ioctlStmts hl) rfl
      (Op.not_midway_of_left hleft)
  | interrupt i =>
    simp only [Interleaved.step] at hst
    split_ifs at hst with hwaits
    rw [← Option.some.inj hst]
    obtain ⟨f, hf⟩ := hwaits
    exact h.replace (.inl rfl) rfl fun hm => hm.1 (by rw [hf])
  | start w =>
    simp only [Interleaved.step] at hst
    split_ifs at hst with hleft
    rw [← Option.some.inj hst]
    exact h.replace (.inr fun l hl => isUnit_of_shows_workStmts hl) rfl
      (Op.not_midway_of_left hleft)
  | stmt a =>
    simp only [Interleaved.step] at hst
    split at hst
    · cases hst
    · next st rest hleft =>
      obtain ⟨sh, -, rfl⟩ := Option.map_eq_some_iff.1 hst
      exact h.stmt hleft hex _

/-! ## Runs -/

/-- The chip has seen complete units, and the beginning of one more at most; and just
    complete units while no operation is in progress. -/
def Serialised (s : Interleaved) : Prop :=
  Serial (ByOne IsUnit) s.trace ∧
    ((∀ a, (s.ops a).left = []) → Whole (ByOne IsUnit) s.trace)

theorem Interleaved.Inv.serialised (h : s.Inv) : Serialised s := by
  obtain ⟨a, t₀, hs⟩ := h.split
  refine ⟨?_, fun hleft => hs.whole_of_not_midway (Op.not_midway_of_left (hleft a))⟩
  by_cases hm : (s.ops a).Midway
  · obtain ⟨u, hu, hp, -⟩ := (h.sound a).exists_unit hm
    rw [hs.trace_eq, if_pos hm]
    exact hs.whole.serial_append (byOne_tagged a hu) (hp.map _)
  · exact (hs.whole_of_not_midway hm).serial

/-- A turn only adds to what the chip has seen. -/
theorem trace_of_step {turn : Turn} (hst : s.step turn = some t) :
    ∃ l, t.trace = s.trace ++ l := by
  cases turn with
  | stmt a =>
    simp only [Interleaved.step] at hst
    split at hst
    · cases hst
    · obtain ⟨sh, -, rfl⟩ := Option.map_eq_some_iff.1 hst
      exact ⟨_, rfl⟩
  | _ =>
    simp only [Interleaved.step] at hst
    split_ifs at hst
    rw [← Option.some.inj hst]
    exact ⟨[], (List.append_nil _).symm⟩

/-- A trace with a break in it. -/
def Broken (t : List (Actor × ChipStep)) : Prop :=
  ∃ t₀ m t₁, Whole (ByOne IsUnit) t₀ ∧ Breaks (ByOne IsUnit) m ∧ m ≠ [] ∧ t = t₀ ++ (m ++ t₁)

/-- An operation that begins on the chip in the middle of another's unit breaks it. -/
theorem Interleaved.Inv.broken (h : s.Inv) {turn : Turn} (hex : ¬Exclusive s turn)
    (hst : s.step turn = some t) : Broken t.trace := by
  cases turn with
  | stmt a =>
    simp only [Exclusive, not_forall, not_not] at hex
    obtain ⟨⟨hseen, st, hnext, hshown⟩, b, hba, hb⟩ := hex
    obtain ⟨c, t₀, hs⟩ := h.split
    obtain rfl := hs.eq_of_midway hb
    obtain ⟨u, hu, hp, hlt⟩ := (h.sound b).exists_unit hb
    simp only [Interleaved.step] at hst
    split at hst
    · cases hst
    · next st' rest hleft =>
      obtain ⟨sh, -, rfl⟩ := Option.map_eq_some_iff.1 hst
      obtain rfl : st' = st := by simpa [hleft] using hnext
      obtain ⟨x, hx⟩ := st'.shown_eq.resolve_left hshown
      refine ⟨t₀, tagged b (s.ops b).seen ++ [(a, x)], [], hs.whole,
        breaks_of_ne prefixCode_isUnit hu hp hb.1 hlt hba.symm x, by simp, ?_⟩
      simp [hs.trace_eq, hb, hx, tagged]
  | _ => exact absurd trivial hex

variable {pins : Pin → Bool} {turns : List Turn}

theorem interleaved_inv_of_run (hrun : (interleaving pins).Run turns s)
    (hm : (interleaving pins).Meets Exclusive turns) : s.Inv :=
  Machine.Run.invariant (I := Interleaved.Inv)
    ⟨fun _ => .inl rfl, .worker, [], fun _ _ hb => hb.1 rfl, .nil, rfl⟩
    (fun h hex hst => h.step hex hst) hrun hm

/-- A run in which the operations do not exclude each other leaves a break. -/
theorem broken_of_run (hrun : (interleaving pins).Run turns s)
    (hm : ¬(interleaving pins).Meets Exclusive turns) : Broken s.trace := by
  induction hrun with
  | init => exact absurd Machine.meets_nil hm
  | @step turns s t turn hrun hst ih =>
    by_cases hpre : (interleaving pins).Meets Exclusive turns
    · exact (interleaved_inv_of_run hrun hpre).broken (fun hex => hm (hpre.concat hrun hex)) hst
    · obtain ⟨t₀, m, t₁, hw, hb, hne, he⟩ := ih hpre
      obtain ⟨l, hl⟩ := trace_of_step hst
      exact ⟨t₀, m, t₁ ++ l, hw, hb, hne, by rw [hl, he]; simp⟩

/-- The operations are shown one after the other exactly if each only begins on the
    chip while no other one is in the middle of its unit. -/
theorem serialised_iff (hrun : (interleaving pins).Run turns s) :
    Serialised s ↔ (interleaving pins).Meets Exclusive turns := by
  refine ⟨fun h => ?_, fun hm => (interleaved_inv_of_run hrun hm).serialised⟩
  by_contra hm
  obtain ⟨t₀, m, t₁, hw, hb, hne, he⟩ := broken_of_run hrun hm
  exact not_serial prefixCode_isUnit.byOne hw hb hne (he ▸ h.1)

/-- A serial run: the resume work, and then an `ioctl`. -/
def serialTurns : List Turn :=
  .start .sure :: List.replicate 11 (.stmt .worker) ++
    .call 0 true :: List.replicate 12 (.stmt (.thread 0))

theorem serialised_iff_serialTurns :
    ∃ s, (interleaving fun _ => false).Run serialTurns s ∧
      (Serialised s ↔ (interleaving fun _ => false).Meets Exclusive serialTurns) := by
  obtain ⟨s, hs⟩ := Machine.exists_run (interleaving fun _ => false) serialTurns (by decide)
  exact ⟨s, hs, serialised_iff hs⟩

/-- Two calls of `npca110_ioctl`, which send their words in turn. -/
theorem not_serialised :
    ∃ s, (interleaving fun _ => false).Run
      [.call 0 true, .call 1 false, .stmt (.thread 0), .stmt (.thread 1), .stmt (.thread 0),
        .stmt (.thread 1), .stmt (.thread 0)] s ∧ ¬Serialised s := by
  obtain ⟨s, hs, hp⟩ := Machine.exists_run_of_map (interleaving fun _ => false)
    [.call 0 true, .call 1 false, .stmt (.thread 0), .stmt (.thread 1), .stmt (.thread 0),
      .stmt (.thread 1), .stmt (.thread 0)]
    (fun s => s.trace = [(.thread 0, .word [0xFF, 0xAD, 0x83]),
      (.thread 1, .word [0xFF, 0xAD, 0x83]), (.thread 0, .word [0x00, 0x00, 0x99])]) (by decide)
  have htr := of_decide_eq_true hp
  refine ⟨s, hs, fun h => ?_⟩
  have hb := breaks_of_ne prefixCode_isUnit (IsUnit.adcWay true) (p := [.word [0xFF, 0xAD, 0x83]])
    (by decide) (by decide) (by decide) (a := Actor.thread 0) (b := .thread 1) (by decide)
    (.word [0xFF, 0xAD, 0x83])
  exact not_serial prefixCode_isUnit.byOne .nil hb (by simp) (htr ▸ h.1)

end Sounder.Npca110

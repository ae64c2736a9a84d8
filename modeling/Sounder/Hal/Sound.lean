import Mathlib.Data.Int.Order.Basic
import Sounder.Lib.Ledger
import Sounder.Lib.Machine

/-!
# The sound HAL

`sound.c` in its process: any number of threads call `SoundWaySwitch` and
`sound_close`, one statement at a time and in any order, after one `sound_open`. They
share the mutex `s_lock` and the global `fd`. The descriptors of the process are a table
from the numbers in use to those that opened them; other code of the process opens and
closes descriptors of its own.

What the kernel decides is part of an action: the result of an `open`, which is an error
or any number that is not in use, and of an `ioctl`; and whether a signal interrupts a
system call of `TEMP_FAILURE_RETRY`, which is then made again.

The log of a run holds the descriptors opened by the HAL, the requests made on a
descriptor and the numbers closed by it, with the owner each number had then, and the
returns of `SoundWaySwitch`.
-/

namespace Sounder.Hal

/-- A call of `SoundWaySwitch`. -/
structure Call where
  /-- The number of the call. -/
  id : ℕ
  /-- Its argument. -/
  way : Int32
  deriving DecidableEq

/-- Who opened a descriptor. -/
inductive Owner
  /-- The call with this number. -/
  | hal (id : ℕ)
  /-- Other code of the process. -/
  | other
  deriving DecidableEq

/-- The statement that a thread makes next. -/
inductive Pc
  /-- In no function of the HAL. -/
  | idle
  /-- `pthread_mutex_lock(&s_lock)`. -/
  | locks (c : Call)
  /-- The `open` of the device file. -/
  | opens (c : Call)
  /-- The store of its result to `fd`. -/
  | stores (c : Call) (result : ℤ)
  /-- `if(fd < 0)`. -/
  | tests (c : Call)
  /-- `ioctl(fd, command, args)`. -/
  | ioctls (c : Call)
  /-- `close(fd)`. -/
  | closes (c : Call) (ret : ℤ)
  /-- `pthread_mutex_unlock(&s_lock)`. -/
  | unlocks (c : Call) (ret : ℤ)
  /-- `return ret`. -/
  | returns (c : Call) (ret : ℤ)
  /-- `if(fd!=0)`, of `sound_close`. -/
  | testsFd
  /-- `close(fd)`, of `sound_close`. -/
  | closesFd
  deriving DecidableEq

/-- What the log of a run holds. -/
inductive Obs
  /-- The call `id` has opened a descriptor. -/
  | opened (id : ℕ)
  /-- The call `id` makes a request on a number with this owner, if it is in use. -/
  | ioctl (id : ℕ) (command : UInt32) (owner : Option Owner)
  /-- The HAL closes a number with this owner, if it is in use. -/
  | closed (owner : Option Owner)
  /-- A call returns in the thread `th`, which has `s_lock` or not. -/
  | returned (th : ℕ) (ret : ℤ) (locked : Bool)
  deriving DecidableEq

/-- The process. -/
structure Process where
  /-- The thread that has locked `s_lock`. -/
  lock : Option ℕ
  /-- The global `fd`. -/
  fd : ℤ
  /-- The descriptors in use. -/
  table : ℕ → Option Owner
  /-- Where the threads are. -/
  pc : ℕ → Pc
  /-- The number of calls made so far. -/
  calls : ℕ
  log : List Obs

namespace Process

variable (s : Process) (th : ℕ)

/-- The owner of a number, if it is in use. -/
def owner (n : ℤ) : Option Owner := if n < 0 then none else s.table n.toNat

/-- The thread `th` goes to `p`. -/
def goto (p : Pc) : Process := { s with pc := Function.update s.pc th p }

/-- `close(n)`: a number that is not in use is left alone. -/
def close (n : ℤ) : Process :=
  { s with
    table := if n < 0 then s.table else Function.update s.table n.toNat none
    log := s.log ++ [.closed (s.owner n)] }

/-- A call of `SoundWaySwitch` returns. -/
def exit (ret : ℤ) : Process :=
  { s.goto th .idle with log := s.log ++ [.returned th ret (s.lock = some th)] }

/-- The thread `th` makes its next statement; `result` is that of the system call, if the
    statement is an `open` or an `ioctl`. -/
def run (result : ℤ) : Option Process :=
  match s.pc th with
  | .idle => none
  | .locks c => if s.lock = none then some { s.goto th (.opens c) with lock := some th } else none
  | .opens c =>
    if result < 0 then some (s.goto th (.stores c result))
    else if s.table result.toNat = none then
      some { s.goto th (.stores c result) with
        table := Function.update s.table result.toNat (some (.hal c.id))
        log := s.log ++ [.opened c.id] }
    else none
  | .stores c r => some { s.goto th (.tests c) with fd := r }
  | .tests c =>
    -- the early return leaves `s_lock` as it is
    if s.fd < 0 then some (s.exit th (-1)) else some (s.goto th (.ioctls c))
  | .ioctls c =>
    some { s.goto th (.closes c result) with
      log := s.log ++ [.ioctl c.id c.way.toUInt32 (s.owner s.fd)] }
  | .closes c ret => some ((s.close s.fd).goto th (.unlocks c ret))
  | .unlocks c ret => some { s.goto th (.returns c ret) with lock := none }
  | .returns _ ret => some (s.exit th ret)
  | .testsFd => some (s.goto th (if s.fd = 0 then .idle else .closesFd))
  | .closesFd => some ((s.close s.fd).goto th .idle)

/-- The system call of the thread `th` is interrupted by a signal. -/
def interrupted : Option Process :=
  match s.pc th with
  | .opens _ => some s
  | .ioctls c => some { s with log := s.log ++ [.ioctl c.id c.way.toUInt32 (s.owner s.fd)] }
  | _ => none

end Process

/-- The actions of the process. -/
inductive Act
  /-- A thread calls `SoundWaySwitch`. -/
  | call (th : ℕ) (way : Int32)
  /-- A thread calls `sound_close`. -/
  | soundClose (th : ℕ)
  /-- A thread makes its next statement. -/
  | run (th : ℕ) (result : ℤ)
  /-- A signal interrupts the system call of a thread. -/
  | interrupted (th : ℕ)
  /-- Other code opens a descriptor. -/
  | otherOpen (n : ℕ)
  /-- Other code closes one of its descriptors. -/
  | otherClose (n : ℕ)
  deriving DecidableEq

/-- One action. -/
def Process.step (s : Process) : Act → Option Process
  | .call th way =>
    if s.pc th = .idle then
      some { s.goto th (.locks ⟨s.calls, way⟩) with calls := s.calls + 1 }
    else none
  | .soundClose th => if s.pc th = .idle then some (s.goto th .testsFd) else none
  | .run th result => s.run th result
  | .interrupted th => s.interrupted th
  | .otherOpen n =>
    if s.table n = none then some { s with table := Function.update s.table n (some .other) }
    else none
  | .otherClose n =>
    if s.table n = some .other then some { s with table := Function.update s.table n none }
    else none

/-- The process after `sound_open`, with the numbers that other code uses. -/
def machine (used : ℕ → Bool) : Machine Process Act where
  init := ⟨none, 0, fun n => if used n then some .other else none, fun _ => .idle, 0, []⟩
  step := Process.step

/-! ## A call alone -/

/-- The actions of a call, up to its test of `fd`; its `open` gives `r`. -/
def beginActs (th : ℕ) (way : Int32) (r : ℤ) : List Act :=
  [.call th way, .run th 0, .run th r, .run th 0, .run th 0]

/-- The actions of a call from its request on, which is interrupted `n` times and then gives
    `ret`. -/
def finishActs (th n : ℕ) (ret : ℤ) : List Act :=
  List.replicate n (.interrupted th) ++ [.run th ret, .run th 0, .run th 0, .run th 0]

variable {p : Process} {th : ℕ} {c : Call} {r : ℤ} (used : ℕ → Bool) (way : Int32) (n : ℕ)
  (ret : ℤ)

/-- A call that cannot open the device file. -/
theorem exec_beginActs_of_neg (hidle : p.pc th = .idle) (hlock : p.lock = none) (hr : r < 0) :
    ∃ q, (machine used).exec p (beginActs th way r) = some q ∧ q.pc th = .idle ∧
      q.lock = some th ∧ q.log = p.log ++ [.returned th (-1) true] := by
  simp [beginActs, Machine.exec_cons, machine, Process.step, Process.run, Process.goto,
    Process.exit, hidle, hlock, hr]

/-- A call that opens the device file. -/
theorem exec_beginActs_of_nonneg (hidle : p.pc th = .idle) (hlock : p.lock = none) (hr : 0 ≤ r)
    (hfree : p.table r.toNat = none) :
    ∃ q, (machine used).exec p (beginActs th way r) = some q ∧ q.pc th = .ioctls ⟨p.calls, way⟩ ∧
      q.lock = some th ∧ q.owner q.fd = some (.hal p.calls) ∧
      q.log = p.log ++ [.opened p.calls] := by
  simp [beginActs, Machine.exec_cons, machine, Process.step, Process.run, Process.goto,
    hidle, hlock, not_lt.2 hr, hr, hfree, Process.owner]

/-- The requests that are interrupted. -/
theorem exec_interrupted (hp : p.pc th = .ioctls c) :
    (machine used).exec p (List.replicate n (.interrupted th)) = some { p with
      log := p.log ++ List.replicate n (.ioctl c.id c.way.toUInt32 (p.owner p.fd)) } := by
  induction n generalizing p with
  | zero => simp
  | succ n ih =>
    have hstep : (machine used).step p (.interrupted th) = some { p with
        log := p.log ++ [.ioctl c.id c.way.toUInt32 (p.owner p.fd)] } := by
      simp [machine, Process.step, Process.interrupted, hp]
    rw [List.replicate_succ, Machine.exec_cons, hstep, Option.bind_some,
      ih (p := { p with log := p.log ++ [.ioctl c.id c.way.toUInt32 (p.owner p.fd)] }) hp]
    simp [Process.owner, List.replicate_succ]

/-- The request that is not interrupted, and what follows it. -/
theorem exec_finishActs_zero (hp : p.pc th = .ioctls c)
    (howner : p.owner p.fd = some (.hal c.id)) :
    ∃ q, (machine used).exec p (finishActs th 0 ret) = some q ∧ q.pc th = .idle ∧
      q.lock = none ∧ q.log = p.log ++ [.ioctl c.id c.way.toUInt32 (some (.hal c.id)),
        .closed (some (.hal c.id)), .returned th ret false] := by
  rw [Process.owner] at howner
  simp [finishActs, Machine.exec_cons, machine, Process.step, Process.run, Process.goto,
    Process.close, Process.exit, Process.owner, hp, howner]

theorem exec_finishActs (hp : p.pc th = .ioctls c) (howner : p.owner p.fd = some (.hal c.id)) :
    ∃ q, (machine used).exec p (finishActs th n ret) = some q ∧ q.pc th = .idle ∧
      q.lock = none ∧ q.log = p.log ++
        List.replicate (n + 1) (.ioctl c.id c.way.toUInt32 (some (.hal c.id))) ++
        [.closed (some (.hal c.id)), .returned th ret false] := by
  let p' : Process := { p with
    log := p.log ++ List.replicate n (.ioctl c.id c.way.toUInt32 (p.owner p.fd)) }
  obtain ⟨q, hq, hpc, hl, hlog⟩ := exec_finishActs_zero (p := p') used ret hp howner
  refine ⟨q, ?_, hpc, hl, ?_⟩
  · rw [finishActs, Machine.exec_append, exec_interrupted used n hp, Option.bind_some]
    exact hq
  · rw [hlog, List.replicate_succ', ← howner]
    simp [p']

/-- **A call alone.** A thread that calls `SoundWaySwitch` while `s_lock` is free, and is not
    interfered with: without a descriptor, it returns `-1` and leaves `s_lock` locked; with
    one, it makes its request on it, closes it, and returns the result of the request. -/
theorem exec_alone (hidle : p.pc th = .idle) (hlock : p.lock = none)
    (hfree : 0 ≤ r → p.table r.toNat = none) :
    ∃ q, (machine used).exec p
        (beginActs th way r ++ if r < 0 then [] else finishActs th n ret) = some q ∧
      q.pc th = .idle ∧ q.lock = (if r < 0 then some th else none) ∧
      q.log = p.log ++ if r < 0 then [.returned th (-1) true] else
        .opened p.calls ::
          List.replicate (n + 1) (.ioctl p.calls way.toUInt32 (some (.hal p.calls))) ++
          [.closed (some (.hal p.calls)), .returned th ret false] := by
  rw [Machine.exec_append]
  split_ifs with hr
  · obtain ⟨q, hq, hpc, hl, hlog⟩ := exec_beginActs_of_neg used way hidle hlock hr
    exact ⟨q, by rw [hq, Option.bind_some, Machine.exec_nil], hpc, hl, hlog⟩
  · obtain ⟨q, hq, hpc, hl, howner, hlog⟩ :=
      exec_beginActs_of_nonneg used way hidle hlock (not_lt.1 hr) (hfree (not_lt.1 hr))
    obtain ⟨u, hu, hpc', hl', hlog'⟩ := exec_finishActs used n ret hpc howner
    refine ⟨u, by rw [hq, Option.bind_some, hu], hpc', hl', ?_⟩
    rw [hlog', hlog]
    simp

end Sounder.Hal

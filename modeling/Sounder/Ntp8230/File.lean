import Sounder.DeviceFile
import Sounder.Ntp8230.Driver

/-!
# The device file

The device file of the amplifier, with any number of threads that call its operations,
statement by statement, while the driver is probed and its work queue runs. The semaphore of
the device structure is initialised to `6`; `ntp8230_ioctl` does not take it.

Unlike at the device file of the codec, no statement kills its thread. In every run, the
calls that have begun return, whoever takes the next step, until all the threads are idle
and the semaphore is at `6` again; and none of them copies anything to its caller, or fails
unless a signal interrupts it (`drainsIdle_of_run`).
-/

namespace Sounder.Ntp8230.File

open DeviceFile

/-- `ntp8230_ioctl`. -/
def ioctl (_cmd : UInt32) : ℤ := 0

/-- The operations. -/
abbrev Op := DeviceFile.Op

/-- Their points; `ntp8230_ioctl` has none at which it has the semaphore. -/
abbrev Point := DeviceFile.Point Empty

/-- The device structure, with the driver. -/
structure Device where
  /-- The count of the semaphore. -/
  sem : ℕ
  drv : State

/-- The other calls of the driver. -/
inductive Env
  /-- `ntp8230_probe`. -/
  | probe (functionality : Bool) (client : Client) (test data : UInt8) (wqCreated : Bool)
  /-- A call of a PM callback on the work queue. -/
  | call (c : WorkQueue.Call Work)
  /-- The work queue thread runs one item. -/
  | work
  /-- The flag of the npca110 driver changes. -/
  | flag (earInject : Bool)
  deriving DecidableEq

/-- A call of the driver. -/
def env : Env → State → Option State
  | .probe functionality client test data wqCreated, s =>
    some (probe functionality client test data wqCreated s).2
  | .call c, s => (WorkQueue.call c s.queue).map fun queue => { s with queue := queue }
  | .work, s => work s
  | .flag earInject, s => some { s with earInject := earInject }

/-- The device file of the amplifier. -/
def file : DeviceFile Device Empty Env where
  count s := s.sem
  setCount n s := { s with sem := n }
  ioctl cmd := .ret (ioctl cmd)
  own k := k.elim
  env e s := (env e s.drv).map fun drv => { s with drv := drv }
  count_setCount _ _ := rfl
  count_own {k} := k.elim
  count_env h := by
    obtain ⟨drv, -, rfl⟩ := Option.map_eq_some_iff.1 h
    rfl

/-- `ntp8230_read`. -/
def read : Bool → ℕ → List UInt8 → ℕ → Device → Option ((ℤ × Option (List UInt8)) × Device) :=
  file.read

/-- `ntp8230_write`. -/
def write : Bool → Device → Option (ℤ × Device) := file.write

/-- The operations, with the semaphore. -/
abbrev gate : Gate Device Point Op Env := file.gate

/-- The threads, from the load of the driver on. -/
abbrev machine (drv : State) : Machine (Gate.Crowd Device Point ℕ) (Gate.Turn Op Env ℕ) :=
  gate.machine ℕ ⟨6, drv⟩

theorem leads : file.Leads Empty.elim where
  ioctl _ := ⟨rfl, .inl rfl⟩
  own {k} := k.elim

/-- The statements kill nobody. -/
theorem live : gate.Live (fun _ => True) (Point.left Empty.elim) :=
  leads.live (fun _ _ _ => trivial) (fun _ _ => trivial) (fun _ _ => trivial) (fun k => k.elim)
    fun _ => ⟨.flag false, _, rfl, trivial⟩

variable {drv : State} {s : Gate.Crowd Device Point ℕ} {ts : List (Gate.Turn Op Env ℕ)}

/-- A whole call, with nothing in between, is the function of the driver. -/
theorem exec_call {interrupted : Bool} {buffer : List UInt8} {op : Op} {ret : ℤ} {u : Device}
    {i : ℕ} (hi : s.place i = .idle)
    (h : file.run (fun _ cmd s => some (ioctl cmd, s)) interrupted buffer op s.shared =
      some (ret, u)) :
    ∃ ms : List (Gate.Move Op), (machine drv).exec s ((.call op :: ms).map (.thread i)) =
      some ⟨u, s.place⟩ :=
  exec_of_run (fun h => by
    cases h
    exact .ret rfl) hi h

/-- In every run, the calls that have begun return within so many steps, whoever takes them,
    until all the threads are idle and the semaphore is at `6`; nobody is about to copy
    anything, and whoever is about to return, returns `0` or `-ERESTARTSYS`. -/
theorem drainsIdle_of_run (hrun : (machine drv).Run ts s) :
    (machine drv).Drains Gate.Turn.Inner (fun t => t.shared.sem = 6 ∧ ∀ i, t.place i = .idle) s
        (Gate.cost (Point.left Empty.elim) s) ∧
      ∀ i, (∀ missing, s.place i ≠ .inside (.copy missing)) ∧
        ∀ ret, s.place i = .inside (.ret ret) → ret = 0 ∨ ret = -erestartsys :=
  ⟨live.drains_idle leads.paired trivial (Nat.succ_ne_zero 5) hrun, leads.zero_of_run hrun⟩

/-- Six threads that have the semaphore, one that waits, and one that was interrupted. -/
def eightTurns : List (Gate.Turn Op Env ℕ) :=
  (List.range 6).flatMap (fun i => [.thread i (.call (.read 1 0)), .thread i .down]) ++
    [.thread 6 (.call .write), .thread 7 (.call .write), .thread 7 .interrupt]

theorem drainsIdle_of_run_eight :
    ∃ s, (machine ⟨none, false, .empty, false, ⟨Stream'.const 1, [], fun _ => false⟩⟩).Run
        eightTurns s ∧
      s.shared.sem = 0 ∧ s.place 6 = .inside .downWrite ∧
      (machine ⟨none, false, .empty, false, ⟨Stream'.const 1, [], fun _ => false⟩⟩).Drains
        Gate.Turn.Inner (fun t => t.shared.sem = 6 ∧ ∀ i, t.place i = .idle) s
        (Gate.cost (Point.left Empty.elim) s) := by
  obtain ⟨s, hs, hp⟩ := Machine.exists_run_of_map
    (machine ⟨none, false, .empty, false, ⟨Stream'.const 1, [], fun _ => false⟩⟩)
    eightTurns (fun s => s.shared.sem = 0 ∧ s.place 6 = .inside .downWrite) (by decide +kernel)
  obtain ⟨hsem, hwaits⟩ := of_decide_eq_true hp
  exact ⟨s, hs, hsem, hwaits, (drainsIdle_of_run hs).1⟩

end Sounder.Ntp8230.File

import Sounder.Lib.Machine
import Sounder.Npca110.Driver

/-!
# The device node and the client

The device node, from the moment when `npca110_i2c_init` has added the character device,
with the clients that are probed and removed. The node can be opened once it is created,
clients are probed once the driver is registered, and only a client that was bound by a
successful probe is removed. A probe stores its client before it creates the work queue,
and other calls may come in between (`probe_eq`).

`npca110_ioctl` follows the client that was stored last (`Stored`). It should be the one
of the most recent successful probe, and not have been removed since (`Passed.Ok`). It
is not so (`not_passedOk`): the client is null before the first probe, that of a probe
that then fails, or one that was removed, as nothing takes it back. It is so exactly if
the route commands only get the semaphore while the client stored last is such a one
(`passedOk_iff`).
-/

namespace Sounder.Npca110

/-! ## Probe and remove -/

/-- `npca110_probe`, up to where it stores the client. -/
def probeStore (functionality : Bool) (client : Client) (reply : List UInt8) (s : State) :
    ℤ × State :=
  if !functionality then (-enodev, s)
  else
    let s := { s with dev.earInject := false }
    let (ret, board) := i2cCheck client reply s.board
    let s := { s with board := board }
    if ret ≠ 1 then (-1, s) else (0, { s with dev.client := some client })

/-- The rest of `npca110_probe`. -/
def probeQueue (wqCreated : Bool) (s : State) : ℤ × State :=
  let s := { s with wq := wqCreated }
  if !wqCreated then (-enomem, s) else (0, { s with queue := s.queue.queueWork .init })

/-- `npca110_probe` is its two parts. -/
theorem probe_eq (functionality : Bool) (client : Client) (reply : List UInt8)
    (wqCreated : Bool) (s : State) :
    probe functionality client reply wqCreated s =
      if (probeStore functionality client reply s).1 = 0 then
        probeQueue wqCreated (probeStore functionality client reply s).2
      else probeStore functionality client reply s := by
  cases functionality
  · simp [probe, probeStore, enodev]
  · by_cases hret : (i2cCheck client reply s.board).1 = 1 <;>
      simp [probe, probeStore, probeQueue, hret]

/-- `npca110_i2c_remove`: the client and `npca110_wq` stay as they are. -/
def i2cRemove (s : State) : State :=
  { s with queue := (s.queue.cancelWork .init).cancelWork .sure }

namespace Node

/-! ## The machine -/

/-- The statements of `npca110_i2c_init` after it has created the class. -/
inductive InitStmt
  | deviceCreate
  | semaInit
  | i2cAddDriver
  deriving DecidableEq

/-- What becomes of a client. -/
inductive Phase
  | unbound
  /-- A probe has stored the client, and not returned yet. -/
  | probing
  | bound
  deriving DecidableEq

/-- What happened to a client. -/
inductive Note
  | stored (client : Client)
  | bound (client : Client)
  | removed (client : Client)
  deriving DecidableEq

/-- A call of `Npca110_SendCmd` by `npca110_ioctl`: the client that it passes, and what
    happened before. -/
structure Passed where
  client : Option Client
  before : List Note
  deriving DecidableEq

/-- The driver and its device node. -/
structure System where
  drv : State
  /-- What is left of `npca110_i2c_init`. -/
  init : List InitStmt
  opened : Bool
  phase : Client → Phase
  notes : List Note
  passed : List Passed

/-- The actions of the system. -/
inductive Act
  /-- `npca110_i2c_init` executes its next statement. -/
  | init
  /-- `npca110_open`. -/
  | openNode
  /-- `npca110_ioctl`, whose wait for the semaphore may be interrupted. -/
  | ioctl (interrupted : Bool) (cmd : UInt32)
  /-- `npca110_probe` is called, and fails or stores the client. -/
  | probe (functionality : Bool) (client : Client) (reply : List UInt8)
  /-- The probe of a client goes on, and returns. -/
  | queue (client : Client) (wqCreated : Bool)
  /-- `npca110_i2c_remove`. -/
  | remove (client : Client)
  deriving DecidableEq

/-- The action sends a route table. -/
def Act.passes : Act → Bool
  | .ioctl interrupted cmd => !interrupted && (cmd == aux1ToAux2 || cmd == aux2ToAux1)
  | _ => false

/-- One action. -/
def System.step (s : System) : Act → Option System
  | .init =>
    match s.init with
    | [] => none
    | .semaInit :: init => some { s with init := init, drv := { s.drv with dev.sem := 6 } }
    | _ :: init => some { s with init := init }
  | .openNode => if .deviceCreate ∉ s.init then some { s with opened := true } else none
  | .ioctl interrupted cmd =>
    if s.opened ∧ (interrupted ∨ 0 < s.drv.dev.sem) then
      some { s with
        drv :=
          match ioctl interrupted cmd s.drv with
          | some (_, drv) => drv
          -- the thread is killed with the semaphore in its hands
          | none => { s.drv with dev.sem := s.drv.dev.sem - 1 }
        passed :=
          if (Act.ioctl interrupted cmd).passes then s.passed ++ [⟨s.drv.dev.client, s.notes⟩]
          else s.passed }
    else none
  | .probe functionality client reply =>
    if .i2cAddDriver ∉ s.init ∧ s.phase client = .unbound then
      let (ret, drv) := probeStore functionality client reply s.drv
      if ret = 0 then
        some { s with
          drv := drv
          phase := Function.update s.phase client .probing
          notes := s.notes ++ [.stored client] }
      else some { s with drv := drv }
    else none
  | .queue client wqCreated =>
    if s.phase client = .probing then
      let (ret, drv) := probeQueue wqCreated s.drv
      if ret = 0 then
        some { s with
          drv := drv
          phase := Function.update s.phase client .bound
          notes := s.notes ++ [.bound client] }
      else some { s with drv := drv, phase := Function.update s.phase client .unbound }
    else none
  | .remove client =>
    if s.phase client = .bound then
      some { s with
        drv := i2cRemove s.drv
        phase := Function.update s.phase client .unbound
        notes := s.notes ++ [.removed client] }
    else none

/-- The system, from where `npca110_i2c_init` creates the device node: the device
    structure is zeroed. -/
def machine (results : Stream' ℤ) (pins : Pin → Bool) : Machine System Act where
  init :=
    { drv := ⟨⟨none, 0, false⟩, false, .empty, ⟨results, [], pins⟩⟩
      init := [.deviceCreate, .semaInit, .i2cAddDriver]
      opened := false
      phase := fun _ => .unbound
      notes := []
      passed := [] }
  step := System.step

/-! ## The client -/

/-- The client stored last. -/
def lastStored (l : List Note) : Option Client :=
  l.foldl (fun
    | _, .stored c => some c
    | c, _ => c) none

/-- The client of the most recent successful probe, if it was not removed since. -/
def lastBound (l : List Note) : Option Client :=
  l.foldl (fun
    | _, .bound c => some c
    | c, .removed c' => if c = some c' then none else c
    | c, _ => c) none

/-- The client stored last is that of the most recent successful probe, and was not
    removed since. -/
def Settled (l : List Note) : Prop := lastStored l ≠ none ∧ lastBound l = lastStored l

instance : DecidablePred Settled := fun _ => inferInstanceAs (Decidable (_ ∧ _))

/-- The client passed is that of the most recent successful probe, and was not removed
    since. -/
def Passed.Ok (p : Passed) : Prop := p.client ≠ none ∧ lastBound p.before = p.client

instance : DecidablePred Passed.Ok := fun _ => inferInstanceAs (Decidable (_ ∧ _))

@[simp] theorem lastStored_stored (l : List Note) (c : Client) :
    lastStored (l ++ [.stored c]) = some c := by
  simp [lastStored]

@[simp] theorem lastStored_bound (l : List Note) (c : Client) :
    lastStored (l ++ [.bound c]) = lastStored l := by
  simp [lastStored]

@[simp] theorem lastStored_removed (l : List Note) (c : Client) :
    lastStored (l ++ [.removed c]) = lastStored l := by
  simp [lastStored]

/-- A probe stores its client exactly if it goes on. -/
theorem client_probeStore (functionality : Bool) (client : Client) (reply : List UInt8)
    (s : State) : (probeStore functionality client reply s).2.dev.client =
      if (probeStore functionality client reply s).1 = 0 then some client else s.dev.client := by
  cases functionality
  · simp [probeStore, enodev]
  · by_cases hret : (i2cCheck client reply s.board).1 = 1 <;> simp [probeStore, hret]

theorem client_probeQueue (wqCreated : Bool) (s : State) :
    (probeQueue wqCreated s).2.dev.client = s.dev.client := by
  cases wqCreated <;> rfl

variable {results : Stream' ℤ} {pins : Pin → Bool} {s t : System} {as : List Act}

/-- An action leaves the client and what is noted of it, or stores and notes one; and
    what it passes is the client. -/
theorem step_cases {a : Act} (h : s.step a = some t) :
    (t.drv.dev.client = s.drv.dev.client ∧ lastStored t.notes = lastStored s.notes ∨
      t.drv.dev.client = lastStored t.notes) ∧
    t.passed = s.passed ++ if a.passes then [⟨s.drv.dev.client, s.notes⟩] else [] := by
  cases a with
  | init =>
    simp only [System.step] at h
    split at h <;> cases h <;> simp [Act.passes]
  | openNode =>
    simp only [System.step] at h
    split_ifs at h
    cases h
    simp [Act.passes]
  | ioctl interrupted cmd =>
    simp only [System.step] at h
    split_ifs at h with _ hp <;> cases h <;> refine ⟨.inl ⟨?_, rfl⟩, by simp [hp]⟩ <;>
    · split
      · rename_i ret drv hioctl
        exact (ioctl_frame hioctl).2.1
      · rfl
  | probe functionality client reply =>
    have hclient := client_probeStore functionality client reply s.drv
    simp only [System.step] at h
    split_ifs at h with _ hret
    · cases h
      exact ⟨.inr (by rw [hclient, if_pos hret, lastStored_stored]), by simp [Act.passes]⟩
    · cases h
      exact ⟨.inl ⟨by rw [hclient, if_neg hret], rfl⟩, by simp [Act.passes]⟩
  | queue client wqCreated =>
    have hclient := client_probeQueue wqCreated s.drv
    simp only [System.step] at h
    split_ifs at h
    · cases h
      exact ⟨.inl ⟨hclient, lastStored_bound _ _⟩, by simp [Act.passes]⟩
    · cases h
      exact ⟨.inl ⟨hclient, rfl⟩, by simp [Act.passes]⟩
  | remove client =>
    simp only [System.step] at h
    split_ifs at h
    cases h
    exact ⟨.inl ⟨rfl, lastStored_removed _ _⟩, by simp [Act.passes]⟩

/-- The client of the driver is the one stored last. -/
def Stored (s : System) : Prop := s.drv.dev.client = lastStored s.notes

theorem Stored.step {a : Act} (hs : Stored s) (h : s.step a = some t) : Stored t := by
  obtain ⟨⟨hclient, hnotes⟩ | ht, -⟩ := step_cases h
  · exact hclient.trans (hs.trans hnotes.symm)
  · exact ht

/-- Every client passed is that of the most recent successful probe, and was not removed
    since, exactly if the route commands only get the semaphore while the client stored last is
    such a one. -/
theorem passedOk_iff (hrun : (machine results pins).Run as s) :
    (∀ p ∈ s.passed, p.Ok) ↔
      (machine results pins).Meets (fun s a => a.passes → Settled s.notes) as := by
  refine hrun.iff_meets (I := Stored) (P := fun s => ∀ p ∈ s.passed, p.Ok) rfl
    (by simp [machine]) fun {s a t} hs hst => ⟨hs.step hst, ?_⟩
  rw [(step_cases hst).2, List.forall_mem_append]
  refine and_congr_right fun _ => ?_
  cases a.passes
  · simp
  · simp [Passed.Ok, Settled, show s.drv.dev.client = lastStored s.notes from hs]

/-- A probe that succeeds, and a route command. -/
theorem passedOk_iff_probed :
    ∃ s, (machine (Stream'.const 1) fun _ => false).Run
      [.init, .openNode, .init, .init, .probe true 7 [0x00, 0x60, 0x00], .queue 7 true,
        .ioctl false aux1ToAux2] s ∧ ∀ p ∈ s.passed, p.Ok := by
  obtain ⟨s, hs⟩ := Machine.exists_run (machine (Stream'.const 1) fun _ => false)
    [.init, .openNode, .init, .init, .probe true 7 [0x00, 0x60, 0x00], .queue 7 true,
      .ioctl false aux1ToAux2] (by decide +kernel)
  exact ⟨s, hs, (passedOk_iff hs).2 (Machine.meets_of_along (by decide +kernel))⟩

/-- A route command before the first probe: the client is null. -/
theorem not_passedOk :
    ∃ s, (machine (Stream'.const 1) fun _ => false).Run
      [.init, .init, .init, .openNode, .ioctl false aux1ToAux2] s ∧ ¬∀ p ∈ s.passed, p.Ok := by
  obtain ⟨s, hs, hp⟩ := Machine.exists_run_of_map (machine (Stream'.const 1) fun _ => false)
    [.init, .init, .init, .openNode, .ioctl false aux1ToAux2]
    (fun s => s.passed = [⟨none, []⟩]) (by decide +kernel)
  refine ⟨s, hs, fun h => ?_⟩
  exact (h ⟨none, []⟩ (by simp [of_decide_eq_true hp])).1 rfl

end Node

end Sounder.Npca110

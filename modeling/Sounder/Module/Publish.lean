import Sounder.Module.Load

/-!
# The device node during a load

A load, one statement at a time, with those who open the device node in between, use the
file and close it. Every use takes the semaphore of the device structure: the structure
should be allocated, and its semaphore initialised (`Use.Ok`). The kernel does not unload
a module whose file is open, and lets nobody open it from then on; but it does not keep
an init function from failing.

The node is created before the semaphore is initialised, and is taken back with the
structure, if the registration of the I2C driver fails. So a use that is not as it should
be can follow in exactly the states where the semaphore is still to be initialised, or
the structure is freed, or is to be freed by the load, while somebody has the file open or
can open it (`canMisuse_iff`). It does not happen if nobody opens the file before the init
function has returned (`ok_of_openedLater`).
-/

namespace Sounder.Module

/-- The statements of a load and of the exit function that concern a use of the file. -/
inductive LoadStmt
  | entry (e : Entry Resource)
  /-- `sema_init`. -/
  | semaInit
  deriving DecidableEq

/-- The statements of an init function, given what it acquires and releases: it
    initialises the semaphore after it has created the node. -/
def loadStmts : List (Entry Resource) → List LoadStmt
  | [] => []
  | .acquire (.node dev) :: l => .entry (.acquire (.node dev)) :: .semaInit :: loadStmts l
  | e :: l => .entry e :: loadStmts l

/-- A use of the file: what it finds of the device structure. -/
structure Use where
  allocated : Bool
  /-- The semaphore is initialised. -/
  ready : Bool
  deriving DecidableEq

/-- The structure is allocated, and its semaphore initialised. -/
def Use.Ok (u : Use) : Prop := u.allocated = true ∧ u.ready = true

instance : DecidablePred Use.Ok := fun _ => inferInstanceAs (Decidable (_ ∧ _))

/-- The device structure and the device node. -/
structure DevState where
  allocated : Bool
  /-- The semaphore is initialised. -/
  ready : Bool
  /-- The device node exists. -/
  node : Bool
  deriving DecidableEq

/-- The state after a statement. -/
def DevState.exec (d : DevState) : LoadStmt → DevState
  | .semaInit => { d with ready := true }
  | .entry (.acquire .dev) => { d with allocated := true }
  | .entry (.release .dev) => { d with allocated := false }
  | .entry (.acquire (.node _)) => { d with node := true }
  | .entry (.release (.node _)) => { d with node := false }
  | .entry _ => d

/-- A module, with those who use its device file. -/
structure Publishing where
  /-- What is left of the init function, or of the exit function. -/
  left : List LoadStmt
  /-- The exit function was called. -/
  closing : Bool
  dev : DevState
  /-- How many files are open. -/
  opened : ℕ
  uses : List Use

/-- Who takes a step. -/
inductive Visit
  /-- The init function, or the exit function, executes its next statement. -/
  | stmt
  | openNode
  /-- `read`, `write` or `ioctl` on an open file. -/
  | use
  | close
  /-- The module is unloaded. -/
  | unload
  deriving DecidableEq

namespace Publishing

/-- Somebody may open the file. -/
def Openable (s : Publishing) : Prop := s.dev.node = true ∧ s.closing = false

instance : DecidablePred Openable := fun _ => inferInstanceAs (Decidable (_ ∧ _))

/-- One step, where `ret` and `exit` are the result of the init function and the exit
    function. -/
def step (ret : ℤ) (exit : List (Entry Resource)) (s : Publishing) : Visit → Option Publishing
  | .stmt =>
    match s.left with
    | [] => none
    | st :: left => some { s with left := left, dev := s.dev.exec st }
  | .openNode => if s.Openable then some { s with opened := s.opened + 1 } else none
  | .use =>
    if 0 < s.opened then some { s with uses := s.uses ++ [⟨s.dev.allocated, s.dev.ready⟩] }
    else none
  | .close => if 0 < s.opened then some { s with opened := s.opened - 1 } else none
  | .unload =>
    if s.left = [] ∧ s.closing = false ∧ s.opened = 0 ∧ ret = 0 then
      some { s with closing := true, left := exit.map .entry }
    else none

end Publishing

/-- The driver `d`, from a load with the results `k` on. -/
def publishing (d : Driver) (k : Calls) : Machine Publishing Visit where
  init := ⟨loadStmts (d.i2cInit k .zero).ledger, false, ⟨false, false, false⟩, 0, []⟩
  step := Publishing.step (d.i2cInit k .zero).ret (d.i2cExit (d.i2cInit k .zero).globals)

/-! ## The order of the statements -/

/-- A node leads to a structure that is allocated, and whose semaphore is initialised. -/
def DevState.Sound (d : DevState) : Prop := d.node = true → d.allocated = true ∧ d.ready = true

/-- Statements that only leave the node without a sound structure between its creation and
    the initialisation of the semaphore. -/
def Orderly : DevState → List LoadStmt → Prop
  | d, [] => d.Sound
  | d, .semaInit :: l => d = ⟨true, false, true⟩ ∧ Orderly ⟨true, true, true⟩ l
  | d, .entry (.acquire (.node dev)) :: l =>
    d = ⟨true, false, false⟩ ∧ l.head? = some .semaInit ∧
      Orderly (d.exec (.entry (.acquire (.node dev)))) l
  | d, st :: l => d.Sound ∧ Orderly (d.exec st) l

theorem orderly_loadStmts (d : Driver) (k : Calls) :
    Orderly ⟨false, false, false⟩ (loadStmts (d.i2cInit k .zero).ledger) := by
  rw [d.i2cInit_eq]
  by_cases h : k.Succeed d.gpios
  · obtain ⟨-, hl, -⟩ := i2cInit_of_succeed (g := .zero) h
    simp [hl, resources, loadStmts, Orderly, DevState.exec, DevState.Sound]
  · obtain ⟨-, n, hl⟩ := i2cInit_of_not_succeed (g := .zero) h
    rw [hl]
    rcases n with _ | _ | _ | _ | _ | _ | n <;>
      simp [resources, loadStmts, Orderly, DevState.exec, DevState.Sound]

variable {d : DevState} {st : LoadStmt} {l : List LoadStmt}

theorem Orderly.exec (h : Orderly d (st :: l)) : Orderly (d.exec st) l := by
  cases st with
  | semaInit => exact h.1 ▸ h.2
  | entry e =>
    cases e with
    | acquire r => cases r <;> first | exact h.2.2 | exact h.2
    | release r => cases r <;> exact h.2

/-- Once the semaphore is initialised, a node leads to a sound structure. -/
theorem Orderly.sound (h : Orderly d l) (hl : .semaInit ∉ l) : d.Sound := by
  cases l with
  | nil => exact h
  | cons st l =>
    cases st with
    | semaInit => exact absurd List.mem_cons_self hl
    | entry e =>
      cases e with
      | acquire r =>
        cases r with
        | node dev =>
          obtain rfl := h.1
          exact fun hn => Bool.noConfusion hn
        | _ => exact h.1
      | release r => cases r <;> exact h.1

/-- The node is only created with the initialisation of the semaphore to follow. -/
theorem Orderly.semaInit_mem {dev : DevT} (h : Orderly d (.entry (.acquire (.node dev)) :: l)) :
    .semaInit ∈ l :=
  List.mem_of_mem_head? (h.2.1 ▸ rfl)

theorem allocated_exec (hst : st ≠ .entry (.release .dev)) (hd : d.allocated = true) :
    (d.exec st).allocated = true := by
  cases st with
  | semaInit => exact hd
  | entry e =>
    cases e with
    | acquire r => cases r <;> first | exact hd | rfl
    | release r => cases r <;> first | exact hd | exact absurd rfl hst

theorem node_of_exec (hd : (d.exec st).node = true) :
    d.node = true ∨ ∃ dev, st = .entry (.acquire (.node dev)) := by
  cases st with
  | semaInit => exact .inl hd
  | entry e =>
    cases e with
    | acquire r => cases r <;> first | exact .inr ⟨_, rfl⟩ | exact .inl hd
    | release r => cases r <;> first | exact .inl hd | cases hd

theorem ready_exec (hst : st ≠ .semaInit) : (d.exec st).ready = d.ready := by
  cases st with
  | semaInit => exact absurd rfl hst
  | entry e =>
    cases e with
    | acquire r => cases r <;> rfl
    | release r => cases r <;> rfl

/-! ## Runs -/

namespace Publishing

/-- What every state satisfies. -/
structure Inv (s : Publishing) : Prop where
  orderly : s.closing = false → Orderly s.dev s.left
  ready : 0 < s.opened → .semaInit ∉ s.left → s.dev.ready = true
  closing : s.closing = true → s.opened = 0 ∧ .semaInit ∉ s.left

variable {ret : ℤ} {exit : List (Entry Resource)} {s t : Publishing} {a : Visit}

/-- What a step does. -/
theorem step_cases (hst : s.step ret exit a = some t) :
    (a = .stmt ∧ ∃ st left, s.left = st :: left ∧
      t = { s with left := left, dev := s.dev.exec st }) ∨
    (a = .openNode ∧ s.Openable ∧ t = { s with opened := s.opened + 1 }) ∨
    (a = .use ∧ 0 < s.opened ∧
      t = { s with uses := s.uses ++ [⟨s.dev.allocated, s.dev.ready⟩] }) ∨
    (a = .close ∧ 0 < s.opened ∧ t = { s with opened := s.opened - 1 }) ∨
    (a = .unload ∧ s.opened = 0 ∧ t = { s with closing := true, left := exit.map .entry }) := by
  cases a with
  | stmt =>
    simp only [Publishing.step] at hst
    split at hst
    · cases hst
    · next st left hleft => exact .inl ⟨rfl, st, left, hleft, (Option.some.inj hst).symm⟩
  | openNode =>
    obtain ⟨hopen, he⟩ := Option.ite_none_right_eq_some.1 hst
    exact .inr (.inl ⟨rfl, hopen, (Option.some.inj he).symm⟩)
  | use =>
    obtain ⟨ho, he⟩ := Option.ite_none_right_eq_some.1 hst
    exact .inr (.inr (.inl ⟨rfl, ho, (Option.some.inj he).symm⟩))
  | close =>
    obtain ⟨ho, he⟩ := Option.ite_none_right_eq_some.1 hst
    exact .inr (.inr (.inr (.inl ⟨rfl, ho, (Option.some.inj he).symm⟩)))
  | unload =>
    obtain ⟨hc, he⟩ := Option.ite_none_right_eq_some.1 hst
    exact .inr (.inr (.inr (.inr ⟨rfl, hc.2.2.1, (Option.some.inj he).symm⟩)))

/-- The step lemma. -/
theorem Inv.step (h : s.Inv) (hst : s.step ret exit a = some t) : t.Inv := by
  obtain ⟨-, st, left, hleft, rfl⟩ | ⟨-, hopen, rfl⟩ | ⟨-, ho, rfl⟩ | ⟨-, ho, rfl⟩ |
    ⟨-, ho, rfl⟩ := step_cases hst
  · -- a statement: the semaphore stays initialised, or is initialised now
    refine ⟨fun hc => (hleft ▸ h.orderly hc).exec, fun ho hsem => ?_, fun hc => ?_⟩
    · by_cases hst : st = .semaInit
      · subst hst
        rfl
      · refine (ready_exec hst).trans (h.ready ho ?_)
        rw [hleft]
        exact List.not_mem_cons_of_ne_of_not_mem (Ne.symm hst) hsem
    · obtain ⟨ho, hsem⟩ := h.closing hc
      rw [hleft] at hsem
      exact ⟨ho, fun hm => hsem (List.mem_cons_of_mem _ hm)⟩
  · -- the file is opened: the node that leads to it is there
    refine ⟨h.orderly, fun _ hsem => ?_, fun hc => ?_⟩
    · exact ((h.orderly hopen.2).sound hsem hopen.1).2
    · exact absurd (hopen.2.symm.trans hc) (by decide)
  · exact ⟨h.orderly, h.ready, h.closing⟩
  · refine ⟨h.orderly, fun _ => h.ready ho, fun hc => ?_⟩
    exact absurd (h.closing hc).1 (Nat.ne_of_gt ho)
  · refine ⟨fun hcl => Bool.noConfusion hcl, fun ho' => ?_, fun _ => ⟨ho, by simp⟩⟩
    exact absurd ho (Nat.ne_of_gt ho')

/-- Somebody used the file when the structure was not allocated, or its semaphore not
    initialised. -/
def Misused (s : Publishing) : Prop := ∃ u ∈ s.uses, ¬u.Ok

/-- The semaphore is still to be initialised; or the structure was freed, or is to be freed
    by the load, while somebody has the file open, or can open it. -/
def Exposed (s : Publishing) : Prop :=
  .semaInit ∈ s.left ∨ (0 < s.opened ∧ s.dev.allocated = false) ∨
    ((0 < s.opened ∨ s.Openable) ∧ .entry (.release .dev) ∈ s.left)

/-- A state that is not exposed stays so, and the file is not misused. -/
theorem Inv.safe_step (h : s.Inv) (he : ¬s.Exposed) (hm : ¬s.Misused)
    (hst : s.step ret exit a = some t) : ¬t.Exposed ∧ ¬t.Misused := by
  simp only [Exposed, not_or, not_and] at he
  obtain ⟨hsem, halloc, hrel⟩ := he
  obtain ⟨-, st, left, hleft, rfl⟩ | ⟨-, hopen, rfl⟩ | ⟨-, ho, rfl⟩ | ⟨-, ho, rfl⟩ |
    ⟨-, ho, rfl⟩ := step_cases hst
  · rw [hleft] at hsem hrel
    refine ⟨?_, hm⟩
    rintro (hs | ⟨ho, ha⟩ | ⟨ho, hr⟩)
    · exact hsem (List.mem_cons_of_mem _ hs)
    · -- the statement would have freed the structure
      have hst : st ≠ .entry (.release .dev) := by
        rintro rfl
        exact hrel (.inl ho) List.mem_cons_self
      have hd : s.dev.allocated = true := by simpa using halloc ho
      exact absurd ((allocated_exec hst hd).symm.trans ha) (by decide)
    · refine hrel ?_ (List.mem_cons_of_mem _ hr)
      refine ho.imp_right fun hopen => ?_
      rcases node_of_exec hopen.1 with hn | ⟨dev, rfl⟩
      · exact ⟨hn, hopen.2⟩
      · -- the node was created just now, so that the semaphore is not initialised
        have horder := hleft ▸ h.orderly hopen.2
        exact absurd (List.mem_cons_of_mem _ horder.semaInit_mem) hsem
  · refine ⟨?_, hm⟩
    rintro (hs | ⟨-, ha⟩ | ⟨-, hr⟩)
    · exact hsem hs
    · have hd := ((h.orderly hopen.2).sound hsem hopen.1).1
      exact absurd (hd.symm.trans ha) (by decide)
    · exact hrel (.inr hopen) hr
  · refine ⟨?_, ?_⟩
    · rintro (hs | ⟨-, ha⟩ | ⟨ho', hr⟩)
      · exact hsem hs
      · exact halloc ho ha
      · exact hrel ho' hr
    · rintro ⟨u, hu, hok⟩
      rcases List.mem_append.1 hu with hu | hu
      · exact hm ⟨u, hu, hok⟩
      · obtain rfl := List.mem_singleton.1 hu
        exact hok ⟨by simpa using halloc ho, h.ready ho hsem⟩
  · refine ⟨?_, hm⟩
    rintro (hs | ⟨-, ha⟩ | ⟨-, hr⟩)
    · exact hsem hs
    · exact halloc ho ha
    · exact hrel (.inl ho) hr
  · refine ⟨?_, hm⟩
    rintro (hs | ⟨ho', -⟩ | ⟨ho' | ho', -⟩)
    · simp at hs
    · exact absurd ho (Nat.ne_of_gt ho')
    · exact absurd ho (Nat.ne_of_gt ho')
    · exact Bool.noConfusion ho'.2

/-- The file can come to be misused. -/
def CanMisuse (d : Driver) (k : Calls) (s : Publishing) : Prop :=
  ∃ as t, (publishing d k).exec s as = some t ∧ t.Misused

variable {d : Driver} {k : Calls} {as : List Visit}

theorem CanMisuse.of_step (hst : (publishing d k).step s a = some t) (ht : t.CanMisuse d k) :
    s.CanMisuse d k := by
  obtain ⟨as, u, hu, hm⟩ := ht
  exact ⟨a :: as, u, by rw [Machine.exec_cons, hst, Option.bind_some, hu], hm⟩

/-- Somebody who has the file open uses it. -/
theorem canMisuse_of_opened (ho : 0 < s.opened) (hd : ¬Use.Ok ⟨s.dev.allocated, s.dev.ready⟩) :
    s.CanMisuse d k := by
  refine ⟨[.use], { s with uses := s.uses ++ [⟨s.dev.allocated, s.dev.ready⟩] }, ?_, _,
    List.mem_append_right _ (List.mem_singleton_self _), hd⟩
  rw [Machine.exec_singleton]
  exact if_pos ho

theorem step_stmt {st : LoadStmt} {left : List LoadStmt} (hleft : s.left = st :: left) :
    (publishing d k).step s .stmt = some { s with left := left, dev := s.dev.exec st } := by
  simp [publishing, Publishing.step, hleft]

theorem step_openNode (h : s.Openable) :
    (publishing d k).step s .openNode = some { s with opened := s.opened + 1 } :=
  if_pos h

/-- The load goes on until the node exists and the semaphore is not initialised yet, when
    somebody opens and uses the file. -/
theorem canMisuse_of_semaInit (h : s.Inv) (hl : .semaInit ∈ s.left) : s.CanMisuse d k := by
  generalize he : s.left = left at hl
  induction left generalizing s with
  | nil => cases hl
  | cons st left ih =>
    rcases List.mem_cons.1 hl with rfl | hl
    · have hc : s.closing = false := by
        by_contra hc
        exact (h.closing (by simpa using hc)).2 (he ▸ List.mem_cons_self)
      have hdev : s.dev = ⟨true, false, true⟩ := (he ▸ h.orderly hc).1
      refine .of_step (step_openNode ⟨by rw [hdev], hc⟩) (canMisuse_of_opened (Nat.succ_pos _) ?_)
      simp [hdev, Use.Ok]
    · have hst : s.step (d.i2cInit k .zero).ret (d.i2cExit (d.i2cInit k .zero).globals) .stmt =
          some { s with left := left, dev := s.dev.exec st } := step_stmt (d := d) (k := k) he
      exact .of_step (step_stmt he) (ih (h.step hst) rfl hl)

/-- The load goes on until it has freed the structure, when somebody who has the file open
    uses it. -/
theorem canMisuse_of_release (ho : 0 < s.opened) (hl : .entry (.release .dev) ∈ s.left) :
    s.CanMisuse d k := by
  generalize he : s.left = left at hl
  induction left generalizing s with
  | nil => cases hl
  | cons st left ih =>
    refine .of_step (step_stmt he) ?_
    rcases List.mem_cons.1 hl with rfl | hl
    · exact canMisuse_of_opened ho (by simp [DevState.exec, Use.Ok])
    · exact ih ho rfl hl

theorem Inv.canMisuse (h : s.Inv) (he : s.Exposed) : s.CanMisuse d k := by
  rcases he with hs | ⟨ho, ha⟩ | ⟨ho | ho, hr⟩
  · exact canMisuse_of_semaInit h hs
  · exact canMisuse_of_opened ho (by simp [ha, Use.Ok])
  · exact canMisuse_of_release ho hr
  · exact .of_step (step_openNode ho) (canMisuse_of_release (Nat.succ_pos _) hr)

end Publishing

open Publishing

variable {d : Driver} {k : Calls} {s : Publishing} {as : List Visit}

theorem publishing_inv (hrun : (publishing d k).Run as s) : s.Inv := by
  have h₀ : (publishing d k).init.Inv :=
    ⟨fun _ => orderly_loadStmts d k, fun ho => absurd ho (Nat.lt_irrefl 0), fun hc => by cases hc⟩
  exact Machine.Run.invariant (C := fun _ _ => True) h₀ (fun h _ hst => h.step hst) hrun
    Machine.meets_true

/-- A misuse of the file can follow, or has happened, in exactly the states that are
    exposed. -/
theorem canMisuse_iff (hrun : (publishing d k).Run as s) :
    s.CanMisuse d k ↔ s.Misused ∨ s.Exposed := by
  have h := publishing_inv hrun
  constructor
  · rintro ⟨bs, t, hex, ht⟩
    by_contra hno
    obtain ⟨hm, he⟩ := not_or.1 hno
    have hsafe : t.Inv ∧ ¬t.Exposed ∧ ¬t.Misused :=
      Machine.exec_invariant (I := fun s => s.Inv ∧ ¬s.Exposed ∧ ¬s.Misused)
        (D := fun _ => True) (fun hs _ hst => ⟨hs.1.step hst, hs.1.safe_step hs.2.1 hs.2.2 hst⟩)
        ⟨h, he, hm⟩ (fun _ _ => trivial) hex
    exact hsafe.2.2 ht
  · rintro (hm | he)
    · exact ⟨[], s, rfl, hm⟩
    · exact h.canMisuse he

/-- A load whose last call, the registration of the I2C driver, fails. -/
def addDriverFails : Calls := { allSucceed with i2cAddDriver := ⟨-16, by decide⟩ }

/-- Somebody opens the file while the I2C driver is being registered, which fails. -/
theorem canMisuse_iff_addDriverFails :
    ∃ s, (publishing .npca110 addDriverFails).Run (List.replicate 6 .stmt ++ [.openNode]) s ∧
      s.CanMisuse .npca110 addDriverFails := by
  obtain ⟨s, hs, hp⟩ := Machine.exists_run_of_map (publishing .npca110 addDriverFails)
    (List.replicate 6 .stmt ++ [.openNode])
    (fun s => 0 < s.opened ∧ .entry (.release .dev) ∈ s.left) (by decide +kernel)
  obtain ⟨ho, hl⟩ := of_decide_eq_true hp
  exact ⟨s, hs, (canMisuse_iff hs).2 (.inr (.inr (.inr ⟨.inl ho, hl⟩)))⟩

/-- The file is only open after the init function, and every use of it was sound. -/
structure Publishing.OpenedLater (s : Publishing) : Prop where
  inv : s.Inv
  opened : 0 < s.opened → s.left = [] ∧ s.dev.allocated = true
  ok : ∀ u ∈ s.uses, u.Ok

/-- The step lemma. -/
theorem Publishing.OpenedLater.step {a : Visit} {t : Publishing} (hs : s.OpenedLater)
    (hc : a = .openNode → s.left = []) (hst : (publishing d k).step s a = some t) :
    t.OpenedLater := by
  have hinv := hs.inv.step hst
  obtain ⟨-, st, left, hleft, rfl⟩ | ⟨rfl, hopen, rfl⟩ | ⟨-, ho, rfl⟩ | ⟨-, ho, rfl⟩ |
    ⟨-, ho, rfl⟩ := step_cases hst
  · refine ⟨hinv, fun ho => ?_, hs.ok⟩
    rw [(hs.opened ho).1] at hleft
    cases hleft
  · refine ⟨hinv, fun _ => ⟨hc rfl, ?_⟩, hs.ok⟩
    exact ((hs.inv.orderly hopen.2).sound (by simp [hc rfl]) hopen.1).1
  · obtain ⟨hleft, halloc⟩ := hs.opened ho
    refine ⟨hinv, hs.opened,
      List.forall_mem_append.2 ⟨hs.ok, List.forall_mem_singleton.2 ⟨halloc, ?_⟩⟩⟩
    exact hs.inv.ready ho (by simp [hleft])
  · exact ⟨hinv, fun _ => hs.opened ho, hs.ok⟩
  · exact ⟨hinv, fun ho' => absurd ho (Nat.ne_of_gt ho'), hs.ok⟩

/-- In a run in which nobody opens the file before the init function has returned, every
    use finds the structure allocated, and its semaphore initialised. -/
theorem ok_of_openedLater (hrun : (publishing d k).Run as s)
    (hm : (publishing d k).Meets (fun s a => a = .openNode → s.left = []) as) :
    ∀ u ∈ s.uses, u.Ok := by
  have h : s.OpenedLater := Machine.Run.invariant (I := Publishing.OpenedLater)
    ⟨publishing_inv .init, fun ho => absurd ho (Nat.lt_irrefl 0), nofun⟩
    (fun hs hc hst => hs.step hc hst) hrun hm
  exact h.ok

/-- A load that succeeds, after which the file is opened and used. -/
theorem ok_of_openedLater_allSucceed :
    ∃ s, (publishing .npca110 allSucceed).Run
        (List.replicate 7 .stmt ++ [.openNode, .use, .close, .unload]) s ∧
      ∀ u ∈ s.uses, u.Ok := by
  obtain ⟨s, hs⟩ := Machine.exists_run (publishing .npca110 allSucceed)
    (List.replicate 7 .stmt ++ [.openNode, .use, .close, .unload]) (by decide +kernel)
  exact ⟨s, hs, ok_of_openedLater hs (Machine.meets_of_along (by decide +kernel))⟩

end Sounder.Module

import Sounder.Lib.WorkQueue
import Sounder.Module.Load
import Sounder.Npca110.Driver
import Sounder.Ntp8230.Driver

/-!
# Unloading

The exit function of a module, one statement at a time, with the callbacks of the I2C
driver and the thread of the work queue in between. A callback runs under the lock of
the device, and there is one at a time; `i2c_del_driver` takes it too, and calls the
remove callback for each client that is bound. A call that cancels a work item waits for it, if
it is running; the calls that flush and destroy the work queue wait until nothing is
left to run.

The exit function frees the device structure, and only then has the remove callback
cancel the work items, so that these may read the structure after it was freed
(`not_onAllocated`). They do not, if nothing is pending, running or in progress that
needs the structure when it is freed (`Unloading.Quiet`), and no callback that needs it
starts afterwards (`onAllocated_of_run`). After any other step such a read can follow
(`exists_run_not_onAllocated`).
-/

namespace Sounder.Module

/-! ## Statements -/

/-- The fields of a device structure. -/
inductive Field
  | client
  | earInject
  deriving DecidableEq

/-- What becomes of a probe. -/
inductive ProbeOutcome
  /-- `i2c_check_functionality` fails. -/
  | functionality
  /-- The chip check fails. -/
  | check
  /-- `create_singlethread_workqueue` fails. -/
  | workqueue
  | success
  deriving DecidableEq

/-- The callbacks of an I2C driver. -/
inductive Callback
  | probe (outcome : ProbeOutcome)
  | suspend
  | resume
  | remove
  deriving DecidableEq

/-- The statements of the callbacks that concern the device structure, or the work
    queue with the work items `ι`. -/
inductive Stmt (ι : Type)
  | read (field : Field)
  | write (field : Field)
  | call (c : WorkQueue.Call ι)
  /-- `destroy_workqueue`. -/
  | destroy
  deriving DecidableEq

/-- The callbacks and the work items of a driver. What an item reads may depend on the
    flag of the npca110 driver. -/
structure Code (ι : Type) where
  callback : Callback → List (Stmt ι)
  item : ι → Bool → List Field

/-- The code of the npca110 driver. -/
def npca110Code : Code Npca110.Work where
  callback
    | .probe .functionality => []
    | .probe .check => [.write .earInject]
    | .probe .workqueue => [.write .earInject, .write .client]
    | .probe .success => [.write .earInject, .write .client, .call (.queue .init)]
    | .suspend => [.read .earInject, .call (.cancel .sure), .call .flush]
    | .resume => [.call (.queue .sure)]
    | .remove => [.call (.cancel .init), .call (.cancel .sure), .destroy]
  item
    | .init, _ => [.client]
    | .sure, _ => [.earInject, .client]

/-- The code of the ntp8230 driver: each send reads the client. The flag is read in the
    structure of the npca110 driver, which is not unloaded while this one uses it. -/
def ntp8230Code : Code Ntp8230.Work where
  callback
    | .probe .functionality | .probe .check => []
    | .probe .workqueue => [.write .client]
    | .probe .success => [.write .client, .call (.queue .init)]
    | .suspend => (Ntp8230.Pm.calls .suspend).map .call
    | .resume => (Ntp8230.Pm.calls .resume).map .call
    | .remove =>
      [.call (.cancel .init), .call (.cancel .suspend), .call (.cancel .resume), .destroy]
  item w earInject := (Ntp8230.sends w earInject).map fun _ => .client

/-- The statement reads the structure, or queues an item that will. -/
def Stmt.uses {ι : Type} : Stmt ι → Bool
  | .read _ | .call (.queue _) => true
  | _ => false

/-! ## The machine -/

/-- A read of the device structure by a work item, or else by a callback. -/
structure Read (ι : Type) where
  item : Option ι
  field : Field
  /-- The structure was allocated. -/
  allocated : Bool
  deriving DecidableEq

/-- The states of a module after a load. -/
structure Unloading (ι : Type) where
  /-- The device structure is allocated. -/
  allocated : Bool
  /-- The I2C driver is registered. -/
  registered : Bool
  /-- How many clients are bound. -/
  bound : ℕ
  /-- What is left of the exit function. -/
  exit : List (Entry Resource)
  /-- The callback in progress, and what is left of it. -/
  core : Option (Callback × List (Stmt ι))
  /-- The work items pending. -/
  queue : WorkQueue ι
  /-- The item that is running, and what is left of it. -/
  worker : Option (ι × List Field)
  /-- The reads of the device structure. -/
  reads : List (Read ι)

/-- Who takes a step. -/
inductive Turn
  /-- The exit function executes its next statement. -/
  | exit
  /-- A callback is called. -/
  | call (c : Callback)
  /-- The callback in progress executes its next statement, or returns. -/
  | core
  /-- The work queue thread starts the next item, with the flag `earInject`. -/
  | start (earInject : Bool)
  /-- The item that is running executes its next statement, or returns. -/
  | work
  deriving DecidableEq

variable {ι : Type} [DecidableEq ι]

namespace Unloading

/-- A callback may be called: the remove callback only by `i2c_del_driver`. -/
def callable (s : Unloading ι) : Callback → Bool
  | .probe _ => s.registered
  | .suspend | .resume => 0 < s.bound
  | .remove => false

/-- A call on the work queue waits for its thread. -/
def waits (s : Unloading ι) : WorkQueue.Call ι → Bool
  | .queue _ => false
  | .cancel w => s.worker.map Prod.fst = some w
  | .flush => s.worker.isSome

/-- The state after a call on the work queue. -/
def call (s : Unloading ι) (c : WorkQueue.Call ι) : Option (Unloading ι) :=
  if s.waits c then none
  else (WorkQueue.call c s.queue).map fun queue => { s with queue := queue }

/-- The state after a statement of a callback; it has no result where the statement
    waits. -/
def exec (s : Unloading ι) : Stmt ι → Option (Unloading ι)
  | .read field => some { s with reads := s.reads ++ [⟨none, field, s.allocated⟩] }
  | .write _ => some s
  | .call c => s.call c
  | .destroy => s.call .flush

/-- One step. -/
def step (code : Code ι) (s : Unloading ι) : Turn → Option (Unloading ι)
  | .exit =>
    match s.exit with
    | [] => none
    | .release .dev :: exit => some { s with exit := exit, allocated := false }
    | .release .driver :: exit =>
      if s.core = none then
        match s.bound with
        | 0 => some { s with exit := exit, registered := false }
        | n + 1 => some { s with
            registered := false
            bound := n
            core := some (.remove, code.callback .remove) }
      else none
    | _ :: exit => some { s with exit := exit }
  | .call c =>
    if s.core = none ∧ s.callable c then some { s with core := some (c, code.callback c) }
    else none
  | .core =>
    match s.core with
    | none => none
    | some (c, []) => some { s with
        core := none, bound := s.bound + if c = .probe .success then 1 else 0 }
    | some (c, st :: left) => (s.exec st).map fun s => { s with core := some (c, left) }
  | .start earInject =>
    if s.worker = none then
      s.queue.pop.map fun (w, queue) =>
        { s with queue := queue, worker := some (w, code.item w earInject) }
    else none
  | .work =>
    match s.worker with
    | none => none
    | some (_, []) => some { s with worker := none }
    | some (w, field :: left) =>
      some { s with
        worker := some (w, left)
        reads := s.reads ++ [⟨some w, field, s.allocated⟩] }

/-- What is left of the callback in progress. -/
def coreLeft (s : Unloading ι) : List (Stmt ι) := (s.core.map Prod.snd).getD []

/-- What is left of the item that is running. -/
def workerLeft (s : Unloading ι) : List Field := (s.worker.map Prod.snd).getD []

/-- Nothing is pending, running or in progress that needs the device structure. -/
def Quiet (s : Unloading ι) : Prop :=
  s.queue.pending = [] ∧ s.workerLeft = [] ∧ ∀ st ∈ s.coreLeft, st.uses = false

instance (s : Unloading ι) : Decidable s.Quiet := inferInstanceAs (Decidable (_ ∧ _ ∧ _))

/-- The structure is freed when nothing needs it, and then no callback that does is
    called. -/
def Careful (code : Code ι) (s : Unloading ι) : Turn → Prop
  | .exit => s.exit.head? = some (.release .dev) → s.Quiet
  | .call c => s.allocated = true ∨ ∀ st ∈ code.callback c, st.uses = false
  | _ => True

instance (code : Code ι) (s : Unloading ι) : DecidablePred (s.Careful code)
  | .exit => inferInstanceAs (Decidable (_ → _))
  | .call _ => inferInstanceAs (Decidable (_ ∨ _))
  | .core | .start _ | .work => .isTrue trivial

/-- Every read was one of an allocated structure. -/
def OnAllocated (s : Unloading ι) : Prop := ∀ r ∈ s.reads, r.allocated = true

end Unloading

/-- The module after a load, with the exit function `exit`. -/
def unloading (code : Code ι) (exit : List (Entry Resource)) : Machine (Unloading ι) Turn where
  init := ⟨true, true, 0, exit, none, .empty, none, []⟩
  step := Unloading.step code

/-! ## Careful runs -/

namespace Unloading

variable {code : Code ι} {s t : Unloading ι}

/-- The structure is allocated or nothing needs it, and it was allocated whenever it was
    read. -/
structure Sound (s : Unloading ι) : Prop where
  allocated_or_quiet : s.allocated = true ∨ s.Quiet
  onAllocated : s.OnAllocated

theorem call_eq_some_iff {c : WorkQueue.Call ι} :
    s.call c = some t ↔ s.waits c = false ∧
      ∃ queue, WorkQueue.call c s.queue = some queue ∧ t = { s with queue := queue } := by
  cases hw : s.waits c <;> simp [call, hw, @eq_comm _ t]

/-- A statement changes the queue, and adds reads of the structure as it is. One that
    does not use the structure reads nothing, and queues nothing. -/
theorem exec_cases {st : Stmt ι} (h : s.exec st = some t) :
    ∃ queue l, t = { s with queue := queue, reads := s.reads ++ l } ∧
      (∀ r ∈ l, r.allocated = s.allocated) ∧
      (st.uses = false → (s.queue.pending = [] → queue.pending = []) ∧ l = []) := by
  have hcall {c : WorkQueue.Call ι} (h : s.call c = some t) :
      ∃ queue, t = { s with queue := queue, reads := s.reads ++ [] } ∧
        ((∀ w, c ≠ .queue w) → s.queue.pending = [] → queue.pending = []) := by
    obtain ⟨-, queue, hq, rfl⟩ := call_eq_some_iff.1 h
    refine ⟨queue, by simp, fun hc hp => ?_⟩
    obtain rfl := Option.some_inj.1 ((WorkQueue.call_of_pending_nil hp hc).symm.trans hq)
    exact hp
  cases st with
  | read field =>
    obtain rfl := Option.some_inj.1 h
    exact ⟨s.queue, _, rfl, by simp, nofun⟩
  | write field =>
    obtain rfl := Option.some_inj.1 h
    exact ⟨s.queue, [], by simp, by simp, fun _ => ⟨id, rfl⟩⟩
  | call c =>
    obtain ⟨queue, ht, hp⟩ := hcall h
    refine ⟨queue, [], ht, by simp, fun hst => ⟨hp ?_, rfl⟩⟩
    rintro w rfl
    cases hst
  | destroy =>
    obtain ⟨queue, ht, hp⟩ := hcall h
    exact ⟨queue, [], ht, by simp, fun _ => ⟨hp (by simp), rfl⟩⟩

/-- While nothing runs and nothing is pending, a statement that does not use the
    structure does nothing. -/
theorem exec_of_idle {st : Stmt ι} (hw : s.worker = none) (hp : s.queue.pending = [])
    (hst : st.uses = false) : s.exec st = some s := by
  have hcall {c : WorkQueue.Call ι} (hc : ∀ w, c ≠ .queue w) : s.call c = some s := by
    refine call_eq_some_iff.2 ⟨?_, s.queue, WorkQueue.call_of_pending_nil hp hc, rfl⟩
    cases c <;> simp [waits, hw]
  cases st with
  | read field => cases hst
  | write field => rfl
  | call c =>
    refine hcall ?_
    rintro w rfl
    cases hst
  | destroy => exact hcall (by simp)

omit [DecidableEq ι] in
theorem OnAllocated.append {l : List (Read ι)} (hs : s.OnAllocated)
    (hl : ∀ r ∈ l, r.allocated = true) : ∀ r ∈ s.reads ++ l, r.allocated = true :=
  List.forall_mem_append.2 ⟨hs, hl⟩

/-- The exit function executes a statement. If it frees the structure, nothing needs it. -/
theorem Sound.exit (hs : s.Sound) (hremove : ∀ st ∈ code.callback .remove, st.uses = false)
    (hc : s.Careful code .exit) (h : step code s .exit = some t) : t.Sound := by
  obtain ⟨hq, hon⟩ := hs
  simp only [Unloading.step] at h
  split at h
  · cases h
  · next exit he =>
    obtain rfl := Option.some.inj h
    exact ⟨.inr (hc (by rw [he]; rfl)), hon⟩
  · split_ifs at h
    split at h
    · obtain rfl := Option.some.inj h
      exact ⟨hq, hon⟩
    · obtain rfl := Option.some.inj h
      exact ⟨hq.imp_right fun hq => ⟨hq.1, hq.2.1, by simpa [coreLeft] using hremove⟩, hon⟩
  · obtain rfl := Option.some.inj h
    exact ⟨hq, hon⟩

theorem Sound.call {c : Callback} (hs : s.Sound) (hc : s.Careful code (.call c))
    (h : step code s (.call c) = some t) : t.Sound := by
  obtain ⟨hq, hon⟩ := hs
  simp only [Unloading.step] at h
  split_ifs at h
  obtain rfl := Option.some.inj h
  refine ⟨?_, hon⟩
  rcases hc with ha | hc
  · exact .inl ha
  · exact hq.imp_right fun hq => ⟨hq.1, hq.2.1, by simpa [coreLeft] using hc⟩

/-- The callback in progress only reads the structure while it is allocated. -/
theorem Sound.core (hs : s.Sound) (h : step code s .core = some t) : t.Sound := by
  obtain ⟨hq, hon⟩ := hs
  simp only [Unloading.step] at h
  split at h
  · cases h
  · obtain rfl := Option.some.inj h
    exact ⟨hq.imp_right fun hq => ⟨hq.1, hq.2.1, by simp [coreLeft]⟩, hon⟩
  · next c st left hcore =>
    obtain ⟨u, hu, rfl⟩ := Option.map_eq_some_iff.1 h
    obtain ⟨queue, l, rfl, hl, hidle⟩ := exec_cases hu
    rcases hq with ha | hq
    · exact ⟨.inl ha, hon.append fun r hr => (hl r hr).trans ha⟩
    · have hleft : ∀ st' ∈ st :: left, st'.uses = false := by
        simpa [coreLeft, hcore] using hq.2.2
      obtain ⟨hp, rfl⟩ := hidle (hleft st List.mem_cons_self)
      refine ⟨.inr ⟨hp hq.1, hq.2.1, ?_⟩, hon.append (by simp)⟩
      simpa [coreLeft] using fun st' hst' => hleft st' (List.mem_cons_of_mem st hst')

/-- An item is only started while the structure is allocated. -/
theorem Sound.start {f : Bool} (hs : s.Sound) (h : step code s (.start f) = some t) :
    t.Sound := by
  obtain ⟨hq, hon⟩ := hs
  simp only [Unloading.step] at h
  split_ifs at h
  obtain ⟨⟨w, queue⟩, hpop, rfl⟩ := Option.map_eq_some_iff.1 h
  refine ⟨.inl (hq.resolve_right fun hq => ?_), hon⟩
  simp [WorkQueue.pop_eq_some_iff, hq.1] at hpop

theorem Sound.work (hs : s.Sound) (h : step code s .work = some t) : t.Sound := by
  obtain ⟨hq, hon⟩ := hs
  simp only [Unloading.step] at h
  split at h
  · cases h
  · obtain rfl := Option.some.inj h
    exact ⟨hq.imp_right fun hq => ⟨hq.1, rfl, hq.2.2⟩, hon⟩
  · next w field left hw =>
    obtain rfl := Option.some.inj h
    have ha : s.allocated = true := by
      refine hq.resolve_right fun hq => ?_
      have hleft := hq.2.1
      simp [workerLeft, hw] at hleft
    exact ⟨.inl ha, hon.append (by simpa using ha)⟩

/-- The step lemma: a careful step keeps it so, if the remove callback does not use the
    structure. -/
theorem Sound.step {a : Turn} (hs : s.Sound)
    (hremove : ∀ st ∈ code.callback .remove, st.uses = false) (hc : s.Careful code a)
    (h : step code s a = some t) : t.Sound := by
  cases a with
  | exit => exact hs.exit hremove hc h
  | call c => exact hs.call hc h
  | core => exact hs.core h
  | start f => exact hs.start h
  | work => exact hs.work h

theorem sound_init (exit : List (Entry Resource)) : (unloading code exit).init.Sound :=
  ⟨.inl rfl, by simp [OnAllocated, unloading]⟩

/-! ## Careless steps -/

/-- A step that is not careful leads to a freed structure that is still needed. -/
theorem not_quiet_of_not_careful {a : Turn} (hc : ¬s.Careful code a) (h : step code s a = some t) :
    t.allocated = false ∧ ¬t.Quiet := by
  cases a with
  | exit =>
    obtain ⟨he, hq⟩ := Classical.not_imp.1 hc
    obtain ⟨exit, he⟩ := List.head?_eq_some_iff.1 he
    simp only [Unloading.step, he] at h
    cases h
    exact ⟨rfl, hq⟩
  | call c =>
    obtain ⟨ha, hc⟩ := not_or.1 hc
    simp only [Unloading.step] at h
    split_ifs at h
    cases h
    exact ⟨Bool.not_eq_true _ ▸ ha, fun hq => hc (by simpa [coreLeft] using hq.2.2)⟩
  | core | start | work => exact absurd trivial hc

/-- Steps may follow after which the structure was read while it was freed. -/
def CanMisread (code : Code ι) (s : Unloading ι) : Prop :=
  ∃ (as : List Turn) (t : Unloading ι), as.foldlM (step code) s = some t ∧ ¬t.OnAllocated

theorem CanMisread.of_step {a : Turn} (h : step code s a = some t) (ht : t.CanMisread code) :
    s.CanMisread code := by
  obtain ⟨as, u, hu, hbad⟩ := ht
  exact ⟨a :: as, u, by rw [List.foldlM_cons, h]; exact hu, hbad⟩

theorem canMisread_of_reads {r : Read ι} {l : List (Read ι)} (h : s.reads = l ++ [r])
    (hr : r.allocated = false) : s.CanMisread code :=
  ⟨[], s, rfl, fun hon => by simpa [hr] using hon r (by simp [h])⟩

/-- The item that is running reads the freed structure. -/
theorem canMisread_of_worker {w : ι} {field : Field} {left : List Field} (ha : s.allocated = false)
    (hw : s.worker = some (w, field :: left)) : s.CanMisread code := by
  have h : step code s .work = some { s with
      worker := some (w, left)
      reads := s.reads ++ [⟨some w, field, s.allocated⟩] } := by
    simp only [step, hw]
  exact .of_step h (canMisread_of_reads rfl ha)

/-- While nothing runs, an item that is pending can be run up to its first read. -/
theorem canMisread_of_pending (hread : ∀ w, ∃ f, code.item w f ≠ []) (ha : s.allocated = false)
    (hw : s.worker = none) (hp : s.queue.pending ≠ []) : s.CanMisread code := by
  obtain ⟨w, ws, hws⟩ := List.exists_cons_of_ne_nil hp
  obtain ⟨f, hf⟩ := hread w
  obtain ⟨field, left, hleft⟩ := List.exists_cons_of_ne_nil hf
  have hnd := s.queue.nodup
  rw [hws] at hnd
  have hpop : s.queue.pop = some (w, ⟨ws, hnd.of_cons⟩) := WorkQueue.pop_eq_some_iff.2 hws
  have h : step code s (.start f) = some { s with
      queue := ⟨ws, hnd.of_cons⟩, worker := some (w, code.item w f) } := by
    simp only [step, hw, hpop, if_true, Option.map_some]
  exact .of_step h (canMisread_of_worker ha (by rw [hleft]))

/-- While nothing runs and nothing is pending, the callback in progress can be run up to
    its first statement that uses the structure. -/
theorem canMisread_of_core (hread : ∀ w, ∃ f, code.item w f ≠ []) {c : Callback}
    {left : List (Stmt ι)} (hleft : ∃ st ∈ left, st.uses = true) (ha : s.allocated = false)
    (hw : s.worker = none) (hp : s.queue.pending = []) (hcore : s.core = some (c, left)) :
    s.CanMisread code := by
  induction left generalizing s with
  | nil => simp at hleft
  | cons st left ih =>
    have hst : ∀ {u}, s.exec st = some u →
        step code s .core = some { u with core := some (c, left) } := by
      intro u hu
      simp only [step, hcore, hu, Option.map_some]
    by_cases huse : st.uses = true
    · cases st with
      | read field => exact .of_step (hst rfl) (canMisread_of_reads rfl ha)
      | call x =>
        cases x with
        | queue w =>
          refine .of_step (hst rfl) (canMisread_of_pending hread ha hw ?_)
          exact List.ne_nil_of_mem (WorkQueue.mem_queueWork.2 (.inr rfl))
        | _ => cases huse
      | _ => cases huse
    · obtain ⟨st', hmem, huse'⟩ := hleft
      rw [Bool.not_eq_true] at huse
      rcases List.mem_cons.1 hmem with rfl | hmem
      · rw [huse] at huse'
        cases huse'
      · exact .of_step (hst (exec_of_idle hw hp huse)) (ih ⟨st', hmem, huse'⟩ ha hw hp rfl)

/-- A freed structure that is still needed can be read. -/
theorem canMisread_of_not_quiet (hread : ∀ w, ∃ f, code.item w f ≠ []) (ha : s.allocated = false)
    (hq : ¬s.Quiet) : s.CanMisread code := by
  have hidle {s : Unloading ι} (ha : s.allocated = false) (hw : s.worker = none) (hq : ¬s.Quiet) :
      s.CanMisread code := by
    by_cases hp : s.queue.pending = []
    · obtain ⟨st, hst, huse⟩ : ∃ st ∈ s.coreLeft, st.uses = true := by
        by_contra hno
        push Not at hno
        exact hq ⟨hp, by simp [workerLeft, hw], by simpa using hno⟩
      cases hcore : s.core with
      | none => simp [coreLeft, hcore] at hst
      | some x =>
        exact canMisread_of_core hread ⟨st, by simpa [coreLeft, hcore] using hst, huse⟩ ha hw hp
          hcore
    · exact canMisread_of_pending hread ha hw hp
  match hw : s.worker with
  | none => exact hidle ha hw hq
  | some (w, field :: left) => exact canMisread_of_worker ha hw
  | some (w, []) =>
    have h : step code s .work = some { s with worker := none } := by simp only [step, hw]
    refine .of_step h (hidle ha rfl fun hq' => hq ⟨hq'.1, by simp [workerLeft, hw], hq'.2.2⟩)

end Unloading

/-! ## The drivers -/

/-- The work items of a driver. -/
def Driver.Work : Driver → Type
  | .npca110 => Npca110.Work
  | .ntp8230 => Ntp8230.Work

instance : ∀ d : Driver, DecidableEq d.Work
  | .npca110 => inferInstanceAs (DecidableEq Npca110.Work)
  | .ntp8230 => inferInstanceAs (DecidableEq Ntp8230.Work)

/-- The code of a driver. -/
def Driver.code : (d : Driver) → Code d.Work
  | .npca110 => npca110Code
  | .ntp8230 => ntp8230Code

/-- The driver after a load that has left the globals `g`. -/
def Driver.unloading (d : Driver) (g : Globals) : Machine (Unloading d.Work) Turn :=
  Module.unloading d.code (d.i2cExit g)

/-- The remove callbacks do not use the structure. -/
theorem uses_remove (d : Driver) : ∀ st ∈ d.code.callback .remove, st.uses = false := by
  cases d <;> decide

/-- Every item reads the structure, at least with some flag. -/
theorem exists_item_ne_nil (d : Driver) (w : d.Work) : ∃ f, d.code.item w f ≠ [] := by
  cases d <;> cases w <;> exact ⟨false, List.cons_ne_nil _ _⟩

variable {d : Driver} {g : Globals} {as : List Turn} {s t : Unloading d.Work}

/-- The structure is only read while it is allocated, if it is only freed while nothing
    is pending, running or in progress that needs it, and no callback that needs it is
    called afterwards. -/
theorem onAllocated_of_run (hrun : (d.unloading g).Run as s)
    (hcareful : (d.unloading g).Meets (Unloading.Careful d.code) as) : s.OnAllocated :=
  (hrun.invariant (Unloading.sound_init _)
    (fun hs hc hst => hs.step (uses_remove d) hc hst) hcareful).onAllocated

/-- After any other step, the structure can be read while it is freed. -/
theorem exists_run_not_onAllocated {a : Turn} (hrun : (d.unloading g).Run as s)
    (hst : (d.unloading g).step s a = some t) (hcareless : ¬s.Careful d.code a) :
    ∃ bs u, (d.unloading g).Run (as ++ a :: bs) u ∧ ¬u.OnAllocated := by
  obtain ⟨ha, hq⟩ := Unloading.not_quiet_of_not_careful hcareless hst
  obtain ⟨bs, u, hu, hbad⟩ := Unloading.canMisread_of_not_quiet (exists_item_ne_nil d) ha hq
  refine ⟨bs, u, ?_, hbad⟩
  rw [← List.singleton_append, ← List.append_assoc]
  exact (hrun.step hst).append hu

/-- The globals after a load in which every call succeeds. -/
def loadedGlobals (d : Driver) : Globals := (d.i2cInit allSucceed .zero).globals

/-- The init work runs, the exit function is called, and the driver is unloaded. -/
theorem onAllocated_idle :
    ∃ s, (Driver.npca110.unloading (loadedGlobals .npca110)).Run
      [.call (.probe .success), .core, .core, .core, .core, .start false, .work, .work, .exit,
        .exit, .exit, .exit, .exit, .exit, .core, .core, .core, .core, .exit] s ∧
        s.OnAllocated := by
  obtain ⟨s, hs⟩ := Machine.exists_run (Driver.npca110.unloading (loadedGlobals .npca110))
    [.call (.probe .success), .core, .core, .core, .core, .start false, .work, .work, .exit,
      .exit, .exit, .exit, .exit, .exit, .core, .core, .core, .core, .exit] (by decide +kernel)
  exact ⟨s, hs, onAllocated_of_run hs (Machine.meets_of_along (by decide +kernel))⟩

/-- The structure is freed while the init work is pending, which then reads it. -/
theorem not_onAllocated :
    ∃ s, (Driver.npca110.unloading (loadedGlobals .npca110)).Run
      [.call (.probe .success), .core, .core, .core, .core, .exit, .exit, .exit, .exit,
        .start false, .work] s ∧ ¬s.OnAllocated := by
  obtain ⟨s, hs, hp⟩ := Machine.exists_run_of_map
    (Driver.npca110.unloading (loadedGlobals .npca110))
    [.call (.probe .success), .core, .core, .core, .core, .exit, .exit, .exit, .exit,
      .start false, .work]
    (fun s => s.reads.any fun r => !r.allocated) (by decide +kernel)
  obtain ⟨r, hr, hfreed⟩ := List.any_eq_true.1 hp
  exact ⟨s, hs, fun h => by simp [h r hr] at hfreed⟩

end Sounder.Module

import Sounder.Hal.Descriptors
import Sounder.Hal.Progress
import Sounder.Lib.Linear
import Sounder.Session

/-!
# The service

The threads of the system server that serve calls of `AuxSwitch`, any number of them at a
time, with the driver. Each thread makes the statements of `SoundWaySwitch` one by one; a
request on a descriptor of the device file is a call of `npca110_ioctl`, in one step. In
between, the driver is probed, with success or not, suspended and resumed, its clients are
removed, it runs its work items, and serves other users of its file, one whole call or item
at a time. The service is called from when a probe has stored a client on.

To those who call, each call seems to happen in one moment (`linearizes_of_run`): the calls
can be put in an order that agrees with what returned before what was called, and in which
a `Session` that takes them one after the other gives the same answers, and leaves the
driver in the same state. The moment is that of the request, or, if the device file could
not be opened, that of the early return. A call that waits for `s_lock` has no place in the
order yet; from an early return on, it gets none.

Two things make it so: `s_lock`, which lets one call at a time through to its request, and
that nobody but this call changes `fd`, or closes the file, until then. The latter holds as
long as `sound_close` closes nothing.
-/

namespace Sounder

open Npca110

/-! ## The machine -/

/-- What the native layer passes on to `SoundWaySwitch`. -/
def auxWay (way : Int32) : Int32 := if 1 < way then 1 else way

namespace Hal

/-- What the next statement returns from the call in progress, with the number of the call,
    if it does; `fd` is the value of the global. -/
def Pc.result (fd : ℤ) : Pc → Option (ℕ × ℤ)
  | .tests c => if fd < 0 then some (c.id, -1) else none
  | .returns c ret => some (c.id, ret)
  | _ => none

/-- The call whose request is made next, if it is on a descriptor of the device file. -/
def Process.request (s : Process) (th : ℕ) : Option Call :=
  match s.pc th with
  | .ioctls c =>
    match s.owner s.fd with
    | some (.hal _) => some c
    | _ => none
  | _ => none

/-- A signal, a call of `sound_close`, or an action of other code. -/
def Act.isOther : Act → Bool
  | .call _ _ | .run _ _ => false
  | .soundClose _ | .interrupted _ | .otherOpen _ | .otherClose _ => true

end Hal

/-- The system server, and the driver. -/
structure Service where
  process : Hal.Process
  kernel : System
  /-- The calls of `AuxSwitch`, and what they returned. -/
  history : List (HistoryEvent ℕ Int32 ℤ)

namespace Service

/-- The actions of the service. -/
inductive Act
  /-- A thread begins to serve a call of `AuxSwitch`. -/
  | aux (th : ℕ) (way : Int32)
  /-- A thread makes its next statement; `result` is that of its system call, if it is not a
      request on the device file. -/
  | run (th : ℕ) (result : ℤ)
  /-- Something else happens in the process. -/
  | other (a : Hal.Act)
  /-- The kernel acts. -/
  | kernel (a : KernelAct)
  deriving DecidableEq

/-- The result of the system call that a thread makes, and the driver after it: a request on
    the device file is answered by the driver. -/
def systemCall (s : Service) (th : ℕ) (result : ℤ) : Option (ℤ × System) :=
  match s.process.request th with
  | some c => (ioctl false c.way.toUInt32 s.kernel.drv).map fun r =>
      (if r.1 < 0 then -1 else r.1, ⟨r.2, s.kernel.done ++ [.ioctl]⟩)
  | none => some (result, s.kernel)

/-- A thread makes its next statement. -/
def run (s : Service) (th : ℕ) (result : ℤ) : Option Service := do
  let (result, kernel) ← s.systemCall th result
  let process ← s.process.run th result
  let event := ((s.process.pc th).result s.process.fd).map fun r => .ret r.1 r.2
  some ⟨process, kernel, s.history ++ event.toList⟩

/-- One action. The service is called once a probe has stored a client. -/
def step (s : Service) : Act → Option Service
  | .aux th way =>
    if s.kernel.drv.dev.client ≠ none then
      (s.process.step (.call th (auxWay way))).map fun process =>
        { s with process := process, history := s.history ++ [.call s.process.calls way] }
    else none
  | .run th result => s.run th result
  | .other a =>
    if a.isOther then (s.process.step a).map fun process => { s with process := process }
    else none
  | .kernel a => (a.run s.kernel).map fun kernel => { s with kernel := kernel }

/-- The service after a boot that has opened the sound device, from the load of the driver
    on. -/
def machine (used : ℕ → Bool) (results : Stream' ℤ) (pins : Pin → Bool) :
    Machine Service Service.Act where
  init := ⟨(Hal.machine used).init, (Npca110.machine results pins).init, []⟩
  step := Service.step

/-- `sound_close` tests `fd` while it is `0`. -/
def FdClear (s : Service) : Act → Prop
  | .run th result => Hal.FdClear s.process (.run th result)
  | .aux _ _ | .other _ | .kernel _ => True

instance (s : Service) : DecidablePred s.FdClear
  | .run th result => inferInstanceAs (Decidable (Hal.FdClear s.process (.run th result)))
  | .aux _ _ | .other _ | .kernel _ => .isTrue trivial

end Service

/-! ## The threads -/

namespace Hal

/-- The call in progress, if it has not taken effect yet. -/
def Pc.pending : Pc → Option Call
  | .locks c | .opens c | .stores c _ | .tests c | .ioctls c => some c
  | .idle | .closes _ _ | .unlocks _ _ | .returns _ _ | .testsFd | .closesFd => none

/-- The call in progress, if it has made its request, with the result. -/
def Pc.answered : Pc → Option (Call × ℤ)
  | .closes c ret | .unlocks c ret | .returns c ret => some (c, ret)
  | .idle | .locks _ | .opens _ | .stores _ _ | .tests _ | .ioctls _ | .testsFd | .closesFd => none

variable {s t : Process} {th : ℕ} {result : ℤ}

/-- What the next statement of a thread is for those who call. -/
inductive CallStep (s : Process) (th : ℕ) (result : ℤ) : Process → Prop
  /-- Nothing. -/
  | silent {t : Process} (p : Pc) (hpc : t.pc = Function.update s.pc th p)
    (hcalls : t.calls = s.calls) (hpending : p.pending = (s.pc th).pending)
    (hanswered : p.answered = (s.pc th).answered) (hrequest : s.request th = none)
    (hresult : (s.pc th).result s.fd = none) : CallStep s th result t
  /-- A request. -/
  | request {t : Process} (c : Call) (hp : s.pc th = .ioctls c)
    (hpc : t.pc = Function.update s.pc th (.closes c result)) (hcalls : t.calls = s.calls) :
    CallStep s th result t
  /-- The early return. -/
  | fails (c : Call) (hp : s.pc th = .tests c) (hfd : s.fd < 0) :
    CallStep s th result (s.exit th (-1))
  /-- The return. -/
  | returns (c : Call) (ret : ℤ) (hp : s.pc th = .returns c ret) :
    CallStep s th result (s.exit th ret)

theorem request_eq_none (hno : ∀ c, s.pc th ≠ .ioctls c) : s.request th = none := by
  rw [Process.request]
  split
  · next c hp => exact absurd hp (hno c)
  · rfl

theorem run_callStep (hst : s.run th result = some t) : CallStep s th result t := by
  rw [Process.run] at hst
  split at hst
  · cases hst
  · next c hp =>
    split_ifs at hst
    obtain rfl := Option.some.inj hst
    exact .silent (.opens c) rfl rfl (by rw [hp]; rfl) (by rw [hp]; rfl)
      (request_eq_none (by simp [hp])) (by rw [hp]; rfl)
  · next c hp =>
    split_ifs at hst <;> obtain rfl := Option.some.inj hst <;>
      exact .silent (.stores c result) rfl rfl (by rw [hp]; rfl) (by rw [hp]; rfl)
        (request_eq_none (by simp [hp])) (by rw [hp]; rfl)
  · next c r hp =>
    obtain rfl := Option.some.inj hst
    exact .silent (.tests c) rfl rfl (by rw [hp]; rfl) (by rw [hp]; rfl)
      (request_eq_none (by simp [hp])) (by rw [hp]; rfl)
  · next c hp =>
    split_ifs at hst with hneg <;> obtain rfl := Option.some.inj hst
    · exact .fails c hp hneg
    · exact .silent (.ioctls c) rfl rfl (by rw [hp]; rfl) (by rw [hp]; rfl)
        (request_eq_none (by simp [hp])) (by rw [hp]; exact if_neg hneg)
  · next c hp =>
    obtain rfl := Option.some.inj hst
    exact .request c hp rfl rfl
  · next c ret hp =>
    obtain rfl := Option.some.inj hst
    exact .silent (.unlocks c ret) rfl rfl (by rw [hp]; rfl) (by rw [hp]; rfl)
      (request_eq_none (by simp [hp])) (by rw [hp]; rfl)
  · next c ret hp =>
    obtain rfl := Option.some.inj hst
    exact .silent (.returns c ret) rfl rfl (by rw [hp]; rfl) (by rw [hp]; rfl)
      (request_eq_none (by simp [hp])) (by rw [hp]; rfl)
  · next c ret hp =>
    obtain rfl := Option.some.inj hst
    exact .returns c ret hp
  · next hp =>
    obtain rfl := Option.some.inj hst
    refine .silent _ rfl rfl ?_ ?_ (request_eq_none (by simp [hp])) (by rw [hp]; rfl)
    · rw [hp]
      split_ifs <;> rfl
    · rw [hp]
      split_ifs <;> rfl
  · next hp =>
    obtain rfl := Option.some.inj hst
    exact .silent .idle rfl rfl (by rw [hp]; rfl) (by rw [hp]; rfl)
      (request_eq_none (by simp [hp])) (by rw [hp]; rfl)

end Hal

/-- Where the threads are, for the operations that have taken effect: a call that is pending
    is not one of them, one that was answered is, and no two threads have the same call. -/
structure Threads (pc : ℕ → Hal.Pc) (history : List (HistoryEvent ℕ Int32 ℤ))
    (ops : List (Operation ℕ Int32 ℤ)) : Prop where
  pending {th : ℕ} {c : Hal.Call} : (pc th).pending = some c →
    c.id ∉ ops.map Operation.id ∧ ∃ way, .call c.id way ∈ history ∧ c.way = auxWay way
  answered {th : ℕ} {c : Hal.Call} {ret : ℤ} : (pc th).answered = some (c, ret) →
    ∃ o ∈ ops, o.id = c.id ∧ o.result = ret
  inj {th th' : ℕ} {c c' : Hal.Call} : (pc th).pending = some c → (pc th').pending = some c' →
    c.id = c'.id → th = th'

namespace Threads

variable {pc : ℕ → Hal.Pc} {p : Hal.Pc} {th : ℕ} {history history' : List (HistoryEvent ℕ Int32 ℤ)}
  {ops : List (Operation ℕ Int32 ℤ)} {o : Operation ℕ Int32 ℤ} {c : Hal.Call}

/-- A thread moves, with the same call, and calls are made, or return. -/
theorem move (h : Threads pc history ops) (hh : history ⊆ history')
    (hpending : p.pending = none ∨ p.pending = (pc th).pending)
    (hanswered : p.answered = none ∨ p.answered = (pc th).answered) :
    Threads (Function.update pc th p) history' ops := by
  have hold {i : ℕ} {c : Hal.Call} (hi : (Function.update pc th p i).pending = some c) :
      (pc i).pending = some c := by
    by_cases hith : i = th
    · subst hith
      rw [Function.update_self] at hi
      rcases hpending with hno | hsame
      · cases hno.symm.trans hi
      · rw [← hsame, hi]
    · rwa [Function.update_of_ne hith] at hi
  refine ⟨fun hi => ?_, fun {i c ret} hi => ?_, fun hi hj hij => h.inj (hold hi) (hold hj) hij⟩
  · obtain ⟨hno, way, hcall, hway⟩ := h.pending (hold hi)
    exact ⟨hno, way, hh hcall, hway⟩
  · by_cases hith : i = th
    · subst hith
      rw [Function.update_self] at hi
      rcases hanswered with hno | hsame
      · cases hno.symm.trans hi
      · exact h.answered (hsame ▸ hi)
    · rw [Function.update_of_ne hith] at hi
      exact h.answered hi

/-- The call of a thread takes effect, and may return. -/
theorem takes (h : Threads pc history ops) (hh : history ⊆ history')
    (hpc : (pc th).pending = some c) (ho : o.id = c.id) (hpending : p.pending = none)
    (hanswered : ∀ c' ret, p.answered = some (c', ret) → o.id = c'.id ∧ o.result = ret) :
    Threads (Function.update pc th p) history' (ops ++ [o]) := by
  have hold {i : ℕ} {c' : Hal.Call} (hi : (Function.update pc th p i).pending = some c') :
      i ≠ th ∧ (pc i).pending = some c' := by
    by_cases hith : i = th
    · rw [hith, Function.update_self, hpending] at hi
      cases hi
    · rw [Function.update_of_ne hith] at hi
      exact ⟨hith, hi⟩
  refine ⟨fun {i c'} hi => ?_, fun {i c' ret} hi => ?_, fun hi hj hij =>
    h.inj (hold hi).2 (hold hj).2 hij⟩
  · obtain ⟨hith, hi⟩ := hold hi
    obtain ⟨hno, way, hcall, hway⟩ := h.pending hi
    refine ⟨?_, way, hh hcall, hway⟩
    rw [List.map_append, List.map_singleton, List.mem_append, List.mem_singleton, not_or]
    exact ⟨hno, fun he => hith (h.inj hi hpc (he.trans ho))⟩
  · by_cases hith : i = th
    · rw [hith, Function.update_self] at hi
      exact ⟨o, List.mem_append_right _ (List.mem_singleton_self o), hanswered c' ret hi⟩
    · rw [Function.update_of_ne hith] at hi
      obtain ⟨o', ho', hmatch⟩ := h.answered hi
      exact ⟨o', List.mem_append_left _ ho', hmatch⟩

/-- A thread begins a new call. -/
theorem call (h : Threads pc history ops) {way : Int32} (hc : c.way = auxWay way)
    (hnew : ∀ way', .call c.id way' ∉ history) (hops : c.id ∉ ops.map Operation.id) :
    Threads (Function.update pc th (.locks c)) (history ++ [.call c.id way]) ops := by
  -- the other threads have calls that were made before
  have hne {i : ℕ} {c' : Hal.Call} (hi : (pc i).pending = some c') : c'.id ≠ c.id := by
    obtain ⟨-, way', hcall, -⟩ := h.pending hi
    exact fun he => hnew way' (he ▸ hcall)
  have hth : (Function.update pc th (.locks c) th).pending = some c := by
    rw [Function.update_self]
    rfl
  have hold {i : ℕ} {c' : Hal.Call}
      (hi : (Function.update pc th (.locks c) i).pending = some c') :
      i = th ∧ c' = c ∨ i ≠ th ∧ (pc i).pending = some c' := by
    by_cases hith : i = th
    · subst hith
      exact .inl ⟨rfl, Option.some.inj (hi.symm.trans hth)⟩
    · rw [Function.update_of_ne hith] at hi
      exact .inr ⟨hith, hi⟩
  refine ⟨fun {i c'} hi => ?_, fun {i c' ret} hi => ?_, fun {i j c' d} hi hj hij => ?_⟩
  · obtain ⟨-, rfl⟩ | ⟨-, hi⟩ := hold hi
    · exact ⟨hops, way, List.mem_append_right _ (List.mem_singleton_self _), hc⟩
    · obtain ⟨hno, way', hcall, hway⟩ := h.pending hi
      exact ⟨hno, way', List.mem_append_left _ hcall, hway⟩
  · by_cases hith : i = th
    · rw [hith, Function.update_self] at hi
      cases hi
    · rw [Function.update_of_ne hith] at hi
      exact h.answered hi
  · rcases hold hi with ⟨hith, hc'⟩ | ⟨-, hi'⟩ <;> rcases hold hj with ⟨hjth, hd⟩ | ⟨-, hj'⟩
    · exact hith.trans hjth.symm
    · exact absurd (hc' ▸ hij.symm) (hne hj')
    · exact absurd (hd ▸ hij) (hne hi')
    · exact h.inj hi' hj' hij

end Threads

/-! ## The session -/

/-- The argument of a call that a session takes. -/
def Session.Act.call : Session.Act → Option Int32
  | .aux _ _ _ way => some way
  | .kernel _ => none

/-- What the kernel does in a session. -/
def Session.Act.driver : Session.Act → Option KernelAct
  | .aux _ _ _ _ => none
  | .kernel a => some a

/-- What the kernel does. -/
def Service.Act.driver : Service.Act → Option KernelAct
  | .kernel a => some a
  | .aux _ _ | .run _ _ | .other _ => none

section

variable {t : Session} {opened : ℤ} {way : Int32}

/-- A call that makes its request. -/
theorem step_aux_of_nonneg (hclient : t.kernel.drv.dev.client ≠ none) (hd : t.device = true)
    (hl : t.locked = false) (ho : 0 ≤ opened) {ret : ℤ} {drv : State}
    (h : ioctl false (code way) t.kernel.drv = some (ret, drv)) :
    t.step (.aux .delivered opened 0 way) = some { t with
      kernel := ⟨drv, t.kernel.done ++ [.ioctl]⟩
      results := t.results ++ [some ret] } := by
  have hreach : (t.layers .delivered opened 0).Reaches := ⟨nofun, hd, hl, ho⟩
  have hlocked : (t.layers .delivered opened 0).leavesLocked = t.locked := by
    simp [Layers.leavesLocked, Session.layers, not_lt.2 ho]
  rw [Session.step, if_pos hclient, auxSwitch_of_reaches hreach, ioctlRetry_eq_ioctl, h, hlocked]
  simp only [Option.map_some, if_pos hreach]
  rfl

/-- A call that cannot open the device file. -/
theorem step_aux_of_neg (hclient : t.kernel.drv.dev.client ≠ none) (hd : t.device = true)
    (hl : t.locked = false) (ho : opened < 0) :
    t.step (.aux .delivered opened 0 way) = some { t with
      locked := true
      results := t.results ++ [some (-1)] } := by
  have hreach : ¬(t.layers .delivered opened 0).Reaches := fun h => absurd h.2.2.2 (not_le.2 ho)
  have hlocked : (t.layers .delivered opened 0).leavesLocked = true := by
    simp [Layers.leavesLocked, Session.layers, hd, ho]
  have hfree : ¬((t.layers .delivered opened 0).binder ≠ .undelivered ∧
      (t.layers .delivered opened 0).device = true ∧
      (t.layers .delivered opened 0).locked = true) :=
    fun h => Bool.false_ne_true (hl.symm.trans h.2.2)
  rw [Session.step, if_pos hclient, auxSwitch_of_not_reaches hreach, if_neg hfree, hlocked]
  simp only [if_neg hreach, List.append_nil]

end

/-! ## The moments of the calls -/

/-- The service, for the operations that have taken effect, and a session that has taken
    them one after the other. -/
structure Service.Matches (s : Service) (ops : List (Operation ℕ Int32 ℤ)) (t : Session) :
    Prop where
  linear : Linearizes s.history ops
  threads : Threads s.process.pc s.history ops
  fresh : ∀ id way, .call id way ∈ s.history → id < s.process.calls
  probed : s.history ≠ [] → s.kernel.drv.dev.client ≠ none
  results : t.results = ops.map fun o => some o.result
  kernel : t.kernel = s.kernel
  device : t.device = true
  locked : t.locked = true ↔ Hal.Leaked s.process

namespace Service.Matches

variable {s s' : Service} {ops : List (Operation ℕ Int32 ℤ)} {t : Session} {th : ℕ}
  {c : Hal.Call}

/-- The number of the next call is not in use. -/
theorem calls_notMem (h : s.Matches ops t) : s.process.calls ∉ ops.map Operation.id := by
  intro hmem
  obtain ⟨o, ho, hid⟩ := List.mem_map.1 hmem
  have hcall := h.linear.called o ho
  rw [hid] at hcall
  exact Nat.lt_irrefl _ (h.fresh _ _ hcall)

/-- A pending call was made once a probe had stored a client. -/
theorem client_of_pending (h : s.Matches ops t) (hc : (s.process.pc th).pending = some c) :
    s.kernel.drv.dev.client ≠ none := by
  obtain ⟨-, way, hcall, -⟩ := h.threads.pending hc
  exact h.probed (List.ne_nil_of_mem hcall)

/-- While a thread is in the locked part, the session is not stuck. -/
theorem locked_eq_false (h : s.Matches ops t) (hd : Hal.LockInv s.process)
    (hp : (s.process.pc th).Locked) : ¬Hal.Leaked s.process ∧ t.locked = false := by
  have hfree := Hal.not_leaked_of_locked (hd.guards th hp) hp
  refine ⟨hfree, ?_⟩
  rw [← Bool.not_eq_true, h.locked]
  exact hfree

/-- Nothing takes effect, and the driver does nothing. -/
theorem silent (h : s.Matches ops t) (hlinear : Linearizes s'.history ops)
    (hthreads : Threads s'.process.pc s'.history ops)
    (hfresh : ∀ id way, .call id way ∈ s'.history → id < s'.process.calls)
    (hprobed : s'.history ≠ [] → s.kernel.drv.dev.client ≠ none) (hkernel : s'.kernel = s.kernel)
    (hleaked : Hal.Leaked s'.process ↔ Hal.Leaked s.process) : s'.Matches ops t where
  linear := hlinear
  threads := hthreads
  fresh := hfresh
  probed := hkernel ▸ hprobed
  results := h.results
  kernel := h.kernel.trans hkernel.symm
  device := h.device
  locked := h.locked.trans hleaked.symm

end Service.Matches

variable {used : ℕ → Bool} {results : Stream' ℤ} {pins : Pin → Bool}

variable (results pins) in
/-- What the session does for an action of the service, in which the calls `new` take
    effect. -/
structure Service.Answers (s' : Service) (a : Service.Act) (ops : List (Operation ℕ Int32 ℤ))
    (t : Session) (new : List (Operation ℕ Int32 ℤ)) (cs : List Session.Act) (t' : Session) :
    Prop where
  exec : (session results pins 0 true).exec t cs = some t'
  calls : cs.filterMap Session.Act.call = new.map Operation.arg
  driver : cs.filterMap Session.Act.driver = a.driver.toList
  next : s'.Matches (ops ++ new) t'

section

variable {s s' : Service} {ops : List (Operation ℕ Int32 ℤ)} {t : Session} {th : ℕ} {result : ℤ}
  {a : Service.Act}

/-- The session does nothing. -/
theorem Service.Matches.answers (h : s'.Matches ops t) (ha : a.driver = none) :
    s'.Answers results pins a ops t [] [] t where
  exec := rfl
  calls := rfl
  driver := by rw [ha]; rfl
  next := by rwa [List.append_nil]

/-- A call begins. -/
theorem Service.Matches.aux (h : s.Matches ops t) (hd : Hal.LockInv s.process) {way : Int32}
    (hst : s.step (.aux th way) = some s') :
    s'.Answers results pins (.aux th way) ops t [] [] t := by
  obtain ⟨hclient, hst⟩ := Option.ite_none_right_eq_some.1 hst
  obtain ⟨process, hprocess, rfl⟩ := Option.map_eq_some_iff.1 hst
  have hleaked := (Hal.leaked_of_step hd hprocess).trans (and_iff_left trivial)
  obtain ⟨-, he⟩ := Option.ite_none_right_eq_some.1 hprocess
  have hpc : process.pc =
      Function.update s.process.pc th (.locks ⟨s.process.calls, auxWay way⟩) :=
    Option.some.inj he ▸ rfl
  have hcalls : process.calls = s.process.calls + 1 := Option.some.inj he ▸ rfl
  have hnext : Service.Matches { s with
      process := process, history := s.history ++ [.call s.process.calls way] } ops t := by
    refine h.silent (h.linear.call h.calls_notMem way) ?_ (fun id way' hcall => ?_)
      (fun _ => hclient) rfl (not_iff_not.1 hleaked)
    · rw [hpc]
      exact h.threads.call rfl (fun way' hcall => Nat.lt_irrefl _ (h.fresh _ _ hcall))
        h.calls_notMem
    · rw [hcalls]
      rcases List.mem_append.1 hcall with hcall | hcall
      · exact Nat.lt_succ_of_lt (h.fresh id way' hcall)
      · cases List.mem_singleton.1 hcall
        exact Nat.lt_succ_self _
  exact hnext.answers rfl

/-- The threads stay where they are, or one begins to run `sound_close`. -/
theorem Hal.pc_of_isOther {p q : Hal.Process} {a : Hal.Act} (ha : a.isOther = true)
    (hst : p.step a = some q) :
    q.calls = p.calls ∧ Hal.Opens p a ∧
      (q.pc = p.pc ∨ ∃ th, q.pc = Function.update p.pc th .testsFd) := by
  cases a with
  | call th way => cases ha
  | run th result => cases ha
  | soundClose th =>
    obtain ⟨-, he⟩ := Option.ite_none_right_eq_some.1 hst
    exact Option.some.inj he ▸ ⟨rfl, trivial, .inr ⟨th, rfl⟩⟩
  | interrupted th =>
    simp only [Process.step, Process.interrupted] at hst
    split at hst
    · exact Option.some.inj hst ▸ ⟨rfl, trivial, .inl rfl⟩
    · exact Option.some.inj hst ▸ ⟨rfl, trivial, .inl rfl⟩
    · cases hst
  | otherOpen n =>
    obtain ⟨-, he⟩ := Option.ite_none_right_eq_some.1 hst
    exact Option.some.inj he ▸ ⟨rfl, trivial, .inl rfl⟩
  | otherClose n =>
    obtain ⟨-, he⟩ := Option.ite_none_right_eq_some.1 hst
    exact Option.some.inj he ▸ ⟨rfl, trivial, .inl rfl⟩

/-- Something else happens in the process. -/
theorem Service.Matches.other (h : s.Matches ops t) (hd : Hal.LockInv s.process) {a : Hal.Act}
    (hst : s.step (.other a) = some s') :
    s'.Answers results pins (.other a) ops t [] [] t := by
  obtain ⟨ha, hst⟩ := Option.ite_none_right_eq_some.1 hst
  obtain ⟨process, hprocess, rfl⟩ := Option.map_eq_some_iff.1 hst
  obtain ⟨hcalls, hopens, hpc⟩ := Hal.pc_of_isOther ha hprocess
  have hleaked := (Hal.leaked_of_step hd hprocess).trans (and_iff_left hopens)
  have hthreads : Threads process.pc s.history ops := by
    rcases hpc with hpc | ⟨th, hpc⟩
    · rw [hpc]
      exact h.threads
    · rw [hpc]
      exact h.threads.move (List.Subset.refl _) (.inl rfl) (.inl rfl)
  have hnext : Service.Matches { s with process := process } ops t :=
    h.silent h.linear hthreads (fun id way hcall => hcalls ▸ h.fresh id way hcall) h.probed rfl
      (not_iff_not.1 hleaked)
  exact hnext.answers rfl

/-- The kernel acts. -/
theorem Service.Matches.drives (h : s.Matches ops t) {a : KernelAct}
    (hst : s.step (.kernel a) = some s') :
    ∃ t', s'.Answers results pins (.kernel a) ops t [] [.kernel a] t' := by
  obtain ⟨kernel, hkernel, rfl⟩ := Option.map_eq_some_iff.1 hst
  refine ⟨{ t with kernel := kernel }, ?_, rfl, rfl, ?_⟩
  · rw [Machine.exec_singleton]
    change (a.run t.kernel).map _ = _
    rw [h.kernel, hkernel]
    rfl
  · rw [List.append_nil]
    refine ⟨h.linear, h.threads, h.fresh, fun hne => ?_, h.results, rfl, h.device, h.locked⟩
    exact client_of_run hkernel (h.probed hne)

/-- What a statement does, if it is not a request on the device file. -/
theorem Service.run_eq_some_iff (hrequest : s.process.request th = none) :
    s.run th result = some s' ↔ ∃ process, s.process.run th result = some process ∧
      s' = ⟨process, s.kernel, s.history ++
        (((s.process.pc th).result s.process.fd).map fun r => .ret r.1 r.2).toList⟩ := by
  simp [Service.run, Service.systemCall, hrequest, Option.bind_eq_some_iff, @eq_comm _ s']

/-- What a request on the device file does. -/
theorem Service.run_request {c : Hal.Call} (hp : s.process.pc th = .ioctls c)
    (hrequest : s.process.request th = some c) (hst : s.run th result = some s') :
    ∃ drv process, ioctl false c.way.toUInt32 s.kernel.drv = some (0, drv) ∧
      s.process.run th 0 = some process ∧
      s' = ⟨process, ⟨drv, s.kernel.done ++ [.ioctl]⟩, s.history⟩ := by
  simp only [Service.run, Service.systemCall, hrequest, Option.bind_eq_bind,
    Option.bind_eq_some_iff, Option.map_eq_some_iff] at hst
  obtain ⟨-, ⟨⟨ret, drv⟩, hioctl, rfl⟩, process, hprocess, he⟩ := hst
  obtain ⟨hf, -⟩ | ⟨-, rfl, -⟩ := ioctl_eq_some_iff.1 hioctl
  · cases hf
  refine ⟨drv, process, hioctl, hprocess, ?_⟩
  rw [← Option.some.inj he, hp]
  simp [Hal.Pc.result]

/-- A statement that the callers see nothing of. -/
theorem Service.Matches.runSilent (h : s.Matches ops t) (hd : Hal.LockInv s.process)
    (hst : s.run th result = some s') {p : Hal.Pc} {process : Hal.Process}
    (hprocess : s.process.run th result = some process)
    (hpc : process.pc = Function.update s.process.pc th p)
    (hcalls : process.calls = s.process.calls)
    (hpending : p.pending = (s.process.pc th).pending)
    (hanswered : p.answered = (s.process.pc th).answered)
    (hrequest : s.process.request th = none)
    (hresult : (s.process.pc th).result s.process.fd = none) : s'.Matches ops t := by
  obtain ⟨process', hprocess', rfl⟩ := (Service.run_eq_some_iff hrequest).1 hst
  obtain rfl : process' = process := Option.some.inj (hprocess'.symm.trans hprocess)
  have hopens : Hal.Opens s.process (.run th result) := by
    intro htest
    by_contra hneg
    cases hp : s.process.pc th with
    | tests c =>
      rw [hp, Hal.Pc.result, if_pos (not_le.1 hneg)] at hresult
      cases hresult
    | _ =>
      rw [hp] at htest
      cases htest
  have hleaked := (Hal.leaked_of_run_step hd hprocess).trans (and_iff_left hopens)
  have hhistory : s.history ++ (((s.process.pc th).result s.process.fd).map
      fun r => HistoryEvent.ret r.1 r.2).toList = s.history := by
    rw [hresult]
    exact List.append_nil _
  rw [hhistory]
  refine h.silent h.linear ?_ (fun id way hcall => ?_) h.probed rfl (not_iff_not.1 hleaked)
  · rw [hpc]
    exact h.threads.move (List.Subset.refl _) (.inr hpending) (.inr hanswered)
  · rw [hcalls]
    exact h.fresh id way hcall

/-- A request: the call takes effect. -/
theorem Service.Matches.runRequest (h : s.Matches ops t) (hd : Hal.DescInv s.process)
    {c : Hal.Call} (hp : s.process.pc th = .ioctls c) (hst : s.run th result = some s') :
    ∃ new cs t', s'.Answers results pins (.run th result) ops t new cs t' := by
  have hpending : (s.process.pc th).pending = some c := by
    rw [hp]
    rfl
  have hin : (s.process.pc th).Locked := by
    rw [hp]
    trivial
  obtain ⟨hnew, way, hcall, hway⟩ := h.threads.pending hpending
  -- the request is on the descriptor that the call has opened
  have hlock : s.process.lock = some th := hd.lockInv.guards th hin
  have howner : s.process.owner s.process.fd = some (.hal c.id) :=
    hd.own c _ (by rw [Hal.descriptor_of_lock hlock, hp]; rfl)
  have hfd : 0 ≤ s.process.fd := by
    by_contra hneg
    rw [Hal.Process.owner, if_pos (not_le.1 hneg)] at howner
    cases howner
  have hrequest : s.process.request th = some c := by
    rw [Hal.Process.request, hp]
    simp only [howner]
  obtain ⟨drv, process, hioctl, hprocess, rfl⟩ := Service.run_request hp hrequest hst
  obtain ⟨hfree, hlocked⟩ := h.locked_eq_false hd.lockInv hin
  have hopens : Hal.Opens s.process (.run th 0) := Hal.opens_of_isTest_eq_false (by rw [hp]; rfl)
  have hfree' : ¬Hal.Leaked process :=
    (Hal.leaked_of_run_step hd.lockInv hprocess).2 ⟨hfree, hopens⟩
  obtain ⟨hpc, hcalls⟩ : process.pc = Function.update s.process.pc th (.closes c 0) ∧
      process.calls = s.process.calls := by
    rw [Hal.Process.run, hp] at hprocess
    exact Option.some.inj hprocess ▸ ⟨rfl, rfl⟩
  rw [hway] at hioctl
  have hstep := step_aux_of_nonneg (h.kernel ▸ h.client_of_pending hpending) h.device hlocked hfd
    (h.kernel ▸ hioctl)
  refine ⟨[⟨c.id, way, 0⟩], [.aux .delivered s.process.fd 0 way], _,
    (Machine.exec_singleton t _).trans hstep, rfl, rfl, ?_⟩
  refine ⟨h.linear.takes hcall hnew, ?_, fun id way hcall => ?_, fun _ => ?_, ?_, ?_, h.device,
    iff_of_false (by simp [hlocked]) hfree'⟩
  · rw [hpc]
    refine h.threads.takes (List.Subset.refl _) hpending rfl rfl fun c' ret he => ?_
    obtain ⟨rfl, rfl⟩ := Prod.mk.inj (Option.some.inj he)
    exact ⟨rfl, rfl⟩
  · rw [hcalls]
    exact h.fresh id way hcall
  · change drv.dev.client ≠ none
    rw [(ioctl_frame hioctl).2.1]
    exact h.client_of_pending hpending
  · rw [h.results, List.map_append, List.map_singleton]
  · rw [h.kernel]

/-- The early return: the call takes effect, and returns at once. -/
theorem Service.Matches.runFails (h : s.Matches ops t) (hd : Hal.LockInv s.process)
    {c : Hal.Call} (hp : s.process.pc th = .tests c) (hfd : s.process.fd < 0)
    (hst : s.run th result = some s') :
    ∃ new cs t', s'.Answers results pins (.run th result) ops t new cs t' := by
  have hpending : (s.process.pc th).pending = some c := by
    rw [hp]
    rfl
  have hin : (s.process.pc th).Locked := by
    rw [hp]
    trivial
  have hrequest : s.process.request th = none := by rw [Hal.Process.request, hp]
  obtain ⟨hnew, way, hcall, -⟩ := h.threads.pending hpending
  obtain ⟨process, hprocess, rfl⟩ := (Service.run_eq_some_iff hrequest).1 hst
  obtain ⟨-, hlocked⟩ := h.locked_eq_false hd hin
  have hleaked : Hal.Leaked process := by
    by_contra hno
    have hopens := ((Hal.leaked_of_run_step hd hprocess).1 hno).2
    exact absurd (hopens (by rw [hp]; rfl)) (not_le.2 hfd)
  obtain ⟨hpc, hcalls⟩ : process.pc = Function.update s.process.pc th .idle ∧
      process.calls = s.process.calls := by
    rw [Hal.Process.run, hp] at hprocess
    simp only [if_pos hfd] at hprocess
    exact Option.some.inj hprocess ▸ ⟨rfl, rfl⟩
  have hhistory : s.history ++ (((s.process.pc th).result s.process.fd).map
      fun r => HistoryEvent.ret r.1 r.2).toList = s.history ++ [.ret c.id (-1)] := by
    rw [hp, Hal.Pc.result, if_pos hfd]
    rfl
  rw [hhistory]
  have hstep : t.step (.aux .delivered s.process.fd 0 way) = _ :=
    step_aux_of_neg (h.kernel ▸ h.client_of_pending hpending) h.device hlocked hfd
  refine ⟨[⟨c.id, way, -1⟩], [.aux .delivered s.process.fd 0 way], _,
    (Machine.exec_singleton t _).trans hstep, rfl, rfl, ?_⟩
  have hlinear : Linearizes (s.history ++ [.ret c.id (-1)]) (ops ++ [⟨c.id, way, -1⟩]) :=
    (h.linear.takes (o := ⟨c.id, way, -1⟩) hcall hnew).ret (o := ⟨c.id, way, -1⟩) (by simp)
  refine ⟨hlinear, ?_, fun id way hcall => ?_, fun _ => h.client_of_pending hpending, ?_, h.kernel,
    h.device, iff_of_true rfl hleaked⟩
  · rw [hpc]
    refine h.threads.takes (List.subset_append_left _ _) hpending rfl rfl fun _ _ he => ?_
    cases he
  · rw [hcalls]
    rcases List.mem_append.1 hcall with hcall | hcall
    · exact h.fresh id way hcall
    · cases List.mem_singleton.1 hcall
  · rw [h.results, List.map_append, List.map_singleton]

/-- The return of a call that has taken effect. -/
theorem Service.Matches.runReturns (h : s.Matches ops t) (hd : Hal.LockInv s.process)
    {c : Hal.Call} {ret : ℤ} (hp : s.process.pc th = .returns c ret)
    (hst : s.run th result = some s') : s'.Matches ops t := by
  have hrequest : s.process.request th = none := by rw [Hal.Process.request, hp]
  obtain ⟨process, hprocess, rfl⟩ := (Service.run_eq_some_iff hrequest).1 hst
  have hanswered : (s.process.pc th).answered = some (c, ret) := by
    rw [hp]
    rfl
  obtain ⟨o, ho, hid, hret⟩ := h.threads.answered hanswered
  have hopens : Hal.Opens s.process (.run th result) :=
    Hal.opens_of_isTest_eq_false (by rw [hp]; rfl)
  have hleaked := (Hal.leaked_of_run_step hd hprocess).trans (and_iff_left hopens)
  obtain ⟨hpc, hcalls⟩ : process.pc = Function.update s.process.pc th .idle ∧
      process.calls = s.process.calls := by
    rw [Hal.Process.run, hp] at hprocess
    exact Option.some.inj hprocess ▸ ⟨rfl, rfl⟩
  have hhistory : s.history ++ (((s.process.pc th).result s.process.fd).map
      fun r => HistoryEvent.ret r.1 r.2).toList = s.history ++ [.ret o.id o.result] := by
    rw [hp, hid, hret]
    rfl
  rw [hhistory]
  refine h.silent (h.linear.ret ho) ?_ (fun id way hcall => ?_) (fun _ => ?_) rfl
    (not_iff_not.1 hleaked)
  · rw [hpc]
    exact h.threads.move (List.subset_append_left _ _) (.inl rfl) (.inl rfl)
  · rw [hcalls]
    rcases List.mem_append.1 hcall with hcall | hcall
    · exact h.fresh id way hcall
    · cases List.mem_singleton.1 hcall
  · exact h.probed (List.ne_nil_of_mem (h.linear.called o ho))

/-- The step lemma. -/
theorem Service.Matches.step (h : s.Matches ops t) (hd : Hal.DescInv s.process)
    (hst : s.step a = some s') : ∃ new cs t', s'.Answers results pins a ops t new cs t' := by
  cases a with
  | aux th way => exact ⟨[], [], t, h.aux hd.lockInv hst⟩
  | other a => exact ⟨[], [], t, h.other hd.lockInv hst⟩
  | kernel a =>
    obtain ⟨t', ht'⟩ : ∃ t', s'.Answers results pins (.kernel a) ops t [] [.kernel a] t' :=
      h.drives hst
    exact ⟨[], [.kernel a], t', ht'⟩
  | run th result =>
    by_cases hp : ∃ c, s.process.pc th = .ioctls c
    · obtain ⟨c, hp⟩ := hp
      exact h.runRequest hd hp hst
    have hrequest := Hal.request_eq_none (not_exists.1 hp)
    obtain ⟨process, hprocess, -⟩ := (Service.run_eq_some_iff hrequest).1 hst
    cases Hal.run_callStep hprocess with
    | silent p hpc hcalls hpending hanswered _ hresult =>
      exact ⟨[], [], t, (h.runSilent hd.lockInv hst hprocess hpc hcalls hpending hanswered
        hrequest hresult).answers rfl⟩
    | request c hc => exact absurd ⟨c, hc⟩ hp
    | fails c hp hfd => exact h.runFails hd.lockInv hp hfd hst
    | returns c ret hp => exact ⟨[], [], t, (h.runReturns hd.lockInv hp hst).answers rfl⟩

/-- The process of the service goes as the process of the HAL does. -/
theorem Service.descInv_step (hd : Hal.DescInv s.process) (hc : s.FdClear a)
    (hst : s.step a = some s') : Hal.DescInv s'.process := by
  cases a with
  | aux th way =>
    obtain ⟨-, hst⟩ := Option.ite_none_right_eq_some.1 hst
    obtain ⟨process, hprocess, rfl⟩ := Option.map_eq_some_iff.1 hst
    exact hd.step (a := .call th (auxWay way)) trivial hprocess
  | run th result =>
    simp only [Service.step, Service.run, Option.bind_eq_bind, Option.bind_eq_some_iff] at hst
    obtain ⟨⟨result', kernel⟩, -, process, hprocess, he⟩ := hst
    rw [← Option.some.inj he]
    exact hd.run hc hprocess
  | other a =>
    obtain ⟨ha, hst⟩ := Option.ite_none_right_eq_some.1 hst
    obtain ⟨process, hprocess, rfl⟩ := Option.map_eq_some_iff.1 hst
    refine hd.step ?_ hprocess
    cases a with
    | call _ _ => cases ha
    | run _ _ => cases ha
    | _ => trivial
  | kernel a =>
    obtain ⟨kernel, -, rfl⟩ := Option.map_eq_some_iff.1 hst
    exact hd

end

/-! ## Main result -/

/-- A session that takes the operations `ops` one after the other, while the driver does
    what it does in the actions `as`: it gives the results of the operations, and ends with
    the driver as it is in `s`. -/
structure Service.Serially (results : Stream' ℤ) (pins : Pin → Bool) (as : List Service.Act)
    (s : Service) (ops : List (Operation ℕ Int32 ℤ)) (bs : List Session.Act) (t : Session) :
    Prop where
  run : (session results pins 0 true).Run bs t
  calls : bs.filterMap Session.Act.call = ops.map Operation.arg
  driver : bs.filterMap Session.Act.driver = as.filterMap Service.Act.driver
  results : t.results = ops.map fun o => some o.result
  kernel : t.kernel = s.kernel
  locked : t.locked = true ↔ Hal.Leaked s.process

/-- **One at a time.** In every run in which `sound_close` only tests `fd` while it is `0`,
    the calls can be thought to happen one after the other: there is an order of the calls
    that agrees with what returned before what was called, in which a session gives each of
    them the result that it returned, and leaves the driver as it is. -/
theorem linearizes_of_run {as : List Service.Act} {s : Service}
    (hrun : (Service.machine used results pins).Run as s)
    (hm : (Service.machine used results pins).Meets Service.FdClear as) :
    ∃ ops bs t, Linearizes s.history ops ∧ Service.Serially results pins as s ops bs t := by
  suffices h : Hal.DescInv s.process ∧ ∃ ops bs t, s.Matches ops t ∧
      (session results pins 0 true).Run bs t ∧
      bs.filterMap Session.Act.call = ops.map Operation.arg ∧
      bs.filterMap Session.Act.driver = as.filterMap Service.Act.driver by
    obtain ⟨-, ops, bs, t, hmatch, ht, hcalls, hdriver⟩ := h
    exact ⟨ops, bs, t, hmatch.linear,
      ⟨ht, hcalls, hdriver, hmatch.results, hmatch.kernel, hmatch.locked⟩⟩
  refine Machine.Run.induct (C := Service.FdClear) (I := fun as s => Hal.DescInv s.process ∧
    ∃ ops bs t, s.Matches ops t ∧ (session results pins 0 true).Run bs t ∧
      bs.filterMap Session.Act.call = ops.map Operation.arg ∧
      bs.filterMap Session.Act.driver = as.filterMap Service.Act.driver) ?_ ?_ hrun hm
  · refine ⟨Hal.descInv_of_run .init Machine.meets_nil, [], [], _, ?_, .init, rfl, rfl⟩
    exact ⟨linearizes_nil, ⟨nofun, nofun, nofun⟩, nofun, fun hne => absurd rfl hne, rfl, rfl, rfl,
      iff_of_false Bool.false_ne_true (Hal.not_leaked_of_lock rfl)⟩
  · rintro as s a s' - ⟨hd, ops, bs, t, hmatch, ht, hcalls, hdriver⟩ hc hst
    refine ⟨Service.descInv_step hd hc hst, ?_⟩
    obtain ⟨new, cs, t', ha⟩ : ∃ new cs t', s'.Answers results pins a ops t new cs t' :=
      hmatch.step hd hst
    refine ⟨ops ++ new, bs ++ cs, t', ha.next, ht.append ha.exec, ?_, ?_⟩
    · rw [List.filterMap_append, List.map_append, hcalls, ha.calls]
    · rw [List.filterMap_append, List.filterMap_append, hdriver, ha.driver]
      cases a <;> rfl

/-- Two calls, of which the second waits for the first, and returns before it. -/
def twoCalls : List Service.Act :=
  [.kernel (.act (.probe 7)), .aux 0 0, .aux 1 1, .run 0 0, .run 0 3, .run 0 0, .run 0 0, .run 0 0,
    .run 0 0, .run 0 0, .run 1 0, .run 1 3, .run 1 0, .run 1 0, .run 1 0, .run 1 0, .run 1 0,
    .run 1 0, .run 0 0]

theorem linearizes_of_run_twoCalls :
    ∃ s, (Service.machine (fun n => n < 3) (Stream'.const 1) fun _ => false).Run twoCalls s ∧
      ∃ ops bs t, Linearizes s.history ops ∧
        Service.Serially (Stream'.const 1) (fun _ => false) twoCalls s ops bs t := by
  obtain ⟨s, hs⟩ := Machine.exists_run
    (Service.machine (fun n => n < 3) (Stream'.const 1) fun _ => false) twoCalls
    (by decide +kernel)
  exact ⟨s, hs, linearizes_of_run hs (Machine.meets_of_along (by decide +kernel))⟩

end Sounder

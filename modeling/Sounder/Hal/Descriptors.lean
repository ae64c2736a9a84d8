import Sounder.Hal.Lock

/-!
# The descriptors of the sound HAL

Whether the HAL makes its requests on the descriptors it has opened, and closes these,
once each, and no others.

A call does, if it is left alone: between its `open` and its `close`, it has `s_lock`,
and `fd` is the number it has opened (`DescInv`). But `fd` keeps this number after the
`close`, and `sound_close` reads it without the lock and closes it again, or what other
code has opened under the same number since (`not_tidy`). In every run in which
`sound_close` only tests `fd` while it is `0`, the descriptors of the HAL are tidy
(`tidy_of_run`).
-/

namespace Sounder.Hal

/-! ## The property -/

/-- What an observation enters in the ledger of the descriptors: those of the calls, by
    their numbers, and `none` for a number that the HAL does not own. -/
def Obs.entries : Obs → List (Entry (Option ℕ))
  | .opened id => [.acquire (some id)]
  | .closed (some (.hal id)) => [.release (some id)]
  | .closed _ => [.release none]
  | _ => []

/-- The ledger of the descriptors of the HAL. -/
def ledger (log : List Obs) : List (Entry (Option ℕ)) := log.flatMap Obs.entries

/-- A request is made on the descriptor of the call that makes it. -/
def Obs.OnOwn : Obs → Prop
  | .ioctl id _ owner => owner = some (.hal id)
  | _ => True

/-- The call of `SoundWaySwitch` in progress. -/
def Pc.call : Pc → Option Call
  | .idle | .testsFd | .closesFd => none
  | .locks c | .opens c | .stores c _ | .tests c | .ioctls c => some c
  | .closes c _ | .unlocks c _ | .returns c _ => some c

/-- Every request was made on the descriptor of its call; the HAL closed what it had
    opened, and nothing else, once each, but for the descriptors of calls in progress. -/
structure Tidy (s : Process) : Prop where
  onOwn : ∀ e ∈ s.log, e.OnOwn
  closed : ∃ held, audit (ledger s.log) [] = some held ∧
    ∀ r ∈ held, ∃ th c, (s.pc th).call = some c ∧ r = some c.id

/-- `sound_close` tests `fd` while it is `0`. -/
def FdClear (s : Process) : Act → Prop
  | .run th _ => s.pc th = .testsFd → s.fd = 0
  | _ => True

instance (s : Process) : ∀ a, Decidable (FdClear s a)
  | .run _ _ => inferInstanceAs (Decidable (_ → _))
  | .call _ _ | .soundClose _ | .interrupted _ | .otherOpen _ | .otherClose _ => .isTrue trivial

/-! ## The invariant -/

/-- The call at `p`, with the number of the descriptor it has open, if `fd` is the value of
    the global. -/
def Pc.descriptor (fd : ℤ) : Pc → Option (Call × ℤ)
  | .stores c r => if 0 ≤ r then some (c, r) else none
  | .tests c => if 0 ≤ fd then some (c, fd) else none
  | .ioctls c | .closes c _ => some (c, fd)
  | _ => none

/-- The descriptor open in the thread that has `s_lock`. -/
def Process.descriptor (s : Process) : Option (Call × ℤ) :=
  s.lock.bind fun th => (s.pc th).descriptor s.fd

/-- The descriptors that the HAL has open. -/
def Process.held (s : Process) : List (Option ℕ) := s.descriptor.toList.map fun x => some x.1.id

/-- What every state of a run satisfies, in which `sound_close` closes nothing: the only
    descriptor that the HAL has open is that of the call with `s_lock`. -/
structure DescInv (s : Process) : Prop where
  lockInv : LockInv s
  noClose : ∀ th, s.pc th ≠ .closesFd
  own : ∀ c n, s.descriptor = some (c, n) → s.owner n = some (.hal c.id)
  onOwn : ∀ e ∈ s.log, e.OnOwn
  balance : audit (ledger s.log) [] = some s.held

variable {s t : Process} {a : Act} {th : ℕ}

theorem Pc.call_of_descriptor {p : Pc} {fd : ℤ} {x : Call × ℤ} (h : p.descriptor fd = some x) :
    p.call = some x.1 := by
  cases p with
  | stores c r =>
    simp only [Pc.descriptor] at h
    split_ifs at h
    obtain rfl := Option.some.inj h
    rfl
  | tests c =>
    simp only [Pc.descriptor] at h
    split_ifs at h
    obtain rfl := Option.some.inj h
    rfl
  | ioctls c | closes c _ =>
    obtain rfl := Option.some.inj h
    rfl
  | _ => cases h

theorem DescInv.tidy (h : DescInv s) : Tidy s := by
  refine ⟨h.onOwn, _, h.balance, fun r hr => ?_⟩
  obtain ⟨x, hx, rfl⟩ := List.mem_map.1 hr
  obtain ⟨th, -, hd⟩ := Option.bind_eq_some_iff.1 (Option.mem_toList.1 hx)
  exact ⟨th, x.1, Pc.call_of_descriptor hd, rfl⟩

/-! ## The step lemma -/

/-- The observations `es` are added to the log. -/
theorem DescInv.next (h : DescInv s) (es : List Obs) (hlog : t.log = s.log ++ es)
    (hlock : LockInv t) (hno : ∀ th, t.pc th ≠ .closesFd) (hes : ∀ e ∈ es, e.OnOwn)
    (hown : ∀ c n, t.descriptor = some (c, n) → t.owner n = some (.hal c.id))
    (hheld : audit (ledger es) s.held = some t.held) : DescInv t where
  lockInv := hlock
  noClose := hno
  own := hown
  onOwn := by
    rw [hlog]
    exact List.forall_mem_append.2 ⟨h.onOwn, hes⟩
  balance := by
    rw [hlog, ledger, List.flatMap_append, audit_append, ← ledger, h.balance]
    exact hheld

/-- Nothing is opened or closed by the HAL. -/
theorem DescInv.quiet (h : DescInv s) (es : List Obs) (hlog : t.log = s.log ++ es)
    (hlock : LockInv t) (hno : ∀ th, t.pc th ≠ .closesFd)
    (hes : ∀ e ∈ es, e.OnOwn ∧ e.entries = [])
    (hd : t.descriptor = s.descriptor)
    (hown : ∀ n id, s.owner n = some (.hal id) → t.owner n = some (.hal id)) : DescInv t := by
  refine h.next es hlog hlock hno (fun e he => (hes e he).1) (fun c n hc => ?_) ?_
  · exact hown n c.id (h.own c n (hd ▸ hc))
  · have hledger : ledger es = [] := List.flatMap_eq_nil_iff.2 fun e he => (hes e he).2
    rw [hledger, audit_nil, Process.held, Process.held, hd]

/-- A thread moves, and keeps what it has open. -/
theorem descriptor_move {p : Pc} (hlock : t.lock = s.lock) (hfd : t.fd = s.fd)
    (hpc : t.pc = Function.update s.pc th p)
    (hp : p.descriptor s.fd = (s.pc th).descriptor s.fd) : t.descriptor = s.descriptor := by
  rw [Process.descriptor, Process.descriptor, hlock, hfd, hpc]
  refine Option.bind_congr fun i _ => ?_
  by_cases hi : i = th
  · subst hi
    rw [Function.update_self, hp]
  · rw [Function.update_of_ne hi]

/-- What the thread with `s_lock` has open. -/
theorem descriptor_of_lock (hlock : s.lock = some th) :
    s.descriptor = (s.pc th).descriptor s.fd := by
  rw [Process.descriptor, hlock, Option.bind_some]

/-- What the thread with `s_lock` has open, after it has moved. -/
theorem descriptor_moved (p : Pc) (hlock : t.lock = some th)
    (hpc : t.pc = Function.update s.pc th p) : t.descriptor = p.descriptor t.fd := by
  rw [descriptor_of_lock hlock, hpc, Function.update_self]

/-- No thread goes to close `fd` in `sound_close`. -/
theorem noClose_move {p : Pc} (h : ∀ th, s.pc th ≠ .closesFd) (hp : p ≠ .closesFd)
    (hpc : t.pc = Function.update s.pc th p) : ∀ th, t.pc th ≠ .closesFd := by
  intro i
  rw [hpc]
  by_cases hi : i = th
  · subst hi
    rwa [Function.update_self]
  · rw [Function.update_of_ne hi]
    exact h i

/-- A thread moves, and keeps what it has open. -/
theorem DescInv.move (h : DescInv s) {p : Pc} {es : List Obs} (hinv : LockInv t)
    (hlock : t.lock = s.lock) (hfd : t.fd = s.fd) (htable : t.table = s.table)
    (hpc : t.pc = Function.update s.pc th p) (hlog : t.log = s.log ++ es)
    (hes : ∀ e ∈ es, e.OnOwn ∧ e.entries = []) (hne : p ≠ .closesFd)
    (hp : p.descriptor s.fd = (s.pc th).descriptor s.fd) : DescInv t := by
  refine h.quiet es hlog hinv (noClose_move h.noClose hne hpc) hes
    (descriptor_move hlock hfd hpc hp) fun n id ho => ?_
  rwa [Process.owner, htable]

/-- The thread with `s_lock` opens a descriptor, under the number `n`. -/
theorem DescInv.opens (h : DescInv s) {c : Call} {n : ℤ} (hinv : LockInv t)
    (hl : s.lock = some th) (hp : s.pc th = .opens c) (hn : 0 ≤ n) (hlock : t.lock = s.lock)
    (htable : t.table = Function.update s.table n.toNat (some (.hal c.id)))
    (hpc : t.pc = Function.update s.pc th (.stores c n)) (hlog : t.log = s.log ++ [.opened c.id]) :
    DescInv t := by
  have hs : s.descriptor = none := by
    rw [descriptor_of_lock hl, hp]
    rfl
  have ht : t.descriptor = some (c, n) :=
    (descriptor_moved _ (hlock.trans hl) hpc).trans (if_pos hn)
  refine h.next [.opened c.id] hlog hinv (noClose_move h.noClose (by simp) hpc)
    (by simp [Obs.OnOwn]) (fun c' n' hc' => ?_) ?_
  · obtain ⟨rfl, rfl⟩ := Prod.mk.inj (Option.some.inj (ht.symm.trans hc'))
    rw [Process.owner, if_neg (not_lt.2 hn), htable, Function.update_self]
  · rw [Process.held, Process.held, hs, ht]
    simp [ledger, Obs.entries, audit]

/-- The thread with `s_lock` closes the descriptor that it has opened. -/
theorem DescInv.closes (h : DescInv s) {c : Call} {ret : ℤ} (hinv : LockInv t)
    (hl : s.lock = some th) (hp : s.pc th = .closes c ret) (hlock : t.lock = s.lock)
    (hpc : t.pc = Function.update s.pc th (.unlocks c ret))
    (hlog : t.log = s.log ++ [.closed (s.owner s.fd)]) : DescInv t := by
  have hs : s.descriptor = some (c, s.fd) := by
    rw [descriptor_of_lock hl, hp]
    rfl
  have ht : t.descriptor = none := descriptor_moved _ (hlock.trans hl) hpc
  refine h.next [.closed (s.owner s.fd)] hlog hinv (noClose_move h.noClose (by simp) hpc)
    (by simp [Obs.OnOwn]) (by simp [ht]) ?_
  rw [Process.held, Process.held, hs, ht, h.own c s.fd hs]
  simp [ledger, Obs.entries, audit]

/-- A thread makes its next statement. -/
theorem DescInv.run (h : DescInv s) {result : ℤ} (hc : FdClear s (.run th result))
    (hst : s.run th result = some t) : DescInv t := by
  have hinv : LockInv t := (h.lockInv.run hst).1
  have hth (hl : (s.pc th).Locked) : s.lock = some th := h.lockInv.guards th hl
  rw [Process.run] at hst
  split at hst
  · cases hst
  · next c hp =>
    -- the thread that locks has nothing open yet, and no other thread had the lock
    split_ifs at hst with hfree
    obtain rfl := Option.some.inj hst
    refine h.quiet [] (List.append_nil _).symm hinv (noClose_move h.noClose (by simp) rfl)
      (by simp) ?_ fun _ _ ho => ho
    simp [Process.descriptor, hfree, Process.goto, Pc.descriptor]
  · next c hp =>
    have hl := hth (by rw [hp]; trivial)
    split_ifs at hst with hneg hfree
    · obtain rfl := Option.some.inj hst
      refine h.move hinv rfl rfl rfl rfl (List.append_nil _).symm (by simp) (by simp) ?_
      rw [hp]
      exact if_neg (not_le.2 hneg)
    · obtain rfl := Option.some.inj hst
      exact h.opens hinv hl hp (not_lt.1 hneg) rfl rfl rfl rfl
  · next c r hp =>
    -- the number that the call has opened is the value of `fd` from here on
    have hl := hth (by rw [hp]; trivial)
    obtain rfl := Option.some.inj hst
    refine h.quiet [] (List.append_nil _).symm hinv (noClose_move h.noClose (by simp) rfl)
      (by simp) ?_ fun _ _ ho => ho
    rw [descriptor_of_lock hl, hp]
    exact descriptor_moved (s := s) (.tests c) hl rfl
  · next c hp =>
    split_ifs at hst with hneg
    · obtain rfl := Option.some.inj hst
      refine h.move hinv rfl rfl rfl rfl rfl (by simp [Obs.OnOwn, Obs.entries]) (by simp) ?_
      rw [hp]
      exact (if_neg (not_le.2 hneg)).symm
    · obtain rfl := Option.some.inj hst
      refine h.move hinv rfl rfl rfl rfl (List.append_nil _).symm (by simp) (by simp) ?_
      rw [hp]
      exact (if_pos (not_lt.1 hneg)).symm
  · next c hp =>
    have hl := hth (by rw [hp]; trivial)
    have howner := h.own c s.fd (by rw [descriptor_of_lock hl, hp]; rfl)
    obtain rfl := Option.some.inj hst
    refine h.move hinv rfl rfl rfl rfl rfl (by simp [Obs.OnOwn, Obs.entries, howner]) (by simp) ?_
    rw [hp]
    rfl
  · next c ret hp =>
    obtain rfl := Option.some.inj hst
    exact h.closes hinv (hth (by rw [hp]; trivial)) hp rfl rfl rfl
  · next c ret hp =>
    have hl := hth (by rw [hp]; trivial)
    obtain rfl := Option.some.inj hst
    refine h.quiet [] (List.append_nil _).symm hinv (noClose_move h.noClose (by simp) rfl)
      (by simp) ?_ fun _ _ ho => ho
    rw [descriptor_of_lock hl, hp]
    rfl
  · next c ret hp =>
    obtain rfl := Option.some.inj hst
    refine h.move hinv rfl rfl rfl rfl rfl (by simp [Obs.OnOwn, Obs.entries]) (by simp) ?_
    rw [hp]
    rfl
  · next hp =>
    obtain rfl := Option.some.inj hst
    rw [if_pos (hc hp)] at hinv ⊢
    refine h.move hinv rfl rfl rfl rfl (List.append_nil _).symm (by simp) (by simp) ?_
    rw [hp]
    rfl
  · next hp => exact absurd hp (h.noClose th)

/-- Other code takes a number that is free, or frees one that it has. -/
theorem owner_update {n : ℕ} {o : Option Owner} (ho : ∀ id, s.table n ≠ some (.hal id))
    (htable : t.table = Function.update s.table n o) (m : ℤ) (id : ℕ)
    (h : s.owner m = some (.hal id)) : t.owner m = some (.hal id) := by
  rw [Process.owner] at h ⊢
  split_ifs at h ⊢
  have hne : m.toNat ≠ n := by
    rintro rfl
    exact ho id h
  rwa [htable, Function.update_of_ne hne]

/-- The step lemma. -/
theorem DescInv.step (h : DescInv s) (hc : FdClear s a) (hst : s.step a = some t) :
    DescInv t := by
  have hinv : LockInv t := (h.lockInv.step hst).1
  cases a with
  | run th result => exact h.run hc hst
  | call th way =>
    simp only [Process.step] at hst
    split_ifs at hst with hp
    obtain rfl := Option.some.inj hst
    refine h.move hinv rfl rfl rfl rfl (List.append_nil _).symm (by simp) (by simp) ?_
    rw [hp]
    rfl
  | soundClose th =>
    simp only [Process.step] at hst
    split_ifs at hst with hp
    obtain rfl := Option.some.inj hst
    refine h.move hinv rfl rfl rfl rfl (List.append_nil _).symm (by simp) (by simp) ?_
    rw [hp]
    rfl
  | interrupted th =>
    simp only [Process.step, Process.interrupted] at hst
    split at hst
    · exact Option.some.inj hst ▸ h
    · next c hp =>
      have hl : s.lock = some th := h.lockInv.guards th (by rw [hp]; trivial)
      have howner := h.own c s.fd (by rw [descriptor_of_lock hl, hp]; rfl)
      obtain rfl := Option.some.inj hst
      exact h.quiet _ rfl hinv h.noClose (by simp [Obs.OnOwn, Obs.entries, howner]) rfl
        fun _ _ ho => ho
    · cases hst
  | otherOpen n =>
    simp only [Process.step] at hst
    split_ifs at hst with hn
    obtain rfl := Option.some.inj hst
    exact h.quiet [] (List.append_nil _).symm hinv h.noClose (by simp) rfl
      (owner_update (fun id => by simp [hn]) rfl)
  | otherClose n =>
    simp only [Process.step] at hst
    split_ifs at hst with hn
    obtain rfl := Option.some.inj hst
    exact h.quiet [] (List.append_nil _).symm hinv h.noClose (by simp) rfl
      (owner_update (fun id => by simp [hn]) rfl)

/-! ## Main result -/

variable {used : ℕ → Bool} {as : List Act}

theorem descInv_of_run (hrun : (machine used).Run as s) (hm : (machine used).Meets FdClear as) :
    DescInv s := by
  refine Machine.Run.invariant (I := DescInv) ?_ (fun h hc hst => h.step hc hst) hrun hm
  exact ⟨lockInv_init, fun _ h => (by cases h), fun _ _ h => (by cases h),
    fun _ h => (by cases h), rfl⟩

/-- **The descriptors.** In every run in which `sound_close` only tests `fd` while it is
    `0`, every request is made on the descriptor of its call, and the HAL closes every
    descriptor it has opened, and no other number, exactly once. -/
theorem tidy_of_run (hrun : (machine used).Run as s) (hm : (machine used).Meets FdClear as) :
    Tidy s :=
  (descInv_of_run hrun hm).tidy

/-- A whole call, its `open` giving the number `r`. -/
def wholeCall (th : ℕ) (way : Int32) (r : ℤ) : List Act :=
  beginActs th way r ++ finishActs th 0 0

/-- A `sound_close` before the first call, and other code that takes the number of the
    call after it. -/
theorem tidy_closed :
    ∃ s, (machine fun n => n < 3).Run
        ([.soundClose 1, .run 1 0] ++ wholeCall 0 0 3 ++ [.otherOpen 3]) s ∧ Tidy s := by
  obtain ⟨s, hs⟩ := Machine.exists_run (machine fun n => n < 3)
    ([.soundClose 1, .run 1 0] ++ wholeCall 0 0 3 ++ [.otherOpen 3]) (by decide)
  exact ⟨s, hs, tidy_of_run hs (Machine.meets_of_along (by decide))⟩

/-- After a call, other code opens a descriptor with the number of the call, and
    `sound_close` closes it. -/
theorem not_tidy :
    ∃ s, (machine fun n => n < 3).Run
        (wholeCall 0 0 3 ++ [.otherOpen 3, .soundClose 0, .run 0 0, .run 0 0]) s ∧ ¬Tidy s := by
  obtain ⟨s, hs, hp⟩ := Machine.exists_run_of_map (machine fun n => n < 3)
    (wholeCall 0 0 3 ++ [.otherOpen 3, .soundClose 0, .run 0 0, .run 0 0])
    (fun s => audit (ledger s.log) [] = none) (by decide)
  refine ⟨s, hs, fun h => ?_⟩
  obtain ⟨held, hheld, -⟩ := h.closed
  exact absurd (hheld.symm.trans (of_decide_eq_true hp)) (Option.some_ne_none held)

end Sounder.Hal

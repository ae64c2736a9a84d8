import Sounder.Hal.Sound
import Sounder.Lib.Mutex

/-!
# The lock of the sound HAL

Whether `s_lock` is free whenever no call of `SoundWaySwitch` is in progress.

It is not in every run (`not_unlocked`): a call that cannot open the device file returns
before it unlocks, and no call gets past the lock after it. It is in exactly the runs in
which no call finds that its `open` has failed (`unlocked_iff`).
-/

namespace Sounder.Hal

/-- Between the lock and the unlock of `SoundWaySwitch`. -/
def Pc.Locked : Pc → Prop
  | .opens _ | .stores _ _ | .tests _ | .ioctls _ | .closes _ _ | .unlocks _ _ => True
  | _ => False

/-- In a call of `SoundWaySwitch`. -/
def Pc.InSwitch : Pc → Prop
  | .idle | .testsFd | .closesFd => False
  | _ => True

theorem Pc.Locked.inSwitch {p : Pc} (h : p.Locked) : p.InSwitch := by
  cases p <;> first | exact h.elim | trivial

/-- No call has returned without the unlock. -/
def Released (s : Process) : Prop :=
  ∀ th ret locked, .returned th ret locked ∈ s.log → locked = false

/-- `s_lock` is only held in a call of `SoundWaySwitch`, and by no thread that returns from
    one; so while no call is in progress, it is free, and the next call locks it. -/
structure Unlocked (s : Process) : Prop where
  inSwitch : ∀ th, s.lock = some th → (s.pc th).InSwitch
  released : Released s
  free : (∀ th, ¬(s.pc th).InSwitch) → s.lock = none ∧ ∀ th way, s.pc th = .idle →
    ∃ t u, s.step (.call th way) = some t ∧ t.step (.run th 0) = some u ∧ u.lock = some th

/-- What every state of a run satisfies: the threads between the lock and the unlock have
    `s_lock`, and if no call has returned without the unlock, no other thread does. -/
structure LockInv (s : Process) : Prop where
  guards : Mutex.Guards Pc.Locked s.lock s.pc
  holder : Released s → ∀ th, s.lock = some th → (s.pc th).Locked

variable {s t : Process} {a : Act} {th : ℕ}

theorem LockInv.unlocked_iff_released (h : LockInv s) : Unlocked s ↔ Released s := by
  refine ⟨Unlocked.released, fun hr => ⟨fun th hth => (h.holder hr th hth).inSwitch, hr, ?_⟩⟩
  intro hno
  have hlock : s.lock = none := by
    rw [Option.eq_none_iff_forall_ne_some]
    exact fun th hth => hno th (h.holder hr th hth).inSwitch
  refine ⟨hlock, fun th way hidle => ?_⟩
  simp [Process.step, Process.run, Process.goto, hidle, hlock]

/-- At the test of `fd`, in `SoundWaySwitch`. -/
def Pc.isTest : Pc → Bool
  | .tests _ => true
  | _ => false

/-- A call that tests `fd` finds that its `open` has not failed. -/
def Opens (s : Process) : Act → Prop
  | .run th _ => (s.pc th).isTest = true → 0 ≤ s.fd
  | _ => True

instance (s : Process) : ∀ a, Decidable (Opens s a)
  | .run _ _ => inferInstanceAs (Decidable (_ → _))
  | .call _ _ | .soundClose _ | .interrupted _ | .otherOpen _ | .otherClose _ => .isTrue trivial

/-! ## The step lemma -/

/-- The return of a call. -/
def Obs.isReturn : Obs → Bool
  | .returned _ _ _ => true
  | _ => false

/-- An observation that is not the return of a call. -/
theorem released_append (e : Obs) (he : e.isReturn = false) (hlog : t.log = s.log ++ [e]) :
    Released t ↔ Released s := by
  simp only [Released, hlog, List.mem_append, List.mem_singleton]
  refine forall_congr' fun th => forall_congr' fun ret => forall_congr' fun locked => ?_
  rw [or_iff_left]
  rintro rfl
  cases he

theorem released_congr (hlog : t.log = s.log) : Released t ↔ Released s := by
  rw [Released, Released, hlog]

/-- A thread moves, without locking or unlocking. -/
theorem LockInv.move (h : LockInv s) {p : Pc} (hp : p.Locked ↔ (s.pc th).Locked)
    (hlock : t.lock = s.lock) (hpc : t.pc = Function.update s.pc th p)
    (hrel : Released t ↔ Released s) : LockInv t := by
  refine ⟨?_, fun hr i hi => ?_⟩
  · rw [hlock, hpc]
    exact h.guards.move fun hl => h.guards th (hp.1 hl)
  · have hi := h.holder (hrel.1 hr) i (hlock ▸ hi)
    rw [hpc]
    by_cases hith : i = th
    · subst hith
      rw [Function.update_self]
      exact hp.2 hi
    · rwa [Function.update_of_ne hith]

/-- A call returns: it has unlocked exactly if it was not in the locked part before. -/
theorem LockInv.exit (h : LockInv s) (ret : ℤ) :
    LockInv (s.exit th ret) ∧
      (Released (s.exit th ret) ↔ Released s ∧ ¬(s.pc th).Locked) := by
  have hrel : Released (s.exit th ret) ↔ Released s ∧ s.lock ≠ some th := by
    simp only [Released, Process.exit, List.mem_append, List.mem_singleton, or_imp, forall_and]
    refine and_congr_right fun _ => ⟨fun h' => ?_, ?_⟩
    · simpa using h' th ret _ rfl
    · rintro hne _ _ _ ⟨⟩
      simpa using hne
  have hiff : Released (s.exit th ret) ↔ Released s ∧ ¬(s.pc th).Locked := by
    rw [hrel]
    exact and_congr_right fun hr =>
      ⟨fun hne hl => hne (h.guards th hl), fun hl hth => hl (h.holder hr th hth)⟩
  refine ⟨⟨h.guards.move fun hl => hl.elim, fun hr i hi => ?_⟩, hiff⟩
  -- nothing is locked by the thread that returns
  have hith : i ≠ th := fun he => (hrel.1 hr).2 (he ▸ hi)
  have hi' := h.holder (hrel.1 hr).1 i hi
  rwa [← Function.update_of_ne hith .idle s.pc] at hi'

/-- What the next statement of a thread can do about `s_lock`. -/
inductive LockStep (s : Process) (th : ℕ) : Process → Prop
  /-- The thread stays in the locked part, or outside of it. -/
  | moves {t : Process} (p : Pc) (hp : p.Locked ↔ (s.pc th).Locked)
    (hopen : (s.pc th).isTest = true → 0 ≤ s.fd) (hlock : t.lock = s.lock)
    (hpc : t.pc = Function.update s.pc th p) (hrel : Released t ↔ Released s) : LockStep s th t
  /-- It enters the locked part. -/
  | locks {t : Process} (c : Call) (hp : s.pc th = .locks c) (hfree : s.lock = none)
    (hlock : t.lock = some th) (hpc : t.pc = Function.update s.pc th (.opens c))
    (hlog : t.log = s.log) : LockStep s th t
  /-- It leaves the locked part, at its end. -/
  | unlocks {t : Process} (c : Call) (ret : ℤ) (hp : s.pc th = .unlocks c ret)
    (hlock : t.lock = none) (hpc : t.pc = Function.update s.pc th (.returns c ret))
    (hlog : t.log = s.log) : LockStep s th t
  /-- It returns, after the locked part or, if its `open` has failed, from it. -/
  | exits (ret : ℤ) (hp : (s.pc th).Locked ↔ (s.pc th).isTest = true)
    (hfail : (s.pc th).isTest = true → s.fd < 0) : LockStep s th (s.exit th ret)

theorem run_lockStep {result : ℤ} (hst : s.run th result = some t) : LockStep s th t := by
  rw [Process.run] at hst
  split at hst
  · cases hst
  · next c hp =>
    split_ifs at hst with hfree
    obtain rfl := Option.some.inj hst
    exact .locks c hp hfree rfl rfl rfl
  · next c hp =>
    have hl : (Pc.stores c result).Locked ↔ (s.pc th).Locked := by rw [hp]; exact Iff.rfl
    have ht : (s.pc th).isTest = true → 0 ≤ s.fd := fun ht => by rw [hp] at ht; cases ht
    split_ifs at hst
    · obtain rfl := Option.some.inj hst
      exact .moves _ hl ht rfl rfl Iff.rfl
    · obtain rfl := Option.some.inj hst
      exact .moves _ hl ht rfl rfl (released_append (.opened c.id) rfl rfl)
  · next c r hp =>
    obtain rfl := Option.some.inj hst
    exact .moves (.tests c) (by rw [hp]; exact Iff.rfl) (by simp [hp, Pc.isTest]) rfl rfl Iff.rfl
  · next c hp =>
    split_ifs at hst with hneg
    · obtain rfl := Option.some.inj hst
      exact .exits _ (by simp [hp, Pc.Locked, Pc.isTest]) fun _ => hneg
    · obtain rfl := Option.some.inj hst
      exact .moves (.ioctls c) (by rw [hp]; exact Iff.rfl) (fun _ => not_lt.1 hneg) rfl rfl Iff.rfl
  · next c hp =>
    obtain rfl := Option.some.inj hst
    exact .moves (.closes c result) (by rw [hp]; exact Iff.rfl) (by simp [hp, Pc.isTest]) rfl rfl
      (released_append (.ioctl c.id c.way.toUInt32 (s.owner s.fd)) rfl rfl)
  · next c ret hp =>
    obtain rfl := Option.some.inj hst
    exact .moves (.unlocks c ret) (by rw [hp]; exact Iff.rfl) (by simp [hp, Pc.isTest]) rfl rfl
      (released_append (.closed (s.owner s.fd)) rfl rfl)
  · next c ret hp =>
    obtain rfl := Option.some.inj hst
    exact .unlocks c ret hp rfl rfl rfl
  · next c ret hp =>
    obtain rfl := Option.some.inj hst
    exact .exits ret (by simp [hp, Pc.Locked, Pc.isTest]) (by simp [hp, Pc.isTest])
  · next hp =>
    obtain rfl := Option.some.inj hst
    refine .moves _ ?_ (by simp [hp, Pc.isTest]) rfl rfl Iff.rfl
    rw [hp]
    split_ifs <;> exact Iff.rfl
  · next hp =>
    obtain rfl := Option.some.inj hst
    exact .moves .idle (by rw [hp]; exact Iff.rfl) (by simp [hp, Pc.isTest]) rfl rfl
      (released_append (.closed (s.owner s.fd)) rfl rfl)

/-- A thread makes its next statement. -/
theorem LockInv.run (h : LockInv s) {result : ℤ} (hst : s.run th result = some t) :
    LockInv t ∧ (Released t ↔ Released s ∧ Opens s (.run th result)) := by
  cases run_lockStep hst with
  | moves p hp hopen hlock hpc hrel =>
    exact ⟨h.move hp hlock hpc hrel, hrel.trans (and_iff_left hopen).symm⟩
  | locks c hp hfree hlock hpc hlog =>
    refine ⟨⟨?_, fun _ i hi => ?_⟩, (released_congr hlog).trans (and_iff_left ?_).symm⟩
    · rw [hlock, hpc]
      exact Mutex.Guards.acquire (hfree ▸ h.guards)
    · obtain rfl : th = i := Option.some.inj (hlock.symm.trans hi)
      rw [hpc, Function.update_self]
      trivial
    · rw [Opens, hp]
      exact fun ht => by cases ht
  | unlocks c ret hp hlock hpc hlog =>
    refine ⟨⟨?_, fun _ i hi => ?_⟩, (released_congr hlog).trans (and_iff_left ?_).symm⟩
    · have hth : s.lock = some th := h.guards th (by rw [hp]; trivial)
      rw [hlock, hpc]
      exact Mutex.Guards.release (hth ▸ h.guards) id
    · cases hlock.symm.trans hi
    · rw [Opens, hp]
      exact fun ht => by cases ht
  | exits ret hp hfail =>
    obtain ⟨hinv, hrel⟩ := h.exit ret
    refine ⟨hinv, hrel.trans (and_congr_right fun _ => ?_)⟩
    rw [hp, Opens]
    exact ⟨fun hne ht => absurd ht hne, fun ho ht => absurd (hfail ht) (not_lt.2 (ho ht))⟩

/-- The step lemma. -/
theorem LockInv.step (h : LockInv s) (hst : s.step a = some t) :
    LockInv t ∧ (Released t ↔ Released s ∧ Opens s a) := by
  cases a with
  | run th result => exact h.run hst
  | call th way =>
    simp only [Process.step] at hst
    split_ifs at hst with hp
    obtain rfl := Option.some.inj hst
    exact ⟨h.move (p := .locks ⟨s.calls, way⟩) (by rw [hp]; exact Iff.rfl) rfl rfl Iff.rfl,
      (and_iff_left trivial).symm⟩
  | soundClose th =>
    simp only [Process.step] at hst
    split_ifs at hst with hp
    obtain rfl := Option.some.inj hst
    exact ⟨h.move (p := .testsFd) (by rw [hp]; exact Iff.rfl) rfl rfl Iff.rfl,
      (and_iff_left trivial).symm⟩
  | interrupted th =>
    simp only [Process.step, Process.interrupted] at hst
    split at hst
    · obtain rfl := Option.some.inj hst
      exact ⟨h, (and_iff_left trivial).symm⟩
    · next c hp =>
      obtain rfl := Option.some.inj hst
      have hrel := released_append (s := s) (t := { s with
        log := s.log ++ [.ioctl c.id c.way.toUInt32 (s.owner s.fd)] }) _ rfl rfl
      exact ⟨⟨h.guards, fun hr => h.holder (hrel.1 hr)⟩, hrel.trans (and_iff_left trivial).symm⟩
    · cases hst
  | otherOpen n =>
    simp only [Process.step] at hst
    split_ifs at hst
    obtain rfl := Option.some.inj hst
    exact ⟨⟨h.guards, h.holder⟩, (and_iff_left trivial).symm⟩
  | otherClose n =>
    simp only [Process.step] at hst
    split_ifs at hst
    obtain rfl := Option.some.inj hst
    exact ⟨⟨h.guards, h.holder⟩, (and_iff_left trivial).symm⟩

/-! ## Main result -/

variable {used : ℕ → Bool} {as : List Act}

theorem lockInv_init : LockInv (machine used).init :=
  ⟨fun _ hl => False.elim hl, fun _ _ hi => by cases hi⟩

theorem lockInv_of_run (hrun : (machine used).Run as s) : LockInv s :=
  Machine.Run.invariant (C := fun _ _ => True) (I := LockInv) lockInv_init
    (fun h _ hst => (LockInv.step h hst).1) hrun Machine.meets_true

/-- **The lock.** At the end of a run, and of every run that begins it, `s_lock` is only
    held in a call that is in progress, exactly if no call found that its `open` had
    failed. -/
theorem unlocked_iff (hrun : (machine used).Run as s) :
    Unlocked s ↔ (machine used).Meets Opens as := by
  rw [(lockInv_of_run hrun).unlocked_iff_released]
  exact hrun.iff_meets (I := LockInv) lockInv_init (fun _ _ _ hm => by cases hm)
    fun h hst => LockInv.step h hst

/-- Two threads, of which the second waits for the first. -/
theorem unlocked_two :
    ∃ s, (machine fun n => n < 3).Run
        (beginActs 0 0 3 ++ [.call 1 1, .run 0 0, .run 0 0, .run 0 0, .run 0 0, .run 1 0]) s ∧
      (Unlocked s ↔ (machine fun n => n < 3).Meets Opens
        (beginActs 0 0 3 ++ [.call 1 1, .run 0 0, .run 0 0, .run 0 0, .run 0 0, .run 1 0])) := by
  obtain ⟨s, hs⟩ := Machine.exists_run (machine fun n => n < 3)
    (beginActs 0 0 3 ++ [.call 1 1, .run 0 0, .run 0 0, .run 0 0, .run 0 0, .run 1 0]) (by decide)
  exact ⟨s, hs, unlocked_iff hs⟩

/-- The `open` of a call fails: no thread is in a call after it, and `s_lock` is held. -/
theorem not_unlocked :
    ∃ s, (machine fun n => n < 3).Run (beginActs 0 0 (-1)) s ∧ ¬Unlocked s := by
  obtain ⟨s, hs, hp⟩ := Machine.exists_run_of_map (machine fun n => n < 3)
    (beginActs 0 0 (-1)) (fun s => s.lock = some 0 ∧ s.pc 0 = .idle) (by decide)
  obtain ⟨hlock, hpc⟩ := of_decide_eq_true hp
  refine ⟨s, hs, fun h => ?_⟩
  have hin := h.inSwitch 0 hlock
  rw [hpc] at hin
  exact hin

end Sounder.Hal

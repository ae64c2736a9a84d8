import Sounder.Hal.Lock
import Sounder.Lib.Drain

/-!
# Who returns from the sound HAL

The threads in `SoundWaySwitch` and `sound_close`, left to themselves: each makes its next
statement when it likes, and no signal interrupts one. There are only so many statements
left (`Process.cost`), whatever the kernel answers. When no thread can make one, each of
them has returned, or waits for `s_lock`, which a thread has taken with it out of the part
where it is held (`Leaked`).

It comes to this exactly when a call finds that its `open` has failed, earlier or in the
meantime: as long as none does, every call returns (`returns_of_run`).
-/

namespace Sounder.Hal

variable {s t : Process} {th : ℕ} {result : ℤ}

/-! ## What is left -/

/-- How many statements are left of a call, at most. -/
def Pc.left : Pc → ℕ
  | .idle => 0
  | .locks _ => 8
  | .opens _ => 7
  | .stores _ _ => 6
  | .tests _ => 5
  | .ioctls _ => 4
  | .closes _ _ => 3
  | .unlocks _ _ => 2
  | .returns _ _ => 1
  | .testsFd => 2
  | .closesFd => 1

/-- How many statements are left of all calls. -/
noncomputable def Process.cost (s : Process) : ℕ := ∑ᶠ th, (s.pc th).left

/-- A thread makes a statement. -/
def Inner : Act → Prop
  | .run _ _ => True
  | _ => False

/-- A statement moves its thread on. -/
theorem pc_run (h : s.run th result = some t) :
    ∃ p, t.pc = Function.update s.pc th p ∧ p.left < (s.pc th).left := by
  rw [Process.run] at h
  split at h
  · cases h
  · next c hp =>
    split_ifs at h
    exact Option.some.inj h ▸ ⟨_, rfl, by simp [hp, Pc.left]⟩
  · next c hp =>
    split_ifs at h <;> exact Option.some.inj h ▸ ⟨_, rfl, by simp [hp, Pc.left]⟩
  · next c r hp => exact Option.some.inj h ▸ ⟨_, rfl, by simp [hp, Pc.left]⟩
  · next c hp =>
    split_ifs at h <;> exact Option.some.inj h ▸ ⟨_, rfl, by simp [hp, Pc.left]⟩
  · next c hp => exact Option.some.inj h ▸ ⟨_, rfl, by simp [hp, Pc.left]⟩
  · next c ret hp => exact Option.some.inj h ▸ ⟨_, rfl, by simp [hp, Pc.left]⟩
  · next c ret hp => exact Option.some.inj h ▸ ⟨_, rfl, by simp [hp, Pc.left]⟩
  · next c ret hp => exact Option.some.inj h ▸ ⟨_, rfl, by simp [hp, Pc.left]⟩
  · next hp =>
    refine Option.some.inj h ▸ ⟨_, rfl, ?_⟩
    rw [hp]
    split_ifs <;> decide
  · next hp => exact Option.some.inj h ▸ ⟨_, rfl, by simp [hp, Pc.left]⟩

/-- A thread that has statements left can make one, unless it waits for `s_lock`. -/
theorem isSome_run (hidle : s.pc th ≠ .idle) (hlocks : ∀ c, s.pc th ≠ .locks c) :
    (s.run th (-1)).isSome := by
  rw [Process.run]
  split
  · next hp => exact absurd hp hidle
  · next c hp => exact absurd hp (hlocks c)
  · rfl
  · rfl
  · split_ifs <;> rfl
  · rfl
  · rfl
  · rfl
  · rfl
  · rfl
  · rfl

/-! ## The lock -/

/-- `s_lock` is held by a thread that is past the part where it is. -/
def Leaked (s : Process) : Prop := ∃ th, s.lock = some th ∧ ¬(s.pc th).Locked

theorem leaked_congr {p : Pc} (hlock : t.lock = s.lock) (hpc : t.pc = Function.update s.pc th p)
    (hp : p.Locked ↔ (s.pc th).Locked) : Leaked t ↔ Leaked s := by
  refine exists_congr fun i => and_congr (by rw [hlock]) (not_congr ?_)
  rw [hpc]
  by_cases hi : i = th
  · rw [hi, Function.update_self, hp]
  · rw [Function.update_of_ne hi]

theorem not_leaked_of_lock (h : t.lock = none) : ¬Leaked t := by
  rintro ⟨i, hi, -⟩
  cases h.symm.trans hi

theorem not_leaked_of_locked (hlock : t.lock = some th) (hp : (t.pc th).Locked) : ¬Leaked t := by
  rintro ⟨i, hi, hno⟩
  obtain rfl := Option.some.inj (hlock.symm.trans hi)
  exact hno hp

/-- A statement that is not the test of `fd`. -/
theorem opens_of_isTest_eq_false (h : (s.pc th).isTest = false) : Opens s (.run th result) :=
  fun htest => absurd (h.symm.trans htest) (by decide)

/-- The lock is leaked by a call that finds that its `open` has failed, and stays so. -/
theorem leaked_of_run_step (h : LockInv s) (hst : s.run th result = some t) :
    ¬Leaked t ↔ ¬Leaked s ∧ Opens s (.run th result) := by
  cases run_lockStep hst with
  | moves p hp hopen hlock hpc hrel =>
    rw [leaked_congr hlock hpc hp]
    exact (and_iff_left hopen).symm
  | locks c hp hfree hlock hpc hlog =>
    have ht : (t.pc th).Locked := by
      rw [hpc, Function.update_self]
      trivial
    exact iff_of_true (not_leaked_of_locked hlock ht)
      ⟨not_leaked_of_lock hfree, opens_of_isTest_eq_false (by rw [hp]; rfl)⟩
  | unlocks c ret hp hlock hpc hlog =>
    have hs : (s.pc th).Locked := by
      rw [hp]
      trivial
    exact iff_of_true (not_leaked_of_lock hlock)
      ⟨not_leaked_of_locked (h.guards th hs) hs, opens_of_isTest_eq_false (by rw [hp]; rfl)⟩
  | exits ret hp hfail =>
    by_cases htest : (s.pc th).isTest = true
    · -- the early return
      have hlock : s.lock = some th := h.guards th (hp.2 htest)
      have hpc : (s.exit th ret).pc th = .idle := Function.update_self ..
      refine iff_of_false (not_not.2 ⟨th, hlock, by rw [hpc]; exact id⟩) fun ho => ?_
      exact absurd (hfail htest) (not_lt.2 (ho.2 htest))
    · have hidle : Pc.idle.Locked ↔ (s.pc th).Locked := iff_of_false id (mt hp.1 htest)
      have hcongr : Leaked (s.exit th ret) ↔ Leaked s := leaked_congr rfl rfl hidle
      rw [hcongr]
      exact (and_iff_left fun ht => absurd ht htest).symm

/-- The step lemma. -/
theorem leaked_of_step {a : Act} (h : LockInv s) (hst : s.step a = some t) :
    ¬Leaked t ↔ ¬Leaked s ∧ Opens s a := by
  cases a with
  | run th result => exact leaked_of_run_step h hst
  | call th way =>
    obtain ⟨hp, he⟩ := Option.ite_none_right_eq_some.1 hst
    obtain rfl := Option.some.inj he
    have hcongr : Leaked { s.goto th (.locks ⟨s.calls, way⟩) with calls := s.calls + 1 } ↔
        Leaked s := leaked_congr rfl rfl (by rw [hp]; exact Iff.rfl)
    exact (not_congr hcongr).trans (and_iff_left trivial).symm
  | soundClose th =>
    obtain ⟨hp, he⟩ := Option.ite_none_right_eq_some.1 hst
    obtain rfl := Option.some.inj he
    have hcongr : Leaked (s.goto th .testsFd) ↔ Leaked s :=
      leaked_congr rfl rfl (by rw [hp]; exact Iff.rfl)
    exact (not_congr hcongr).trans (and_iff_left trivial).symm
  | interrupted th =>
    simp only [Process.step, Process.interrupted] at hst
    split at hst
    · exact Option.some.inj hst ▸ (and_iff_left trivial).symm
    · exact Option.some.inj hst ▸ (and_iff_left trivial).symm
    · cases hst
  | otherOpen n =>
    obtain ⟨-, he⟩ := Option.ite_none_right_eq_some.1 hst
    exact Option.some.inj he ▸ (and_iff_left trivial).symm
  | otherClose n =>
    obtain ⟨-, he⟩ := Option.ite_none_right_eq_some.1 hst
    exact Option.some.inj he ▸ (and_iff_left trivial).symm

/-! ## Runs -/

/-- Only finitely many threads are in the HAL. -/
def Finitely (s : Process) : Prop := {th | s.pc th ≠ .idle}.Finite

theorem Finitely.update (h : Finitely s) {p : Pc} (hpc : t.pc = Function.update s.pc th p) :
    Finitely t := by
  refine (h.insert th).subset fun i hi => ?_
  by_cases hith : i = th
  · exact .inl hith
  · refine .inr fun hidle => hi ?_
    rw [hpc, Function.update_of_ne hith, hidle]

theorem Finitely.step (h : Finitely s) {a : Act} (hst : s.step a = some t) : Finitely t := by
  cases a with
  | run th result =>
    obtain ⟨p, hpc, -⟩ := pc_run hst
    exact h.update hpc
  | call th way =>
    obtain ⟨-, he⟩ := Option.ite_none_right_eq_some.1 hst
    exact Option.some.inj he ▸ h.update rfl
  | soundClose th =>
    obtain ⟨-, he⟩ := Option.ite_none_right_eq_some.1 hst
    exact Option.some.inj he ▸ h.update rfl
  | interrupted th =>
    simp only [Process.step, Process.interrupted] at hst
    split at hst
    · exact Option.some.inj hst ▸ h
    · exact Option.some.inj hst ▸ h
    · cases hst
  | otherOpen n =>
    obtain ⟨-, he⟩ := Option.ite_none_right_eq_some.1 hst
    exact Option.some.inj he ▸ h
  | otherClose n =>
    obtain ⟨-, he⟩ := Option.ite_none_right_eq_some.1 hst
    exact Option.some.inj he ▸ h

/-- The step lemma: a statement lowers the cost. -/
theorem cost_lt (hfin : Finitely s) (hst : s.run th result = some t) : t.cost < s.cost := by
  obtain ⟨p, hpc, hlt⟩ := pc_run hst
  have hsupp : (fun i => (s.pc i).left).support.Finite := by
    refine hfin.subset fun i hi hidle => hi ?_
    simp only [hidle, Pc.left]
  have hupdate : (fun i => (Function.update s.pc th p i).left) =
      Function.update (fun i => (s.pc i).left) th p.left :=
    Function.comp_update Pc.left s.pc th p
  rw [Process.cost, Process.cost, hpc, hupdate]
  exact finsum_update_lt hsupp hlt

/-- Every thread has returned, or waits for a lock that was leaked. -/
def Through (s : Process) : Prop :=
  ∀ th, s.pc th = .idle ∨ (∃ c, s.pc th = .locks c) ∧ Leaked s

/-- Wherever this is not so, some thread can make a statement. -/
theorem exists_run (h : ¬Through s) : ∃ th, (s.run th (-1)).isSome := by
  obtain ⟨th, hth⟩ := not_forall.1 h
  obtain ⟨hidle, hwait⟩ := not_or.1 hth
  by_cases hlocks : ∃ c, s.pc th = .locks c
  · obtain ⟨c, hc⟩ := hlocks
    cases hlock : s.lock with
    | none => exact ⟨th, by simp [Process.run, hc, hlock]⟩
    | some i =>
      -- the thread that has the lock has not come to its unlock yet
      have hi : (s.pc i).Locked := by
        by_contra hi
        exact hwait ⟨⟨c, hc⟩, i, hlock, hi⟩
      refine ⟨i, isSome_run (fun he => ?_) fun c he => ?_⟩
      · rw [he] at hi
        exact hi
      · rw [he] at hi
        exact hi
  · exact ⟨th, isSome_run hidle fun c hc => hlocks ⟨c, hc⟩⟩

variable {used : ℕ → Bool} {as : List Act}

/-- **Who returns.** Without new calls, the threads in the HAL have only so many statements
    left, in whatever order they make them, and whatever the kernel answers. When none can
    make one, each has returned, or waits for a lock that was leaked; and the lock is leaked
    exactly if a call has found that its `open` had failed. -/
theorem returns_of_run (hrun : (machine used).Run as s) :
    (machine used).Drains Inner Through s s.cost ∧
      (Leaked s ↔ ¬(machine used).Meets Opens as) := by
  have hfin : Finitely s :=
    hrun.invariant (I := Finitely) (by simp [Finitely, machine]) (fun h _ hst => h.step hst)
      Machine.meets_true
  constructor
  · refine Machine.drains_of_cost (I := Finitely) ?_ ?_ hfin
    · intro s a t hfin ha hst
      cases a with
      | run th result =>
        have hrun : s.step (.run th result) = some t := hst
        exact ⟨hfin.step hrun, cost_lt hfin hst⟩
      | _ => exact ha.elim
    · intro s _ hno
      obtain ⟨th, hsome⟩ := exists_run hno
      exact ⟨.run th (-1), trivial, hsome⟩
  · rw [← not_iff_not, not_not]
    exact hrun.iff_meets (I := LockInv) lockInv_init (not_leaked_of_lock rfl)
      fun h hst => ⟨(h.step hst).1, leaked_of_step h hst⟩

/-- A thread whose `open` fails, and one that comes to the lock after it. -/
theorem returns_of_run_waiting :
    ∃ s, (machine fun n => n < 3).Run (beginActs 0 0 (-1) ++ [.call 1 1]) s ∧
      (machine fun n => n < 3).Drains Inner Through s s.cost ∧
        (Leaked s ↔
          ¬(machine fun n => n < 3).Meets Opens (beginActs 0 0 (-1) ++ [.call 1 1])) := by
  obtain ⟨s, hs⟩ := Machine.exists_run (machine fun n => n < 3)
    (beginActs 0 0 (-1) ++ [.call 1 1]) (by decide)
  exact ⟨s, hs, returns_of_run hs⟩

end Sounder.Hal

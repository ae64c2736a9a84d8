import Mathlib.Data.Set.Card

/-!
# Semaphores

Threads, each at a place of its own, and a semaphore that was initialised to `n`. Those
at the places `holds` have taken it and not given it back: their number, and the count of
the semaphore, are `n` together (`Balanced`).

A thread that moves keeps this if it has the semaphore before and after, or neither
(`Balanced.move`); so do a thread that takes it (`Balanced.down`) and one that gives it
back (`Balanced.up`). If some of the holders never give it back, the semaphore runs dry
exactly when these are `n` (`Balanced.count_eq_zero`, `Balanced.exists_free`).
-/

namespace Sounder.Semaphore

variable {ι π : Type*} {holds stuck : π → Prop} {n count : ℕ} {place : ι → π} {i : ι} {p : π}

/-- The number of threads at the places `holds`. -/
noncomputable def holders (holds : π → Prop) (place : ι → π) : ℕ∞ :=
  {i | holds (place i)}.encard

/-- The count of the semaphore, and the number of threads that hold it, are `n` together. -/
def Balanced (holds : π → Prop) (n count : ℕ) (place : ι → π) : Prop :=
  count + holders holds place = n

theorem holders_eq_zero_iff : holders holds place = 0 ↔ ∀ i, ¬holds (place i) := by
  rw [holders, Set.encard_eq_zero, Set.eq_empty_iff_forall_notMem]
  rfl

theorem holders_mono (h : ∀ p, stuck p → holds p) (place : ι → π) :
    holders stuck place ≤ holders holds place :=
  Set.encard_le_encard fun i hi => h (place i) hi

/-- Threads that hold for good. -/
theorem holders_le_of_imp {place' : ι → π} (h : ∀ i, holds (place i) → holds (place' i)) :
    holders holds place ≤ holders holds place' :=
  Set.encard_le_encard fun i hi => h i hi

variable [DecidableEq ι]

/-- A thread moves. -/
theorem holders_move (h : holds p ↔ holds (place i)) :
    holders holds (Function.update place i p) = holders holds place := by
  rw [holders, holders]
  congr 1
  ext j
  by_cases hji : j = i
  · subst hji
    simpa using h
  · simp [hji]

/-- A thread that did not hold does now. -/
theorem holders_enter (hi : ¬holds (place i)) (hp : holds p) :
    holders holds (Function.update place i p) = holders holds place + 1 := by
  rw [holders, holders, ← Set.encard_insert_of_notMem (a := i) hi]
  congr 1
  ext j
  by_cases hji : j = i
  · subst hji
    simpa using hp
  · simp [hji]

/-- A thread that held does not now. -/
theorem holders_leave (hi : holds (place i)) (hp : ¬holds p) :
    holders holds (Function.update place i p) + 1 = holders holds place := by
  have hne : ¬holds (Function.update place i p i) := by simpa using hp
  have h := holders_enter hne hi
  rw [Function.update_idem, Function.update_eq_self] at h
  exact h.symm

namespace Balanced

omit [DecidableEq ι] in
theorem init (h : ∀ i, ¬holds (place i)) : Balanced holds n n place := by
  rw [Balanced, holders_eq_zero_iff.2 h, add_zero]

theorem move (h : Balanced holds n count place) (hp : holds p ↔ holds (place i)) :
    Balanced holds n count (Function.update place i p) := by
  rw [Balanced, holders_move hp]
  exact h

/-- A thread takes the semaphore. -/
theorem down (h : Balanced holds n count place) (hc : 0 < count) (hi : ¬holds (place i))
    (hp : holds p) : Balanced holds n (count - 1) (Function.update place i p) := by
  obtain ⟨c, rfl⟩ := Nat.exists_eq_succ_of_ne_zero hc.ne'
  rw [Balanced, holders_enter hi hp, ← h, Nat.succ_sub_one, Nat.cast_succ, add_right_comm,
    add_assoc]

/-- A thread gives the semaphore back. -/
theorem up (h : Balanced holds n count place) (hi : holds (place i)) (hp : ¬holds p) :
    Balanced holds n (count + 1) (Function.update place i p) := by
  rw [Balanced, ← h, ← holders_leave hi hp, Nat.cast_succ, add_right_comm, add_assoc]

omit [DecidableEq ι] in
theorem holders_le (h : Balanced holds n count place) : holders holds place ≤ n :=
  h ▸ le_add_self

omit [DecidableEq ι] in
/-- If `n` threads hold the semaphore for good, it is not available. -/
theorem count_eq_zero (h : Balanced holds n count place) (hs : ∀ p, stuck p → holds p)
    (hn : holders stuck place = n) : count = 0 := by
  have hle : (count : ℕ∞) + n ≤ 0 + n := by
    calc (count : ℕ∞) + n ≤ count + holders holds place := by
          rw [← hn]
          gcongr
          exact holders_mono hs place
      _ = 0 + n := by rw [h, zero_add]
  have hz := (ENat.add_le_add_iff_right (ENat.natCast_ne_top n)).1 hle
  exact_mod_cast nonpos_iff_eq_zero.1 hz

omit [DecidableEq ι] in
/-- If fewer hold it for good, it is available, or held by one who does not. -/
theorem exists_free (h : Balanced holds n count place) (hs : ∀ p, stuck p → holds p)
    (hn : holders stuck place ≠ n) : 0 < count ∨ ∃ i, holds (place i) ∧ ¬stuck (place i) := by
  by_contra hno
  push Not at hno
  obtain ⟨hc, hall⟩ := hno
  have heq : holders stuck place = holders holds place := by
    rw [holders, holders]
    congr 1
    ext i
    exact ⟨hs (place i), hall i⟩
  rw [Balanced, Nat.le_zero.1 hc, Nat.cast_zero, zero_add, ← heq] at h
  exact hn h

end Balanced

end Sounder.Semaphore

import Mathlib.Logic.Function.Basic

/-!
# Mutexes

Threads, each at a place of its own, and a mutex that at most one of them has locked.
`Guards holds lock at_`: whoever is at a place where it should have the mutex
(`holds`), has it. A thread that moves keeps this if it has locked the mutex, or does
not need it (`Guards.move`); so do a thread that locks it (`Guards.acquire`) and one that
unlocks it (`Guards.release`).
-/

namespace Sounder.Mutex

variable {ι π : Type*} {holds : π → Prop} {lock : Option ι} {place : ι → π} {i : ι} {p : π}

/-- A thread at a place where it should have the mutex has it. -/
def Guards (holds : π → Prop) (lock : Option ι) (place : ι → π) : Prop :=
  ∀ i, holds (place i) → lock = some i

variable [DecidableEq ι]

/-- A thread moves. -/
theorem Guards.move (h : Guards holds lock place) (hp : holds p → lock = some i) :
    Guards holds lock (Function.update place i p) := by
  intro j hj
  by_cases hji : j = i
  · subst hji
    rw [Function.update_self] at hj
    exact hp hj
  · rw [Function.update_of_ne hji] at hj
    exact h j hj

/-- A thread locks the mutex, which was free. -/
theorem Guards.acquire (h : Guards holds none place) :
    Guards holds (some i) (Function.update place i p) := by
  intro j hj
  by_cases hji : j = i
  · rw [hji]
  · rw [Function.update_of_ne hji] at hj
    cases h j hj

/-- A thread that has locked the mutex unlocks it. -/
theorem Guards.release (h : Guards holds (some i) place) (hp : ¬holds p) :
    Guards holds none (Function.update place i p) := by
  intro j hj
  by_cases hji : j = i
  · subst hji
    rw [Function.update_self] at hj
    exact absurd hj hp
  · rw [Function.update_of_ne hji] at hj
    exact absurd (Option.some_inj.1 (h j hj)).symm hji

end Sounder.Mutex

import Mathlib.Algebra.BigOperators.Finprod
import Sounder.Lib.Machine

/-!
# Draining

A machine left to itself takes only some of its actions, the *inner* ones: those that
carry on with what has begun. From a state, it *drains* (`Machine.Drains`) when it
takes at most so many inner actions, in whatever order, and can only stop where
everything is done: no order of them runs on forever, or ends in a deadlock.

A cost that every inner action lowers shows this, if there is an inner action wherever
something is left to do (`drains_of_cost`). Where each of several actors has a cost of
its own, the sum of them does (`finsum_update_lt`).
-/

namespace Sounder

namespace Machine

variable {σ α : Type*} {m : Machine σ α} {inner : α → Prop} {done I : σ → Prop} {s t : σ}
  {as : List α} {n : ℕ}

variable (m inner done) in
/-- From `s`, at most `n` inner actions are possible one after the other; when no more of
    them is, everything is done. -/
structure Drains (s : σ) (n : ℕ) : Prop where
  length_le {as : List α} {t : σ} : (∀ a ∈ as, inner a) → m.exec s as = some t → as.length ≤ n
  done {as : List α} {t : σ} : (∀ a ∈ as, inner a) → m.exec s as = some t →
    (∀ a, inner a → m.step t a = none) → done t

/-- Where it can only stop, more may be known to be done. -/
theorem Drains.mono {done' : σ → Prop} (h : m.Drains inner done s n)
    (hdone : ∀ {as t}, m.exec s as = some t → done t → done' t) : m.Drains inner done' s n where
  length_le := h.length_le
  done hin hex hstuck := hdone hex (h.done hin hex hstuck)

/-- Inner actions spend a cost that each of them lowers. -/
theorem length_add_le {cost : σ → ℕ}
    (step : ∀ {s a t}, I s → inner a → m.step s a = some t → I t ∧ cost t < cost s) (hs : I s)
    (hin : ∀ a ∈ as, inner a) (h : m.exec s as = some t) :
    I t ∧ as.length + cost t ≤ cost s := by
  induction as generalizing s with
  | nil =>
    obtain rfl := Option.some_inj.1 h
    exact ⟨hs, (Nat.zero_add _).le⟩
  | cons a as ih =>
    rw [exec_cons, Option.bind_eq_some_iff] at h
    obtain ⟨u, hu, h⟩ := h
    obtain ⟨ha, hin⟩ := List.forall_mem_cons.1 hin
    obtain ⟨hIu, hlt⟩ := step hs ha hu
    obtain ⟨hIt, hle⟩ := ih hIu hin h
    refine ⟨hIt, ?_⟩
    rw [List.length_cons]
    omega

/-- A machine drains if the inner actions lower a cost, and one of them is possible
    wherever something is left to do. -/
theorem drains_of_cost {cost : σ → ℕ}
    (step : ∀ {s a t}, I s → inner a → m.step s a = some t → I t ∧ cost t < cost s)
    (enabled : ∀ {s}, I s → ¬done s → ∃ a, inner a ∧ (m.step s a).isSome) (hs : I s) :
    m.Drains inner done s (cost s) where
  length_le hin h := le_of_add_le_left (length_add_le step hs hin h).2
  done hin h hstuck := by
    by_contra hdone
    obtain ⟨a, ha, hsome⟩ := enabled (length_add_le step hs hin h).1 hdone
    rw [hstuck a ha] at hsome
    cases hsome

end Machine

/-- One of finitely many costs goes down, and so does their sum. -/
theorem finsum_update_lt {ι : Type*} [DecidableEq ι] {f : ι → ℕ} (hf : f.support.Finite) {a : ι}
    {v : ℕ} (hv : v < f a) : ∑ᶠ i, Function.update f a v i < ∑ᶠ i, f i := by
  have ha : a ∈ hf.toFinset := by
    rw [Set.Finite.mem_toFinset, Function.mem_support]
    omega
  have hsub : (Function.update f a v).support ⊆ hf.toFinset := by
    intro i hi
    by_cases hia : i = a
    · exact hia ▸ ha
    · rw [Function.mem_support, Function.update_of_ne hia] at hi
      exact hf.mem_toFinset.2 hi
  rw [finsum_eq_sum_of_support_subset _ hsub,
    finsum_eq_sum_of_support_subset f (s := hf.toFinset) (by simp)]
  refine Finset.sum_lt_sum (fun i _ => ?_) ⟨a, ha, by rwa [Function.update_self]⟩
  by_cases hia : i = a
  · rw [hia, Function.update_self]
    exact hv.le
  · rw [Function.update_of_ne hia]

end Sounder

import Mathlib.Data.List.Basic
import Mathlib.Data.List.Induction
import Mathlib.Data.Nat.Cast.Defs

/-!
# Machines

A *machine* is a transition system whose actions carry all of its choices:
the state after an action is a partial function of the state before it,
undefined where the action is not possible. What the environment decides
(the result of a call, the thread that goes next) is part of the action.

* The runs of a machine (`Machine.Run`) are the lists of actions that are
  possible one after the other from the initial state.
* A run *meets* a condition (`Machine.Meets`) when each of its actions does, in
  the state it is taken in.
* `Run.induct` is the one induction: what holds initially, and is preserved by
  the actions that meet the condition, holds at the end of every run that meets
  it. `Run.invariant` is its form without the history.
* What an action preserves exactly if it meets the condition, holds at the end of
  exactly the runs that meet it (`Run.iff_meets`).

The runs can be computed (`Machine.exec`), and so can the conditions they meet
(`Machine.Along`), which is how a concrete run is checked. The actions of a kind can be
counted (`Machine.tally`).
-/

namespace Sounder

/-- A machine with states `σ` and actions `α`. -/
structure Machine (σ α : Type*) where
  /-- The initial state. -/
  init : σ
  /-- The state after an action, where it is possible. -/
  step : σ → α → Option σ

namespace Machine

variable {σ α : Type*} (m : Machine σ α)

/-- `m.Run as s`: the actions `as` lead, in order, from the initial state to `s`. -/
inductive Run : List α → σ → Prop
  | init : Run [] m.init
  | step {as : List α} {s t : σ} {a : α} : Run as s → m.step s a = some t → Run (as ++ [a]) t

/-- Every action of `as` meets the condition `C` in the state it is taken in. -/
def Meets (C : σ → α → Prop) (as : List α) : Prop :=
  ∀ pre a post s, as = pre ++ a :: post → m.Run pre s → C s a

variable {m} {C : σ → α → Prop} {as : List α} {a : α}

theorem Meets.of_append {bs : List α} (h : m.Meets C (as ++ bs)) : m.Meets C as := by
  intro pre a post s has hs
  exact h pre a (post ++ bs) s (by simp [has]) hs

theorem Meets.last (h : m.Meets C (as ++ [a])) {s : σ} (hs : m.Run as s) : C s a :=
  h as a [] s rfl hs

theorem meets_nil : m.Meets C [] := by
  intro pre a post s has
  simp at has

/-- Actions that meet a condition in every state. -/
theorem meets_of_forall (h : ∀ a ∈ as, ∀ s, C s a) : m.Meets C as := by
  rintro pre a post s rfl -
  exact h a (by simp) s

/-- What holds initially, and is preserved by the actions meeting `C`, holds at
    the end of every run meeting `C`. -/
theorem Run.induct {I : List α → σ → Prop} (init : I [] m.init)
    (step : ∀ {as s a t}, m.Run as s → I as s → C s a → m.step s a = some t → I (as ++ [a]) t)
    {s : σ} (hr : m.Run as s) (hC : m.Meets C as) : I as s := by
  induction hr with
  | init => exact init
  | step hr hst ih => exact step hr (ih hC.of_append) (hC.last hr) hst

/-- An invariant of the actions meeting `C` holds at the end of every run meeting `C`. -/
theorem Run.invariant {I : σ → Prop} (init : I m.init)
    (step : ∀ {s a t}, I s → C s a → m.step s a = some t → I t)
    {s : σ} (hr : m.Run as s) (hC : m.Meets C as) : I s :=
  Run.induct (I := fun _ => I) init (fun _ hI hCa hst => step hI hCa hst) hr hC

/-- Every run meets the condition that is always true. -/
theorem meets_true : m.Meets (fun _ _ => True) as := fun _ _ _ _ _ _ => trivial

/-! ## Computing runs -/

variable (m) in
/-- The state after the actions `as`, from the state `s`. -/
def exec (s : σ) (as : List α) : Option σ := as.foldlM m.step s

@[simp] theorem exec_nil (s : σ) : m.exec s [] = some s := rfl

theorem exec_cons (s : σ) (a : α) (as : List α) :
    m.exec s (a :: as) = (m.step s a).bind fun t => m.exec t as := rfl

theorem exec_append (s : σ) (as bs : List α) :
    m.exec s (as ++ bs) = (m.exec s as).bind fun t => m.exec t bs := by
  simp only [exec, List.foldlM_append]
  rfl

theorem exec_singleton (s : σ) (a : α) : m.exec s [a] = m.step s a := by
  rw [exec_cons]
  cases m.step s a <;> rfl

/-- The runs are the computed ones. -/
theorem run_iff_exec {s : σ} : m.Run as s ↔ m.exec m.init as = some s := by
  constructor
  · intro hr
    induction hr with
    | init => rfl
    | step _ hst ih => rw [exec_append, ih, Option.bind_some, exec_singleton, hst]
  · intro h
    induction as using List.reverseRecOn generalizing s with
    | nil =>
      rw [exec_nil, Option.some_inj] at h
      exact h ▸ .init
    | append_singleton as a ih =>
      rw [exec_append, Option.bind_eq_some_iff] at h
      obtain ⟨t, ht, hst⟩ := h
      exact .step (ih ht) (by rwa [exec_singleton] at hst)

/-- A run, and the actions computed after it. -/
theorem Run.append {bs : List α} {s t : σ} (hs : m.Run as s) (ht : m.exec s bs = some t) :
    m.Run (as ++ bs) t :=
  run_iff_exec.2 (by rw [exec_append, run_iff_exec.1 hs, Option.bind_some, ht])

/-- A run ends with the computed actions of its last part. -/
theorem run_append_iff {bs : List α} {t : σ} :
    m.Run (as ++ bs) t ↔ ∃ s, m.Run as s ∧ m.exec s bs = some t := by
  simp only [run_iff_exec, exec_append, Option.bind_eq_some_iff]

/-- What holds in a state, and is preserved by the actions of a kind `D`, holds after
    actions of this kind. -/
theorem exec_invariant {I : σ → Prop} {D : α → Prop} {bs : List α} {s t : σ}
    (step : ∀ {s a t}, I s → D a → m.step s a = some t → I t) (hs : I s) (hD : ∀ a ∈ bs, D a)
    (h : m.exec s bs = some t) : I t := by
  induction bs generalizing s with
  | nil => exact Option.some_inj.1 h ▸ hs
  | cons a bs ih =>
    rw [exec_cons, Option.bind_eq_some_iff] at h
    obtain ⟨u, hu, h⟩ := h
    obtain ⟨ha, hD⟩ := List.forall_mem_cons.1 hD
    exact ih (step hs ha hu) hD h

/-- A list of actions leads to at most one state. -/
theorem Run.unique {s t : σ} (hs : m.Run as s) (ht : m.Run as t) : s = t :=
  Option.some_inj.1 ((run_iff_exec.1 hs).symm.trans (run_iff_exec.1 ht))

/-- A run that meets a condition, and one more action that does. -/
theorem Meets.concat (h : m.Meets C as) {s : σ} (hs : m.Run as s) (ha : C s a) :
    m.Meets C (as ++ [a]) := by
  intro pre b post t he ht
  induction post using List.reverseRecOn with
  | nil =>
    obtain ⟨rfl, hb⟩ := List.append_inj' he rfl
    obtain rfl : a = b := List.singleton_injective hb
    exact hs.unique ht ▸ ha
  | append_singleton post c _ =>
    rw [← List.cons_append, ← List.append_assoc] at he
    exact h pre b post t (List.append_inj' he rfl).1 ht

theorem meets_concat_iff {s : σ} (hs : m.Run as s) :
    m.Meets C (as ++ [a]) ↔ m.Meets C as ∧ C s a :=
  ⟨fun h => ⟨h.of_append, h.last hs⟩, fun h => h.1.concat hs h.2⟩

/-- A property that holds initially, and holds after a step exactly if it did before
    and the step meets `C`, holds at the end of exactly the runs that meet `C`. The steps
    may rely on an invariant `I`. -/
theorem Run.iff_meets {I P : σ → Prop} {s : σ} (hr : m.Run as s) (hI : I m.init) (hP : P m.init)
    (step : ∀ {s a t}, I s → m.step s a = some t → I t ∧ (P t ↔ P s ∧ C s a)) :
    P s ↔ m.Meets C as := by
  suffices h : I s ∧ (P s ↔ m.Meets C as) from h.2
  refine Run.induct (I := fun as s => I s ∧ (P s ↔ m.Meets C as)) ?_ ?_ hr meets_true
  · exact ⟨hI, iff_of_true hP meets_nil⟩
  · intro as s a t hs ⟨hIs, hiff⟩ _ hst
    obtain ⟨hIt, ht⟩ := step hIs hst
    exact ⟨hIt, by rw [ht, hiff, meets_concat_iff hs]⟩

variable (m as) in
/-- The state reached by a run that computes. -/
theorem exists_run (h : (m.exec m.init as).isSome) : ∃ s, m.Run as s := by
  obtain ⟨s, hs⟩ := Option.isSome_iff_exists.1 h
  exact ⟨s, run_iff_exec.2 hs⟩

variable (m as) in
/-- A run whose computed end satisfies `p`. -/
theorem exists_run_of_map (p : σ → Bool) (h : (m.exec m.init as).map p = some true) :
    ∃ s, m.Run as s ∧ p s = true := by
  obtain ⟨s, hs, hp⟩ := Option.map_eq_some_iff.1 h
  exact ⟨s, run_iff_exec.2 hs, hp⟩

variable (m C) in
/-- The actions `as`, taken from `s`, each meet the condition `C`. -/
def Along : σ → List α → Prop
  | _, [] => True
  | s, a :: as => C s a ∧
    match m.step s a with
    | some t => Along t as
    | none => True

instance decidableAlong [∀ s a, Decidable (C s a)] : ∀ s as, Decidable (m.Along C s as)
  | _, [] => .isTrue trivial
  | s, a :: as =>
    haveI : Decidable (match m.step s a with
        | some t => m.Along C t as
        | none => True) :=
      match m.step s a with
      | some t => decidableAlong t as
      | none => .isTrue trivial
    inferInstanceAs (Decidable (C s a ∧ _))

theorem Along.of_exec {s t : σ} {post : List α} (h : m.Along C s (as ++ a :: post))
    (ht : m.exec s as = some t) : C t a := by
  induction as generalizing s with
  | nil =>
    rw [exec_nil, Option.some_inj] at ht
    exact ht ▸ h.1
  | cons b as ih =>
    rw [exec_cons, Option.bind_eq_some_iff] at ht
    obtain ⟨u, hu, ht⟩ := ht
    have h' := h.2
    simp only [hu] at h'
    exact ih h' ht

/-- A condition checked along a run is met by it. -/
theorem meets_of_along (h : m.Along C m.init as) : m.Meets C as := by
  rintro pre a post s rfl hs
  exact h.of_exec (run_iff_exec.1 hs)

/-! ## Counting -/

variable (m) in
/-- How many of the actions `as`, taken from `s`, are counted by `c`. -/
def tally (c : σ → α → Bool) : σ → List α → ℕ
  | _, [] => 0
  | s, a :: as => (c s a).toNat +
    match m.step s a with
    | some t => tally c t as
    | none => 0

/-- What grows by one with the actions that are counted, and with no others, has grown by
    their number in the end. -/
theorem tally_of_exec {M : Type*} [AddMonoidWithOne M] {c : σ → α → Bool} {f : σ → M}
    (step : ∀ {s a t}, m.step s a = some t → f t = f s + ((c s a).toNat : ℕ)) {s t : σ}
    (h : m.exec s as = some t) : f t = f s + (m.tally c s as : ℕ) := by
  induction as generalizing s with
  | nil =>
    obtain rfl := Option.some_inj.1 h
    rw [tally, Nat.cast_zero, add_zero]
  | cons a as ih =>
    rw [exec_cons, Option.bind_eq_some_iff] at h
    obtain ⟨u, hu, h⟩ := h
    rw [ih h, step hu, tally, hu, Nat.cast_add, add_assoc]

/-- What grows with the actions counted by `c`, and shrinks with those counted by `d`. -/
theorem tally_balance {c d : σ → α → Bool} {f : σ → ℕ}
    (step : ∀ {s a t}, m.step s a = some t → f t + (d s a).toNat = f s + (c s a).toNat) {s t : σ}
    (h : m.exec s as = some t) : f t + m.tally d s as = f s + m.tally c s as := by
  induction as generalizing s with
  | nil =>
    obtain rfl := Option.some_inj.1 h
    rfl
  | cons a as ih =>
    rw [exec_cons, Option.bind_eq_some_iff] at h
    obtain ⟨u, hu, h⟩ := h
    have hstep := step hu
    have hrest := ih h
    simp only [tally, hu]
    omega

/-- Where an invariant excludes the actions that are counted, there are none. -/
theorem tally_eq_zero {c : σ → α → Bool} {I : σ → Prop}
    (step : ∀ {s a t}, I s → m.step s a = some t → I t ∧ c s a = false) {s t : σ} (hs : I s)
    (h : m.exec s as = some t) : m.tally c s as = 0 := by
  induction as generalizing s with
  | nil => rfl
  | cons a as ih =>
    rw [exec_cons, Option.bind_eq_some_iff] at h
    obtain ⟨u, hu, h⟩ := h
    obtain ⟨hIu, hc⟩ := step hs hu
    rw [tally, hu, hc]
    exact (Nat.zero_add _).trans (ih hIu h)

end Machine

end Sounder

import Sounder.Lib.Machine

/-!
# Tables filled on demand

A table whose values are created when they are first asked for, in an environment that
changes: a request has a key, and finds the value of its key in the table, or creates it
there and then. A creation may fail, and then leaves the table as it was.

The log of a run determines the table: the value of a key is the first one that was
answered for it (`value_of_run`). The answers are consistent (`Memo.Consistent`): each is
the first value answered for its key before, if there is one, and otherwise what is created
then (`Consistent.answer`).
-/

namespace Sounder

/-- Environments `ε` with actions `α`, and requests `ρ` for the values `ν` of the keys `κ`. -/
structure Memo (ε α ρ κ ν : Type*) where
  /-- The environment at first. -/
  env : ε
  /-- The environment after an action. -/
  act : ε → α → Option ε
  key : ρ → κ
  /-- The value that a request creates, if it does. -/
  create : ε → ρ → Option ν

namespace Memo

/-- A request, in its environment, with its answer. -/
structure Served (ε ρ ν : Type*) where
  request : ρ
  env : ε
  answer : Option ν

/-- The table, and the requests served so far. -/
structure Table (ε ρ κ ν : Type*) where
  env : ε
  value : κ → Option ν
  log : List (Served ε ρ ν)

/-- The environment acts, or a request is made. -/
inductive Act (α ρ : Type*)
  | env (a : α)
  | fetch (q : ρ)
  deriving DecidableEq

variable {ε α ρ κ ν : Type*} [DecidableEq κ] (M : Memo ε α ρ κ ν)

/-- What a request is answered. -/
def answer (s : Table ε ρ κ ν) (q : ρ) : Option ν :=
  (s.value (M.key q)).or (M.create s.env q)

/-- The table after a request. -/
def fetch (s : Table ε ρ κ ν) (q : ρ) : Table ε ρ κ ν where
  env := s.env
  value := Function.update s.value (M.key q) (M.answer s q)
  log := s.log ++ [⟨q, s.env, M.answer s q⟩]

/-- One action. -/
def step (s : Table ε ρ κ ν) : Act α ρ → Option (Table ε ρ κ ν)
  | .env a => (M.act s.env a).map fun env => { s with env := env }
  | .fetch q => some (M.fetch s q)

/-- The table, empty at first. -/
def machine : Machine (Table ε ρ κ ν) (Act α ρ) := ⟨⟨M.env, fun _ => none, []⟩, M.step⟩

/-! ## The log -/

/-- The first value answered for a key. -/
def first (l : List (Served ε ρ ν)) (k : κ) : Option ν :=
  l.findSome? fun x => if M.key x.request = k then x.answer else none

/-- Each answer is the first value answered for its key before, or else what the request
    creates. -/
inductive Consistent : List (Served ε ρ ν) → Prop
  | nil : Consistent []
  | concat {l : List (Served ε ρ ν)} {x : Served ε ρ ν} : Consistent l →
    x.answer = (M.first l (M.key x.request)).or (M.create x.env x.request) →
    Consistent (l ++ [x])

variable {M} {l pre post : List (Served ε ρ ν)} {x : Served ε ρ ν} {k : κ}

theorem first_concat : M.first (l ++ [x]) k =
    (M.first l k).or (if M.key x.request = k then x.answer else none) := by
  simp [first, List.findSome?_append]

namespace Consistent

theorem of_append (h : M.Consistent (l ++ post)) : M.Consistent l := by
  induction post using List.reverseRecOn with
  | nil => rwa [List.append_nil] at h
  | append_singleton post y ih =>
    rw [← List.append_assoc] at h
    generalize he : l ++ post ++ [y] = l' at h
    cases h with
    | nil => simp at he
    | concat h _ => exact ih ((List.append_inj' he rfl).1 ▸ h)

/-- Every answer, given those before it. -/
theorem answer (h : M.Consistent (pre ++ x :: post)) :
    x.answer = (M.first pre (M.key x.request)).or (M.create x.env x.request) := by
  have hx : M.Consistent (pre ++ [x]) := by
    rw [List.append_cons] at h
    exact h.of_append
  generalize he : pre ++ [x] = l' at hx
  cases hx with
  | nil => simp at he
  | concat _ hans =>
    obtain ⟨rfl, hxy⟩ := List.append_inj' he rfl
    obtain rfl := List.singleton_injective hxy
    exact hans

end Consistent

/-! ## Runs -/

/-- The table after a run is determined by its log, and the log is consistent. -/
theorem value_of_run {as : List (Act α ρ)} {s : Table ε ρ κ ν} (h : M.machine.Run as s) :
    (∀ k, s.value k = M.first s.log k) ∧ M.Consistent s.log := by
  refine h.invariant (I := fun s => (∀ k, s.value k = M.first s.log k) ∧ M.Consistent s.log)
    ⟨fun _ => rfl, .nil⟩ ?_ Machine.meets_true
  intro s a t ⟨hval, hcons⟩ _ hst
  cases a with
  | env a =>
    obtain ⟨_, -, rfl⟩ := Option.map_eq_some_iff.1 hst
    exact ⟨hval, hcons⟩
  | fetch q =>
    obtain rfl := Option.some_inj.1 hst
    refine ⟨fun k => ?_, hcons.concat (by rw [answer, ← hval])⟩
    change Function.update s.value (M.key q) (M.answer s q) k = _
    rw [fetch, first_concat, ← hval k, Function.update_apply]
    split_ifs with hk hk' hk'
    · -- the key of the request: its value stays, or else is created
      rw [hk, answer]
      cases s.value (M.key q) <;> rfl
    · exact absurd hk.symm hk'
    · exact absurd hk'.symm hk
    · rw [Option.or_none]

end Memo

end Sounder

import Mathlib.Data.List.Induction
import Mathlib.Data.List.Nodup

/-!
# Histories

What the callers of a shared object see: that a call is made, with an argument, and that it
returns, with a result, where any number of calls are in progress at a time.

A *linearization* of a history (`Linearizes`) is a list of operations, in an order in which
they may have happened, each in one moment: every operation is one of the calls; every call
that has returned is one of the operations, with the result that it returned; and a call
that had returned before another one was made comes before it.

Along a run, a linearization grows at its end. A new call does not change it
(`Linearizes.call`), a call joins it in the moment in which it takes effect
(`Linearizes.takes`), and it may return from then on (`Linearizes.ret`).
-/

namespace Sounder

variable {ι α ρ : Type*}

/-- An event of a history. -/
inductive HistoryEvent (ι α ρ : Type*)
  | call (id : ι) (arg : α)
  | ret (id : ι) (result : ρ)
  deriving DecidableEq

/-- A call, with its argument and its result. -/
structure Operation (ι α ρ : Type*) where
  id : ι
  arg : α
  result : ρ
  deriving DecidableEq

/-- The call `i` returns before the call `j` is made. -/
def Precedes (h : List (HistoryEvent ι α ρ)) (i j : ι) : Prop :=
  ∃ pre arg post, h = pre ++ .call j arg :: post ∧ ∃ r, .ret i r ∈ pre

/-- The operations `ops` may have happened one after the other. -/
structure Linearizes (h : List (HistoryEvent ι α ρ)) (ops : List (Operation ι α ρ)) : Prop where
  nodup : (ops.map Operation.id).Nodup
  called : ∀ o ∈ ops, .call o.id o.arg ∈ h
  returned : ∀ i r, .ret i r ∈ h → ∃ o ∈ ops, o.id = i ∧ o.result = r
  order : ∀ i j, Precedes h i j → j ∈ ops.map Operation.id →
    List.Sublist [i, j] (ops.map Operation.id)

variable {h : List (HistoryEvent ι α ρ)} {e : HistoryEvent ι α ρ} {ops : List (Operation ι α ρ)}
  {i j : ι}

theorem precedes_concat_iff : Precedes (h ++ [e]) i j ↔
    Precedes h i j ∨ (∃ arg, e = .call j arg) ∧ ∃ r, .ret i r ∈ h := by
  constructor
  · rintro ⟨pre, arg, post, he, hr⟩
    induction post using List.reverseRecOn with
    | nil =>
      -- the call is the last event
      obtain ⟨rfl, hlast⟩ := List.append_inj' he rfl
      exact .inr ⟨⟨arg, List.singleton_injective hlast⟩, hr⟩
    | append_singleton post _ _ =>
      rw [← List.cons_append, ← List.append_assoc] at he
      exact .inl ⟨pre, arg, post, (List.append_inj' he rfl).1, hr⟩
  · rintro (⟨pre, arg, post, rfl, hr⟩ | ⟨⟨arg, rfl⟩, hr⟩)
    · exact ⟨pre, arg, post ++ [e], by simp, hr⟩
    · exact ⟨h, arg, [], rfl, hr⟩

theorem linearizes_nil : Linearizes ([] : List (HistoryEvent ι α ρ)) [] where
  nodup := List.nodup_nil
  called _ ho := absurd ho List.not_mem_nil
  returned _ _ hr := absurd hr List.not_mem_nil
  order _ _ _ hj := absurd hj List.not_mem_nil

/-- A new call is made. -/
theorem Linearizes.call (hl : Linearizes h ops) (hi : i ∉ ops.map Operation.id) (arg : α) :
    Linearizes (h ++ [.call i arg]) ops where
  nodup := hl.nodup
  called o ho := List.mem_append_left _ (hl.called o ho)
  returned k r hr := by
    rcases List.mem_append.1 hr with hr | hr
    · exact hl.returned k r hr
    · cases List.mem_singleton.1 hr
  order k j hkj hj := by
    rcases precedes_concat_iff.1 hkj with hkj | ⟨⟨_, he⟩, -⟩
    · exact hl.order k j hkj hj
    · cases he
      exact absurd hj hi

/-- A call takes effect, after everything that has returned. -/
theorem Linearizes.takes (hl : Linearizes h ops) {o : Operation ι α ρ}
    (hcall : .call o.id o.arg ∈ h) (ho : o.id ∉ ops.map Operation.id) :
    Linearizes h (ops ++ [o]) where
  nodup := by
    rw [List.map_append, List.map_singleton]
    exact List.nodup_append.2 ⟨hl.nodup, List.nodup_singleton _, fun k hk l hl' hkl =>
      ho (List.mem_singleton.1 hl' ▸ hkl ▸ hk)⟩
  called o' ho' := by
    rcases List.mem_append.1 ho' with ho' | ho'
    · exact hl.called o' ho'
    · obtain rfl := List.mem_singleton.1 ho'
      exact hcall
  returned k r hr := by
    obtain ⟨o', ho', h'⟩ := hl.returned k r hr
    exact ⟨o', List.mem_append_left _ ho', h'⟩
  order k j hkj hj := by
    rw [List.map_append, List.map_singleton] at hj ⊢
    rcases List.mem_append.1 hj with hj | hj
    · exact (hl.order k j hkj hj).trans (List.sublist_append_left _ _)
    · -- what has returned is among the operations already
      obtain rfl := List.mem_singleton.1 hj
      obtain ⟨pre, arg, post, he, r, hr⟩ := hkj
      obtain ⟨o', ho', rfl, -⟩ := hl.returned k r (he ▸ List.mem_append_left _ hr)
      exact (List.singleton_sublist.2 (List.mem_map_of_mem ho')).append
        (List.Sublist.refl [o.id])

/-- A call that has taken effect returns. -/
theorem Linearizes.ret (hl : Linearizes h ops) {o : Operation ι α ρ} (ho : o ∈ ops) :
    Linearizes (h ++ [.ret o.id o.result]) ops where
  nodup := hl.nodup
  called o' ho' := List.mem_append_left _ (hl.called o' ho')
  returned k r hr := by
    rcases List.mem_append.1 hr with hr | hr
    · exact hl.returned k r hr
    · cases List.mem_singleton.1 hr
      exact ⟨o, ho, rfl, rfl⟩
  order k j hkj hj := by
    rcases precedes_concat_iff.1 hkj with hkj | ⟨⟨_, he⟩, -⟩
    · exact hl.order k j hkj hj
    · cases he

end Sounder

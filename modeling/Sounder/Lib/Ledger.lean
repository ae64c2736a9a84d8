import Mathlib.Data.List.Basic
import Mathlib.Data.List.Nodup

/-!
# Ledgers

What was acquired and released, in order. An *audit* of a ledger keeps the resources
held, the last acquired first; it fails at an entry that acquires what is held, or
releases what is not. A ledger whose audit ends with nothing held has released
exactly once whatever it acquired.

* Resources acquired one after the other are held (`audit_acquire`).
* If the resources held are released one after the other, in whatever order, nothing
  is held (`audit_release`). A ladder by which a failed acquisition is undone does so
  (`audit_ladder`).
-/

namespace Sounder

/-- An entry of a ledger of the resources `ρ`. -/
inductive Entry (ρ : Type*)
  | acquire (r : ρ)
  | release (r : ρ)
  deriving DecidableEq

variable {ρ : Type*} [DecidableEq ρ]

/-- The resources held after the entries of a ledger, from the resources `held` on. -/
def audit : List (Entry ρ) → List ρ → Option (List ρ)
  | [], held => some held
  | .acquire r :: l, held => if r ∈ held then none else audit l (r :: held)
  | .release r :: l, held => if r ∈ held then audit l (held.erase r) else none

@[simp] theorem audit_nil (held : List ρ) : audit [] held = some held := rfl

theorem audit_append (l l' : List (Entry ρ)) (held : List ρ) :
    audit (l ++ l') held = (audit l held).bind (audit l') := by
  induction l generalizing held with
  | nil => rfl
  | cons e l ih =>
    cases e <;>
    · rw [List.cons_append, audit, audit]
      split_ifs <;> first | exact ih _ | rfl

/-- Different resources that are not held, acquired one after the other. -/
theorem audit_acquire {rs held : List ρ} (hnd : rs.Nodup) (hd : ∀ r ∈ rs, r ∉ held) :
    audit (rs.map .acquire) held = some (rs.reverse ++ held) := by
  induction rs generalizing held with
  | nil => rfl
  | cons r rs ih =>
    obtain ⟨hr, hnd⟩ := List.nodup_cons.1 hnd
    obtain ⟨hrh, hd⟩ := List.forall_mem_cons.1 hd
    rw [List.map_cons, audit, if_neg hrh, ih hnd, List.reverse_cons, List.append_assoc]
    · rfl
    · intro x hx hm
      rcases List.mem_cons.1 hm with rfl | hm
      · exact hr hx
      · exact hd x hx hm

/-- The resources held, released one after the other, in whatever order. -/
theorem audit_release {rs held : List ρ} (h : rs.Perm held) :
    audit (rs.map .release) held = some [] := by
  induction rs generalizing held with
  | nil => rw [List.nil_perm.1 h, List.map_nil, audit_nil]
  | cons r rs ih =>
    obtain ⟨hr, h⟩ := List.cons_perm_iff_perm_erase.1 h
    rw [List.map_cons, audit, if_pos hr]
    exact ih h

/-- Resources acquired, and released in the opposite order. -/
theorem audit_ladder {rs : List ρ} (hnd : rs.Nodup) :
    audit (rs.map .acquire ++ rs.reverse.map .release) [] = some [] := by
  rw [audit_append, audit_acquire hnd fun _ _ => List.not_mem_nil, Option.bind_some,
    List.append_nil]
  exact audit_release (List.Perm.refl _)

end Sounder

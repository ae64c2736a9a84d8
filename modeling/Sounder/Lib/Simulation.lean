import Sounder.Lib.Machine

/-!
# Simulations

A machine simulates another one if their states can be related so that each action of
the second is matched by a list of actions of the first, which may be empty
(`Machine.Simulates`). Conditions go along: an action that meets `C` is matched by
actions that meet `D`. Then every run of the second machine that meets `C` has a run of
the first that meets `D`, with a related end (`Simulates.run`), so that what holds of the
latter can be said of the former.
-/

namespace Sounder.Machine

variable {σ τ α β : Type*} {m : Machine σ α} {m' : Machine τ β} {C : σ → α → Prop}
  {D : τ → β → Prop} {R : σ → τ → Prop}

/-- A run that meets a condition, and further actions that do. -/
theorem Meets.append {bs cs : List β} {t u : τ} (h : m'.Meets D bs) (ht : m'.Run bs t)
    (hu : m'.exec t cs = some u) (hcs : m'.Along D t cs) : m'.Meets D (bs ++ cs) := by
  induction cs generalizing bs t with
  | nil => rwa [List.append_nil]
  | cons c cs ih =>
    rw [exec_cons, Option.bind_eq_some_iff] at hu
    obtain ⟨v, hv, hu⟩ := hu
    have hcs' := hcs.2
    rw [hv] at hcs'
    have hc := ih (h.concat ht hcs.1) (ht.step hv) hu hcs'
    rwa [List.append_assoc] at hc

variable (m m' C D R) in
/-- The actions of `m` that meet `C` are matched by actions of `m'` that meet `D`. -/
structure Simulates : Prop where
  init : R m.init m'.init
  step {s s' : σ} {t : τ} {a : α} : R s t → C s a → m.step s a = some s' →
    ∃ bs t', m'.exec t bs = some t' ∧ m'.Along D t bs ∧ R s' t'

/-- A run has a matching run. -/
theorem Simulates.run (h : Simulates m m' C D R) {as : List α} {s : σ} (hrun : m.Run as s)
    (hm : m.Meets C as) : ∃ bs t, m'.Run bs t ∧ m'.Meets D bs ∧ R s t := by
  refine Run.induct (I := fun _ s => ∃ bs t, m'.Run bs t ∧ m'.Meets D bs ∧ R s t)
    ⟨[], m'.init, .init, meets_nil, h.init⟩ ?_ hrun hm
  rintro as s s' a - ⟨bs, t, ht, hD, hR⟩ hC hst
  obtain ⟨cs, t', hcs, hDcs, hR'⟩ := h.step hR hC hst
  exact ⟨bs ++ cs, t', ht.append hcs, hD.append ht hcs hDcs, hR'⟩

end Sounder.Machine

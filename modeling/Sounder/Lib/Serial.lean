import Mathlib.Data.List.Basic

/-!
# Serial traces

A trace is made of *units*, which are lists of steps.

* It is *whole* (`Whole`) when it is made of complete units, one after the other.
* It is *serial* (`Serial`) when it is made of complete units, and the beginning of
  one more.

If the units are a prefix code (`PrefixCode`), a trace is split into units in one
way only: steps that neither begin a unit nor begin with one leave a trace that is
not serial, whatever follows them (`not_serial`).

In a trace shared by several actors, each step is tagged with the actor that took
it, and a unit is performed by one actor (`ByOne`). A step of another actor inside a
unit is then such a break (`breaks_of_ne`).
-/

namespace Sounder

section Traces

variable {α : Type*}

/-- A trace made of complete units. -/
inductive Whole (IsUnit : List α → Prop) : List α → Prop
  | nil : Whole IsUnit []
  | cons {u t : List α} : IsUnit u → Whole IsUnit t → Whole IsUnit (u ++ t)

/-- A trace made of complete units, and the beginning of one more. -/
def Serial (IsUnit : List α → Prop) (t : List α) : Prop :=
  ∃ t₀ p, Whole IsUnit t₀ ∧ (p = [] ∨ ∃ u, IsUnit u ∧ p <+: u) ∧ t = t₀ ++ p

/-- Units that are nonempty, and none of which begins another. -/
structure PrefixCode (IsUnit : List α → Prop) : Prop where
  ne_nil {u : List α} : IsUnit u → u ≠ []
  eq_of_begins {u v : List α} : IsUnit u → IsUnit v → u <+: v → u = v

/-- Steps that neither begin a unit nor begin with one. -/
def Breaks (IsUnit : List α → Prop) (m : List α) : Prop :=
  ∀ u, IsUnit u → ¬u <+: m ∧ ¬m <+: u

variable {IsUnit : List α → Prop} {t t' u v m : List α}

theorem Whole.append (h : Whole IsUnit t) (h' : Whole IsUnit t') : Whole IsUnit (t ++ t') := by
  induction h with
  | nil => exact h'
  | cons hu _ ih =>
    rw [List.append_assoc]
    exact .cons hu ih

theorem Whole.concat (h : Whole IsUnit t) (hu : IsUnit u) : Whole IsUnit (t ++ u) := by
  have := h.append (.cons hu .nil)
  rwa [List.append_nil] at this

theorem Whole.serial (h : Whole IsUnit t) : Serial IsUnit t :=
  ⟨t, [], h, .inl rfl, (List.append_nil t).symm⟩

theorem Whole.serial_append (h : Whole IsUnit t) (hu : IsUnit u) (hp : m <+: u) :
    Serial IsUnit (t ++ m) :=
  ⟨t, m, h, .inr ⟨u, hu, hp⟩, rfl⟩

/-- The first unit of a trace is determined by it. -/
theorem PrefixCode.unit_inj (hU : PrefixCode IsUnit) (hu : IsUnit u) (hv : IsUnit v)
    (h : u ++ t = v ++ t') : u = v ∧ t = t' := by
  obtain rfl : u = v := by
    rcases List.prefix_or_prefix_of_prefix ⟨t, h⟩ (List.prefix_append v t') with hp | hp
    · exact hU.eq_of_begins hu hv hp
    · exact (hU.eq_of_begins hv hu hp).symm
  exact ⟨rfl, List.append_cancel_left h⟩

/-- What follows a unit in a serial trace is serial. -/
theorem Serial.of_append (hU : PrefixCode IsUnit) (hu : IsUnit u) (h : Serial IsUnit (u ++ t)) :
    Serial IsUnit t := by
  obtain ⟨t₀, p, hw, hp, he⟩ := h
  cases hw with
  | cons hv hw =>
    rw [List.append_assoc] at he
    obtain ⟨-, rfl⟩ := hU.unit_inj hu hv he
    exact ⟨_, p, hw, hp, rfl⟩
  | nil =>
    -- the unit begins the one left open, which is thus complete
    rw [List.nil_append] at he
    subst he
    rcases hp with hp | ⟨v, hv, hp⟩
    · exact absurd (List.append_eq_nil_iff.1 hp).1 (hU.ne_nil hu)
    · obtain rfl := hU.eq_of_begins hu hv ((List.prefix_append u t).trans hp)
      obtain rfl : t = [] := by
        have := hp.length_le
        rw [List.length_append] at this
        exact List.eq_nil_of_length_eq_zero (by omega)
      exact Whole.nil.serial

/-- Steps that break the units are not part of a serial trace. -/
theorem not_serial (hU : PrefixCode IsUnit) (h : Whole IsUnit t) (hm : Breaks IsUnit m)
    (hne : m ≠ []) : ¬Serial IsUnit (t ++ (m ++ t')) := by
  induction h with
  | cons hu _ ih =>
    rw [List.append_assoc]
    exact fun hs => ih (hs.of_append hU hu)
  | nil =>
    rintro ⟨t₀, p, hw, hp, he⟩
    rw [List.nil_append] at he
    cases hw with
    | nil =>
      rw [List.nil_append] at he
      subst he
      rcases hp with hp | ⟨u, hu, hp⟩
      · exact hne (List.append_eq_nil_iff.1 hp).1
      · exact (hm u hu).2 ((List.prefix_append m t').trans hp)
    | @cons u t hu _ =>
      rw [List.append_assoc] at he
      have hpre : m <+: u ++ (t ++ p) := ⟨t', he⟩
      rcases List.prefix_or_prefix_of_prefix hpre (List.prefix_append u _) with h | h
      · exact (hm u hu).2 h
      · exact (hm u hu).1 h

end Traces

/-! ## Several actors -/

variable {ι τ : Type*}

/-- The steps `u`, taken by the actor `a`. -/
def tagged (a : ι) (u : List τ) : List (ι × τ) := u.map (a, ·)

/-- A unit performed by one actor. -/
def ByOne (IsUnit : List τ → Prop) (l : List (ι × τ)) : Prop :=
  ∃ a u, IsUnit u ∧ l = tagged a u

variable {IsUnit : List τ → Prop} {a b : ι} {u v p : List τ}

@[simp] theorem tagged_nil (a : ι) : tagged a ([] : List τ) = [] := rfl

theorem tagged_append (a : ι) (u v : List τ) : tagged a (u ++ v) = tagged a u ++ tagged a v :=
  List.map_append

theorem byOne_tagged (a : ι) (hu : IsUnit u) : ByOne IsUnit (tagged a u) := ⟨a, u, hu, rfl⟩

/-- A beginning of what an actor does is done by that actor. -/
theorem prefix_of_tagged (hne : u ≠ []) (h : tagged a u <+: tagged b v) : a = b ∧ u <+: v := by
  obtain ⟨x, u, rfl⟩ := List.exists_cons_of_ne_nil hne
  cases v with
  | nil => exact absurd (List.prefix_nil.1 h) (by simp [tagged])
  | cons y v =>
    obtain rfl : a = b := (Prod.mk.inj (List.cons_prefix_cons.1 h).1).1
    exact ⟨rfl, (List.prefix_map_iff_of_injective fun _ _ h => (Prod.mk.inj h).2).1 h⟩

theorem PrefixCode.byOne (hU : PrefixCode IsUnit) :
    PrefixCode (ByOne IsUnit : List (ι × τ) → Prop) where
  ne_nil := by
    rintro _ ⟨a, u, hu, rfl⟩
    simpa [tagged] using hU.ne_nil hu
  eq_of_begins := by
    rintro _ _ ⟨a, u, hu, rfl⟩ ⟨b, v, hv, rfl⟩ h
    obtain ⟨rfl, hp⟩ := prefix_of_tagged (hU.ne_nil hu) h
    rw [hU.eq_of_begins hu hv hp]

/-- A step of another actor breaks a unit that has begun, and is not complete. -/
theorem breaks_of_ne (hU : PrefixCode IsUnit) (hu : IsUnit u) (hp : p <+: u) (hne : p ≠ [])
    (hlt : p ≠ u) (hab : b ≠ a) (x : τ) : Breaks (ByOne IsUnit) (tagged a p ++ [(b, x)]) := by
  rintro _ ⟨c, v, hv, rfl⟩
  constructor
  · intro h
    rcases List.prefix_concat_iff.1 h with h | h
    · -- the last step of the unit would be the other actor's, and its first one not
      obtain ⟨y, p, rfl⟩ := List.exists_cons_of_ne_nil hne
      have hc : ∀ z ∈ tagged c v, z.1 = c := fun z hz => by
        obtain ⟨_, _, rfl⟩ := List.mem_map.1 hz
        rfl
      have ha := hc (a, y) (by rw [h]; simp [tagged])
      have hb := hc (b, x) (by rw [h]; simp)
      exact hab (hb.trans ha.symm)
    · obtain ⟨-, hvp⟩ := prefix_of_tagged (hU.ne_nil hv) h
      obtain rfl := hU.eq_of_begins hv hu (hvp.trans hp)
      exact hlt (hp.eq_of_length_le hvp.length_le)
  · intro h
    obtain ⟨rfl, -⟩ := prefix_of_tagged hne ((List.prefix_append _ _).trans h)
    have hb := h.subset (List.mem_append_right _ (List.mem_singleton_self (b, x)))
    obtain ⟨_, _, he⟩ := List.mem_map.1 hb
    exact hab (Prod.mk.inj he).1.symm

end Sounder

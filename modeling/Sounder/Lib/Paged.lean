import Mathlib.Data.List.Basic

/-!
# Paged registers

A device with a register file per *page*: a write selects a page, or stores a value
in a register of the page that is selected.

* `Paged.writeAll` are some writes, in order; the page they leave selected
  (`pageAfter`) and the registers they store to (`targets`) do not depend on what
  the registers hold.
* Other registers keep their values (`regs_writeAll_of_notMem`), and what the
  written ones held before is lost (`writeAll_congr`): writes can be repeated, after
  others that stored to some of the same registers, to the same effect
  (`writeAll_writeAll`).
-/

namespace Sounder

/-- A device with the pages `P`, of registers `R` holding values `V`. -/
@[ext] structure Paged (P R V : Type*) where
  /-- The page selected. -/
  page : P
  /-- The registers of each page. -/
  regs : P → R → V

/-- A write to such a device. -/
inductive Write (P R V : Type*)
  | select (p : P)
  | store (r : R) (v : V)

namespace Paged

variable {P R V : Type*}

/-- The page selected after some writes. -/
def pageAfter (p : P) : List (Write P R V) → P
  | [] => p
  | .select q :: ws => pageAfter q ws
  | .store _ _ :: ws => pageAfter p ws

/-- The registers that some writes store to. -/
def targets (p : P) : List (Write P R V) → List (P × R)
  | [] => []
  | .select q :: ws => targets q ws
  | .store r _ :: ws => (p, r) :: targets p ws

theorem pageAfter_append (p : P) (ws ws' : List (Write P R V)) :
    pageAfter p (ws ++ ws') = pageAfter (pageAfter p ws) ws' := by
  induction ws generalizing p with
  | nil => rfl
  | cons w ws ih =>
    cases w with
    | select q => exact ih q
    | store r v => exact ih p

variable [DecidableEq P] [DecidableEq R]

/-- One write. -/
def write (m : Paged P R V) : Write P R V → Paged P R V
  | .select p => { m with page := p }
  | .store r v => { m with regs := fun p' r' => if (p', r') = (m.page, r) then v else m.regs p' r' }

/-- Some writes, in order. -/
def writeAll (m : Paged P R V) (ws : List (Write P R V)) : Paged P R V := ws.foldl write m

variable {m m' : Paged P R V} {ws ws' : List (Write P R V)} {p : P} {r : R}

@[simp] theorem writeAll_nil : m.writeAll [] = m := rfl

theorem writeAll_cons (w : Write P R V) : m.writeAll (w :: ws) = (m.write w).writeAll ws := rfl

theorem writeAll_append : m.writeAll (ws ++ ws') = (m.writeAll ws).writeAll ws' :=
  List.foldl_append

theorem page_writeAll : (m.writeAll ws).page = pageAfter m.page ws := by
  induction ws generalizing m with
  | nil => rfl
  | cons w ws ih =>
    rw [writeAll_cons, ih]
    cases w <;> rfl

/-- A register that is not written keeps its value. -/
theorem regs_writeAll_of_notMem (h : (p, r) ∉ targets m.page ws) :
    (m.writeAll ws).regs p r = m.regs p r := by
  induction ws generalizing m with
  | nil => rfl
  | cons w ws ih =>
    rw [writeAll_cons]
    cases w with
    | select q => exact ih h
    | store r' v =>
      rw [targets, List.mem_cons, not_or] at h
      exact (ih (m := m.write (.store r' v)) h.2).trans (if_neg h.1)

/-- The result of some writes does not depend on what the registers they store to
    held before. -/
theorem writeAll_congr (hp : m.page = m'.page)
    (h : ∀ p r, (p, r) ∉ targets m.page ws → m.regs p r = m'.regs p r) :
    m.writeAll ws = m'.writeAll ws := by
  induction ws generalizing m m' with
  | nil => exact Paged.ext hp (funext fun p => funext fun r => h p r List.not_mem_nil)
  | cons w ws ih =>
    rw [writeAll_cons, writeAll_cons]
    cases w with
    | select q => exact ih rfl h
    | store r' v =>
      refine ih hp fun p r hpr => ?_
      change (if (p, r) = (m.page, r') then v else _) = if (p, r) = (m'.page, r') then v else _
      rw [hp]
      split_ifs with he
      · rfl
      · exact h p r fun hm => (List.mem_cons.1 hm).elim (fun heq => he (hp ▸ heq)) hpr

/-- Writes after others, which leave the page as it was and only stored to registers
    that are written again. -/
theorem writeAll_writeAll (hp : pageAfter m.page ws = m.page)
    (h : targets m.page ws ⊆ targets m.page ws') :
    (m.writeAll ws).writeAll ws' = m.writeAll ws' := by
  have hp' : (m.writeAll ws).page = m.page := page_writeAll.trans hp
  refine writeAll_congr hp' fun p r hpr => regs_writeAll_of_notMem fun hm => hpr ?_
  rw [hp']
  exact h hm

end Paged

end Sounder

import Sounder.Lib.Paged
import Sounder.Ntp8230.Driver

/-!
# The ntp8230 chip

What the amplifier makes of the messages it accepts: register `0x7E` selects a page,
on any page, and every other register is one of the page selected.

* The initialisation leaves the same registers and page `0`, however often it is run
  on page `0`, muted in between or not (`initialised_initialised`, `muted_initialised`).
* Muting sets three registers of page `0` (`accept_muteRows`).
-/

namespace Sounder.Ntp8230

/-- The registers of the amplifier: of a page, by address. -/
abbrev Regs := UInt8 → UInt8 → List UInt8

/-- The amplifier. -/
abbrev Chip := Paged UInt8 UInt8 (List UInt8)

/-- What a message does. -/
def decode (row : Row) : Write UInt8 UInt8 (List UInt8) :=
  if row.headD 0 = 0x7E then .select (row.getD 1 0) else .store (row.headD 0) row.tail

/-- The amplifier after the messages `rows`. -/
def Chip.accept (c : Chip) (rows : List Row) : Chip := c.writeAll (rows.map decode)

theorem Chip.accept_append (c : Chip) (rows rows' : List Row) :
    c.accept (rows ++ rows') = (c.accept rows).accept rows' := by
  rw [Chip.accept, List.map_append, Paged.writeAll_append]
  rfl

/-- The messages of `ntp8230_init`. -/
def initRows : List Row := initSends.flatten

/-- The messages of `ntp8230_suspend_event`, if the flag is clear. -/
def muteRows : List Row := muteSends.flatten

/-- `InitMap`: the registers after `ntp8230_init`, on page `0`. -/
def initMap (m : Regs) : Regs := (Chip.accept ⟨0, m⟩ initRows).regs

/-- The registers, with the three that mute the amplifier. -/
def muted (m : Regs) : Regs := fun p r =>
  if p = 0 ∧ (r = 0x26 ∨ r = 0x27) then [0x07] else if p = 0 ∧ r = 0x28 then [0x02] else m p r

theorem pageAfter_initRows : Paged.pageAfter 0 (initRows.map decode) = 0 := by decide

theorem pageAfter_muteRows : Paged.pageAfter 0 (muteRows.map decode) = 0 := by decide

/-- The initialisation sets all registers that muting does. -/
theorem targets_muteRows :
    Paged.targets 0 (muteRows.map decode) ⊆ Paged.targets 0 (initRows.map decode) := by decide

theorem accept_initRows (m : Regs) : Chip.accept ⟨0, m⟩ initRows = ⟨0, initMap m⟩ :=
  Paged.ext (Paged.page_writeAll.trans pageAfter_initRows) rfl

/-- The initialisation can be repeated. -/
theorem initialised_initialised (m : Regs) :
    Chip.accept ⟨0, initMap m⟩ initRows = ⟨0, initMap m⟩ := by
  rw [← accept_initRows m]
  exact Paged.writeAll_writeAll pageAfter_initRows (List.Subset.refl _)

/-- Muting sets three registers of page `0`. -/
theorem accept_muteRows (m : Regs) : Chip.accept ⟨0, m⟩ muteRows = ⟨0, muted m⟩ := by
  have hw : muteRows.map decode =
      [.store 0x26 [0x07], .store 0x28 [0x02], .store 0x27 [0x07]] := rfl
  refine Paged.ext rfl (funext fun p => funext fun r => ?_)
  simp only [Chip.accept, hw, Paged.writeAll_cons, Paged.writeAll_nil, Paged.write, muted,
    Prod.mk.injEq]
  grind

theorem muted_muted (m : Regs) : muted (muted m) = muted m := by
  funext p r
  simp only [muted]
  grind

/-- The initialisation un-mutes the amplifier. -/
theorem muted_initialised (m : Regs) :
    Chip.accept ⟨0, muted (initMap m)⟩ initRows = ⟨0, initMap m⟩ := by
  rw [← accept_muteRows]
  exact (Paged.writeAll_writeAll pageAfter_muteRows targets_muteRows).trans
    (initialised_initialised m)

end Sounder.Ntp8230

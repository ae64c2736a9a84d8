import Sounder.Ntp8230.Chip
import Sounder.Ntp8230.Passes

/-!
# The un-mute

Whether the amplifier is ever switched on with a part of its configuration: an
un-mute, one of the two last entries of `ntp8230_init_part4`, accepted after an
earlier message of the same pass was not.

It can be (`not_unmutesComplete`), as `ntp8230_init` drops the results of its sends.
A pass switches the amplifier on with all of its configuration, or does not switch it
on, exactly if the 91 messages before `ntp8230_init_part4` get through, or that table
does not get to its first un-mute (`unmutesComplete_acceptedOf_iff`); and so for the
passes of a run (`unmutesComplete_iff`).
-/

namespace Sounder.Ntp8230

open Retry

/-- The un-mutes of `ntp8230_init_part4`. -/
def unmutes : List Row := [[0x27, 0x00], [0x26, 0x00]]

/-- In a pass of `ntp8230_init`, whatever precedes an un-mute was accepted before it. -/
def UnmutesComplete (p : Pass) : Prop :=
  p.item.work ≠ .suspend → ∀ u ∈ unmutes, ∀ pre post, p.accepted = pre ++ u :: post →
    pre = initRows.takeWhile fun row => row ≠ u

/-- The sends of `ntp8230_init` before `ntp8230_init_part4`. -/
def configSends : List (List Row) := initSends.take 10

theorem initSends_eq : initSends = configSends ++ [initPart4] := rfl

theorem length_configSends : configSends.flatten.length = 91 := rfl

/-- The configuration gets through, or `ntp8230_init_part4` does not get to its first
    un-mute. -/
def ConfiguresFirst (results : Stream' ℤ) : Prop :=
  Delivers 3 91 results ∨ ¬Delivers 3 7 (restEach 3 configSends results)

instance (results : Stream' ℤ) : Decidable (ConfiguresFirst results) :=
  inferInstanceAs (Decidable (_ ∨ _))

/-- What a pass gets accepted. -/
theorem accepted_initSends (results : Stream' ℤ) :
    Retry.accepted (attemptsEach 3 initSends results) =
      Retry.accepted (attemptsEach 3 configSends results) ++
        initPart4.take (count 3 8 (restEach 3 configSends results)) := by
  have hlen : initPart4.length = 8 := rfl
  rw [initSends_eq, attemptsEach_append, Retry.accepted_append, attemptsEach_singleton,
    accepted_attempts, hlen]

/-- The un-mutes are no part of the configuration. -/
theorem unmutes_notMem : ∀ u ∈ unmutes, u ∉ configSends.flatten ++ initPart4.take 6 := by decide

/-- Before an un-mute, there is no other one like it. -/
theorem count_unmutes : ∀ u ∈ unmutes, initRows.count u = 1 := by decide

/-- What precedes a message in a list that has it once. -/
theorem takeWhile_eq_of_count {l pre : List Row} {u : Row} (post : List Row)
    (h : l.count u = 1) (he : l = pre ++ u :: post) :
    (l.takeWhile fun row => row ≠ u) = pre := by
  have hpre : u ∉ pre := by
    rw [he, List.count_append, List.count_cons_self] at h
    exact List.count_eq_zero.1 (by omega)
  rw [he, List.takeWhile_append_of_pos, List.takeWhile_cons_of_neg (by simp), List.append_nil]
  intro row hrow
  exact decide_eq_true fun hu => hpre (hu ▸ hrow)

/-- A pass that gets to an un-mute has its configuration accepted exactly if this gets
    through. -/
theorem unmutesComplete_acceptedOf_iff (i : Item) (results : Stream' ℤ) :
    UnmutesComplete ⟨i, acceptedOf i results⟩ ↔
      (i.work ≠ .suspend → ConfiguresFirst results) := by
  refine forall_congr' fun hw => ?_
  have hacc : acceptedOf i results = Retry.accepted (attemptsEach 3 initSends results) := by
    rw [acceptedOf]
    cases hi : i.work with
    | suspend => exact absurd hi hw
    | _ => rfl
  rw [hacc, accepted_initSends, ConfiguresFirst, ← length_configSends,
    ← accepted_attemptsEach_eq_iff]
  have hsub := accepted_attemptsEach_sublist (n := 3) configSends results
  generalize Retry.accepted (attemptsEach 3 configSends results) = conf at hsub ⊢
  rw [← lt_count_iff (k := 8) (by decide)]
  have hle : count 3 8 (restEach 3 configSends results) ≤ 8 := count_le
  generalize count 3 8 (restEach 3 configSends results) = c at hle ⊢
  constructor
  · intro h
    refine or_iff_not_imp_right.2 fun hc => ?_
    -- the first un-mute is accepted, after the configuration and six entries
    have hc : c = 7 ∨ c = 8 := by omega
    have hpre := h [0x27, 0x00] (by decide) (conf ++ initPart4.take 6) (initPart4.take c |>.drop 7)
      (by rcases hc with rfl | rfl <;> simp [initPart4])
    exact List.append_cancel_right (hpre.trans (by decide))
  · intro h u hu pre post he
    rcases h with rfl | hc
    · refine (takeWhile_eq_of_count (post ++ initPart4.drop c) (count_unmutes u hu) ?_).symm
      rw [← List.cons_append, ← List.append_assoc, ← he, List.append_assoc, List.take_append_drop]
      rfl
    · have hmem : u ∈ conf ++ initPart4.take c := by
        rw [show conf ++ initPart4.take c = _ from he]
        simp
      refine absurd ?_ (unmutes_notMem u hu)
      rw [List.mem_append] at hmem ⊢
      exact hmem.imp (fun hm => hsub.subset hm) fun hm =>
        List.take_subset_take_left _ (by omega) hm

/-- The passes of a run only switch the amplifier on with all of its configuration,
    exactly if each of them configures it first. -/
theorem unmutesComplete_iff {client : Client} {results : Stream' ℤ} {pins : Pin → Bool}
    {is : List Item} {s : Passes} (hrun : (itemMachine client results pins).Run is s) :
    (∀ p ∈ s.passes, UnmutesComplete p) ↔
      (itemMachine client results pins).Meets
        (fun s i => i.work ≠ .suspend → ConfiguresFirst s.drv.board.results) is :=
  forall_passes_iff unmutesComplete_acceptedOf_iff hrun

/-- An initialisation, a suspend and a resume, without failures. -/
theorem unmutesComplete_steady :
    ∃ s, (itemMachine 0 (Stream'.const 1) fun _ => false).Run
      [⟨.init, false⟩, ⟨.suspend, false⟩, ⟨.resume, false⟩] s ∧
      ((∀ p ∈ s.passes, UnmutesComplete p) ↔
        (itemMachine 0 (Stream'.const 1) fun _ => false).Meets
          (fun s i => i.work ≠ .suspend → ConfiguresFirst s.drv.board.results)
          [⟨.init, false⟩, ⟨.suspend, false⟩, ⟨.resume, false⟩]) := by
  obtain ⟨s, hs⟩ := Machine.exists_run (itemMachine 0 (Stream'.const 1) fun _ => false)
    [⟨.init, false⟩, ⟨.suspend, false⟩, ⟨.resume, false⟩] (by decide)
  exact ⟨s, hs, unmutesComplete_iff hs⟩

/-- A bus on which the first message is refused, and all others are accepted. -/
def firstRefused : Stream' ℤ := fun i => if i < 3 then -121 else 1

/-- The first entry of `ntp8230_init_part1` is refused: the pass goes on, and switches
    the amplifier on. -/
theorem not_unmutesComplete :
    ∃ s, (itemMachine 0 firstRefused fun _ => false).Run [⟨.init, false⟩] s ∧
      ¬∀ p ∈ s.passes, UnmutesComplete p := by
  obtain ⟨s, hs⟩ := Machine.exists_run (itemMachine 0 firstRefused fun _ => false)
    [⟨.init, false⟩] (by decide)
  refine ⟨s, hs, fun h => ?_⟩
  have hm := (forall_passes_iff unmutesComplete_acceptedOf_iff hs).1 h
  have hconf : ConfiguresFirst firstRefused := hm [] ⟨.init, false⟩ [] _ rfl .init (by decide)
  exact absurd hconf (by decide +kernel)

end Sounder.Ntp8230

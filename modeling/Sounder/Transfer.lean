import Sounder.Npca110.Driver
import Sounder.Ntp8230.Driver

/-!
# The senders

`Npca110_SendCmd`, `ntp8230_SendCmd` and `ntp8230_Send5Cmd` are the same loop over
the groups of a list of bytes, with groups of 3, 2 and 5 bytes; the first of them
also waits after some groups.

What each puts on the bus is a `Retry.Rounds` (`Sender.send_rounds`): the groups are
attempted in order, three times at most each, up to the first that is refused three
times in a row, whatever the list and the results of the transfers.
-/

namespace Sounder

open Retry

/-- The senders of the two drivers. -/
inductive Sender
  /-- `Npca110_SendCmd`. -/
  | npca110SendCmd
  /-- `ntp8230_SendCmd`. -/
  | ntp8230SendCmd
  /-- `ntp8230_Send5Cmd`. -/
  | ntp8230Send5Cmd

namespace Sender

/-- The size of a group. -/
def size : Sender → ℕ
  | npca110SendCmd => 3
  | ntp8230SendCmd => 2
  | ntp8230Send5Cmd => 5

/-- The call of a sender. -/
def send : Sender → List UInt8 → Client → Board → ℤ × Board
  | npca110SendCmd => Npca110.sendCmd
  | ntp8230SendCmd => Ntp8230.sendCmd
  | ntp8230Send5Cmd => Ntp8230.send5Cmd

end Sender

/-- The group `j` of a list: its bytes from `j * k` to `j * k + k - 1`. -/
def group (k : ℕ) (l : List UInt8) (j : ℕ) : List UInt8 := (l.drop (j * k)).take k

theorem groups_eq_map (k n : ℕ) (l : List UInt8) :
    groups k n l = (List.range n).map (group k l) := by
  induction n generalizing l with
  | zero => rfl
  | succ n ih =>
    rw [groups, ih, List.range_succ_eq_map, List.map_cons, List.map_map]
    congr 1
    · rw [group, Nat.zero_mul, List.drop_zero]
    · refine List.map_congr_left fun j _ => ?_
      rw [group, Function.comp_apply, group, List.drop_drop, Nat.succ_mul, Nat.add_comm]

/-- A group of a list holds `k` bytes, unless it is past the last whole one. -/
theorem length_group {k j : ℕ} {l : List UInt8} (hj : j < l.length / k) :
    (group k l j).length = k := by
  have hmul : (j + 1) * k ≤ l.length := calc
    (j + 1) * k ≤ l.length / k * k := Nat.mul_le_mul_right k hj
    _ ≤ l.length := Nat.div_mul_le_self _ _
  rw [Nat.succ_mul] at hmul
  rw [group, List.length_take, List.length_drop]
  omega

/-- The transfers of a trace: whom they are for, what they carry and their result. -/
def busAttempts (t : List Event) : List (Client × List UInt8 × ℤ) :=
  t.filterMap fun
    | .transfer client buf ret => some (client, buf, ret)
    | _ => none

@[simp] theorem busAttempts_append (t t' : List Event) :
    busAttempts (t ++ t') = busAttempts t ++ busAttempts t' :=
  List.filterMap_append

@[simp] theorem busAttempts_udelay (usecs : ℕ) : busAttempts [.udelay usecs] = [] := rfl

@[simp] theorem busAttempts_transfers (client : Client) (t : List (List UInt8 × ℤ)) :
    busAttempts (transfers client t) = t.map (client, ·) := by
  rw [busAttempts, transfers, List.filterMap_map, ← List.filterMap_eq_map]
  rfl

theorem Npca110.busAttempts_sendEvents (client : Client) (pll : Bool) (ws : List (List UInt8))
    (s : Stream' ℤ) :
    busAttempts (sendEvents client pll ws s) = (attempts 3 ws s).map (client, ·) := by
  induction ws generalizing pll s with
  | nil => rfl
  | cons w ws ih =>
    have hpll : busAttempts (if pll then [.udelay 250] else []) = [] := by cases pll <;> rfl
    rw [sendEvents, attempts, busAttempts_append, busAttempts_append, hpll, busAttempts_transfers,
      List.append_nil, List.map_append]
    congr 1
    split_ifs
    · exact ih _ _
    · rfl

namespace Sender

variable (x : Sender) (l : List UInt8) (client : Client) (b : Board)

theorem send_fst :
    (x.send l client b).1 = if Delivers 3 (l.length / x.size) b.results then 0 else -1 := by
  cases x
  · rw [send, Npca110.sendCmd_eq, size]
  · rw [send, Ntp8230.sendCmd, Ntp8230.sendLoop_eq, size]
  · rw [send, Ntp8230.send5Cmd, Ntp8230.sendLoop_eq, size]

theorem results_send :
    (x.send l client b).2.results = restAll 3 (l.length / x.size) b.results := by
  cases x
  · rw [send, Npca110.results_sendCmd, size]
  · rw [send, Ntp8230.sendCmd, Ntp8230.sendLoop_eq, Board.sent, length_groups, size]
  · rw [send, Ntp8230.send5Cmd, Ntp8230.sendLoop_eq, Board.sent, length_groups, size]

theorem busAttempts_send :
    busAttempts (x.send l client b).2.trace = busAttempts b.trace ++
      (attempts 3 (groups x.size (l.length / x.size) l) b.results).map (client, ·) := by
  cases x
  · rw [send, Npca110.trace_sendCmd, busAttempts_append, Npca110.busAttempts_sendEvents]
    rfl
  · rw [send, Ntp8230.sendCmd, Ntp8230.sendLoop_eq, Board.sent, busAttempts_append,
      busAttempts_transfers]
    rfl
  · rw [send, Ntp8230.send5Cmd, Ntp8230.sendLoop_eq, Board.sent, busAttempts_append,
      busAttempts_transfers]
    rfl

end Sender

/-- The messages accepted are those of the transfers accepted. -/
theorem accepted_eq_busAttempts (t : List Event) :
    accepted t = Retry.accepted ((busAttempts t).map Prod.snd) := by
  rw [accepted, Retry.accepted, busAttempts, List.filterMap_map, List.filterMap_filterMap]
  refine List.filterMap_congr fun e _ => ?_
  rcases e with _ | _ | _ | _ <;> rfl

/-- **Reliable, ordered transfer.** Whatever the list and the results of the transfers,
    a call of a sender attempts the groups of the list in order, each at most three times
    and until it is accepted, and each but the first only after the one before was
    accepted. The groups accepted are therefore the first ones; the call returns `0`
    exactly if they are all of them, and else `-1`, after three refusals of the first
    group not accepted. -/
theorem Sender.send_rounds (x : Sender) (l : List UInt8) (client : Client) (b : Board) :
    ∃ y : Rounds 3 (l.length / x.size),
      busAttempts (x.send l client b).2.trace =
        busAttempts b.trace ++ (y.attempts (group x.size l)).map (client, ·) ∧
      (y.attempts (group x.size l)).map Prod.snd ++ₛ (x.send l client b).2.results = b.results ∧
      (∀ j < y.attempted, (group x.size l j).length = x.size ∧ (y.answers j).length ≤ 3) ∧
      accepted (x.send l client b).2.trace =
        accepted b.trace ++ (List.range y.done).map (group x.size l) ∧
      ((x.send l client b).1 = 0 ↔ y.done = l.length / x.size) ∧
      ((x.send l client b).1 ≠ 0 → (x.send l client b).1 = -1 ∧ y.attempted = y.done + 1 ∧
        (y.answers y.done).length = 3 ∧ ∀ r ∈ y.answers y.done, r < 0) := by
  obtain ⟨y, hdone, hy⟩ := exists_rounds 3 (l.length / x.size) b.results
  have hattempts : attempts 3 (groups x.size (l.length / x.size) l) b.results =
      y.attempts (group x.size l) := by
    rw [groups_eq_map, attempts_map_range, Rounds.attempts, Rounds.attempted, hdone]
    refine List.flatMap_congr fun j hj => ?_
    rw [hy j]
    rwa [Rounds.attempted, hdone, ← List.mem_range]
  have hzero : (x.send l client b).1 = 0 ↔ y.done = l.length / x.size := by
    rw [x.send_fst, hdone, count_eq_iff]
    split_ifs with h
    · exact iff_of_true rfl h
    · exact iff_of_false (by decide) h
  refine ⟨y, ?_, ?_, ?_, ?_, hzero, ?_⟩
  · rw [x.busAttempts_send, hattempts]
  · rw [← hattempts, x.results_send]
    exact attempts_append_restAll (length_groups _ _ l)
  · exact fun j hj => ⟨length_group (Nat.lt_min.1 hj).2, y.length_answers_le hj⟩
  · have hids (t : List (List UInt8 × ℤ)) : (t.map (client, ·)).map Prod.snd = t := by
      rw [List.map_map]
      exact List.map_id t
    rw [accepted_eq_busAttempts, x.busAttempts_send, List.map_append, Retry.accepted_append,
      ← accepted_eq_busAttempts, hids, accepted_attempts, length_groups, groups_eq_map,
      ← List.map_take, List.take_range, hdone, min_eq_left count_le]
  · intro hne
    have hlt : y.done < l.length / x.size := lt_of_le_of_ne y.done_le (mt hzero.2 hne)
    have hans : y.answers y.done = y.refusals y.done := if_neg (Nat.lt_irrefl _)
    rw [hans]
    refine ⟨?_, min_eq_left hlt, y.length_eq hlt, y.refusals_neg _⟩
    rw [x.send_fst] at hne ⊢
    split_ifs at hne ⊢
    · exact absurd rfl hne
    · rfl

end Sounder

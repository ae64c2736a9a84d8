import Sounder.Npca110.Chip
import Sounder.Transfer

/-!
# The settling of the PLL

A PLL command is followed by a data word, and the chip needs a delay after both.
`Npca110_SendCmd` delays after the word that follows a PLL command: the flag of the
loop says, at each word, whether the word before was one (`sendEvents_map_range`).

The flag is local to a call. A list of words sent in several calls is still sent
with the delays of one call, if no call ends with a PLL command (`trace_sendAll`):
the flag is clear then at the end of the call, as it is at the start of the next.
-/

namespace Sounder.Npca110

open Retry

/-- The PLL commands, with which a delay is due. -/
def pllWords : List Word := [[0xFF, 0xAB, 0xFB], [0xFF, 0xAB, 0xFA]]

theorem isPllCmd_iff {w : Word} : isPllCmd w = true ↔ w ∈ pllWords := by
  rcases w with _ | ⟨a, _ | ⟨b, _ | ⟨c, _ | ⟨d, w⟩⟩⟩⟩ <;>
    simp [isPllCmd, pllWords]
  constructor
  · rintro ⟨⟨rfl, rfl⟩, rfl | rfl⟩
    · exact .inl ⟨rfl, rfl, rfl⟩
    · exact .inr ⟨rfl, rfl, rfl⟩
  · rintro (⟨rfl, rfl, rfl⟩ | ⟨rfl, rfl, rfl⟩)
    · exact ⟨⟨rfl, rfl⟩, .inl rfl⟩
    · exact ⟨⟨rfl, rfl⟩, .inr rfl⟩

/-! ## One call -/

/-- The flag at the send of the word `j`: the word before it was a PLL command. -/
def pllAt (pll : Bool) (g : ℕ → Word) : ℕ → Bool
  | 0 => pll
  | j + 1 => isPllCmd (g j)

/-- What a call makes of the word `w`: its attempts, and a delay if the flag is set. -/
def wordEvents (client : Client) (pll : Bool) (w : Word) (answers : List ℤ) : List Event :=
  transfers client (answers.map (w, ·)) ++ if pll then [.udelay 250] else []

theorem sendEvents_map_range (client : Client) (pll : Bool) (g : ℕ → Word) (k : ℕ)
    (s : Stream' ℤ) :
    sendEvents client pll ((List.range k).map g) s =
      (List.range (min (count 3 k s + 1) k)).flatMap fun j =>
        wordEvents client (pllAt pll g j) (g j) (tries 3 (restAll 3 j s)) := by
  induction k generalizing pll g s with
  | zero => rfl
  | succ k ih =>
    rw [List.range_succ_eq_map, List.map_cons, List.map_map, sendEvents, count]
    by_cases ha : Accepts 3 s
    · rw [if_pos ha, if_pos ha, Nat.add_min_add_right, List.range_succ_eq_map, List.flatMap_cons,
        List.flatMap_map, ih]
      congr 1
      refine List.flatMap_congr fun j _ => ?_
      rw [restAll, if_pos ha]
      -- the flag at the word `j` of the rest is that at the word `j + 1`
      cases j <;> rfl
    · rw [if_neg ha, if_neg ha, Nat.zero_add, min_eq_left (Nat.succ_le_succ (Nat.zero_le k))]
      cases pll <;> simp [restAll, wordEvents, pllAt]

/-! ## Consecutive calls -/

/-- The flag after the words `ws`, if it was `pll` before them. -/
def pllAfter (pll : Bool) (ws : List Word) : Bool := (ws.getLast?.map isPllCmd).getD pll

theorem pllAfter_cons (pll : Bool) (w : Word) (ws : List Word) :
    pllAfter pll (w :: ws) = pllAfter (isPllCmd w) ws := by
  rw [pllAfter, pllAfter, List.getLast?_cons]
  cases ws.getLast? <;> rfl

/-- Words that get through, and others after them. -/
theorem sendEvents_append (client : Client) (pll : Bool) {ws : List Word} (ws' : List Word)
    {s : Stream' ℤ} (h : Delivers 3 ws.length s) :
    sendEvents client pll (ws ++ ws') s = sendEvents client pll ws s ++
      sendEvents client (pllAfter pll ws) ws' (restAll 3 ws.length s) := by
  induction ws generalizing pll s with
  | nil => rfl
  | cons w ws ih =>
    obtain ⟨ha, h⟩ := h
    rw [List.cons_append, sendEvents, sendEvents, if_pos ha, if_pos ha, ih _ h, pllAfter_cons,
      List.length_cons, restAll, if_pos ha]
    simp only [List.append_assoc]

/-- Consecutive calls of `Npca110_SendCmd`, one for each list of words. -/
def sendAll (client : Client) (tables : List (List Word)) (b : Board) : Board :=
  tables.foldl (fun b ws => (sendCmd ws.flatten client b).2) b

/-- No list but the last ends with a PLL command; one without words ends as those before it. -/
def CutsSettled (tables : List (List Word)) : Prop :=
  ∀ i < tables.length, ∀ w ∈ (tables.take i).flatten.getLast?, w ∉ pllWords

instance (tables : List (List Word)) : Decidable (CutsSettled tables) :=
  inferInstanceAs (Decidable (∀ i < tables.length, _))

theorem CutsSettled.tail {ws : List Word} {tables : List (List Word)}
    (h : CutsSettled (ws :: tables)) : CutsSettled tables := by
  intro i hi w hw
  refine h (i + 1) (Nat.succ_lt_succ hi) w ?_
  rw [Option.mem_def] at hw ⊢
  rw [List.take_succ_cons, List.flatten_cons, List.getLast?_append, hw]
  rfl

/-- The flag is clear after a list of words that another follows. -/
theorem CutsSettled.pllAfter {ws ws' : List Word} {tables : List (List Word)}
    (h : CutsSettled (ws :: ws' :: tables)) : pllAfter false ws = false := by
  rw [Npca110.pllAfter]
  cases hw : ws.getLast? with
  | none => rfl
  | some w =>
    have hne : w ∉ pllWords := h 1 (by simp) w (by simpa using hw)
    rwa [← isPllCmd_iff, Bool.not_eq_true] at hne

theorem length_flatten_words {ws : List Word} (hw : ∀ w ∈ ws, w.length = 3) :
    ws.flatten.length / 3 = ws.length := by
  rw [← length_groups 3 (ws.flatten.length / 3) ws.flatten, groups_flatten (Nat.succ_pos 2) hw]

theorem sendCmd_flatten {ws : List Word} (hw : ∀ w ∈ ws, w.length = 3) (client : Client)
    (b : Board) :
    (sendCmd ws.flatten client b).2 =
      { b with
        results := restAll 3 ws.length b.results
        trace := b.trace ++ sendEvents client false ws b.results } := by
  rw [sendCmd_eq, words, groups_flatten (Nat.succ_pos 2) hw, length_flatten_words hw]

/-- Words sent in several calls, on a bus without failures, are sent as in one call. -/
theorem trace_sendAll (client : Client) {tables : List (List Word)} (b : Board)
    (hw : ∀ w ∈ tables.flatten, w.length = 3) (hcut : CutsSettled tables)
    (hb : Steady b.results) :
    (sendAll client tables b).trace =
      b.trace ++ sendEvents client false tables.flatten b.results := by
  induction tables generalizing b with
  | nil => simp [sendAll, sendEvents]
  | cons ws tables ih =>
    obtain ⟨hws, hw⟩ := List.forall_mem_append.1 hw
    have hflag : sendEvents client (pllAfter false ws) tables.flatten
          (restAll 3 ws.length b.results) =
        sendEvents client false tables.flatten (restAll 3 ws.length b.results) := by
      cases tables with
      | nil => rfl
      | cons ws' tables => rw [hcut.pllAfter]
    have hrest := ih (sendCmd ws.flatten client b).2 hw hcut.tail (by
      rw [sendCmd_flatten hws]
      exact hb.restAll)
    rw [sendAll, List.foldl_cons, ← sendAll, hrest, sendCmd_flatten hws, List.flatten_cons,
      sendEvents_append client false _ (hb.delivers (Nat.succ_pos 2)), hflag, List.append_assoc]

/-- **The settling delay.** In every call, whatever the results of the transfers, the
    attempts at a word are followed by a delay exactly if the word before it is a PLL
    command. On a bus without failures, words sent in consecutive calls, none of which
    but the last ends with a PLL command, are sent exactly as in one call. -/
theorem sendCmd_settles :
    (∀ (l : List UInt8) (client : Client) (b : Board), ∃ y : Rounds 3 (l.length / 3),
      y.done = count 3 (l.length / 3) b.results ∧
      (sendCmd l client b).2.trace = b.trace ++ (List.range y.attempted).flatMap fun j =>
        transfers client ((y.answers j).map (group 3 l j, ·)) ++
          if 1 ≤ j ∧ group 3 l (j - 1) ∈ pllWords then [.udelay 250] else []) ∧
    ∀ (client : Client) (tables : List (List Word)) (b : Board),
      (∀ w ∈ tables.flatten, w.length = 3) → CutsSettled tables → Steady b.results →
      (sendAll client tables b).trace = (sendCmd tables.flatten.flatten client b).2.trace := by
  constructor
  · intro l client b
    obtain ⟨y, hdone, hy⟩ := exists_rounds 3 (l.length / 3) b.results
    refine ⟨y, hdone, ?_⟩
    rw [trace_sendCmd, words, groups_eq_map, sendEvents_map_range, ← hdone, ← Rounds.attempted]
    congr 1
    refine List.flatMap_congr fun j hj => ?_
    rw [hy j (List.mem_range.1 hj), wordEvents]
    congr 1
    cases j with
    | zero => rfl
    | succ j => simp only [pllAt, isPllCmd_iff, Nat.succ_sub_one, Nat.le_add_left, true_and]
  · intro client tables b hw hcut hb
    rw [trace_sendAll client b hw hcut hb, sendCmd_flatten hw]

/-- The configuration and a route, sent in two calls and in one. -/
theorem sendCmd_settles_tables :
    let tables := [words maxxAudioCmdMusic1Full, words (adcWay true)]
    let b : Board := ⟨Stream'.const 1, [], fun _ => false⟩
    CutsSettled tables ∧
      (sendAll 0 tables b).trace = (sendCmd tables.flatten.flatten 0 b).2.trace := by
  intro tables b
  have hw : ∀ w ∈ tables.flatten, w.length = 3 := by decide +kernel
  have hcut : CutsSettled tables := by decide +kernel
  exact ⟨hcut, sendCmd_settles.2 0 tables b hw hcut (steady_const Int.one_nonneg)⟩

end Sounder.Npca110

import Mathlib.Data.Stream.Init
import Mathlib.Data.List.Basic
import Mathlib.Data.Int.Order.Basic

/-!
# Sending with retries

A sender puts messages, one after the other, on a medium that answers each
attempt with an integer: a negative one is a refusal, any other an acceptance.
A message is attempted at most `n` times, until it is accepted; the sender gives
up at the first message refused `n` times in a row.

The answers still to come are a stream. Everything the sender does is a
function of it:

* `tries n s`: the answers to one message, and `rest n s`, those left after it;
* `Accepts n s`: one of the first `n` answers is an acceptance;
* `attempts n ms s`: the attempts at the messages `ms`, and `restAll n k s`, the
  answers left after `k` messages;
* `Delivers n k s`: `k` messages get through, that is, no `n` refusals in a row
  come before the `k`-th acceptance;
* `Rounds n k`: the answers message by message, of which the attempts are made up
  (`attempts_map_range`);
* `attemptsEach n mss s`: the attempts at several lists of messages, where a sender
  that gives up does not stop the next.

The messages accepted are a prefix of those sent (`accepted_attempts`), and all
of them exactly when they get through (`accepted_attempts_eq_iff`).
-/

namespace Sounder.Retry

variable {μ : Type*} {n k : ℕ} {s : Stream' ℤ}

/-! ## One message -/

/-- The answers to one message, attempted at most `n` times. -/
def tries : ℕ → Stream' ℤ → List ℤ
  | 0, _ => []
  | n + 1, s => s.head :: if s.head < 0 then tries n s.tail else []

/-- The answers left after one message, attempted at most `n` times. -/
def rest (n : ℕ) (s : Stream' ℤ) : Stream' ℤ := s.drop (tries n s).length

/-- One of the first `n` answers is an acceptance. -/
def Accepts (n : ℕ) (s : Stream' ℤ) : Prop := ∃ i < n, 0 ≤ s.get i

instance (n : ℕ) (s : Stream' ℤ) : Decidable (Accepts n s) :=
  inferInstanceAs (Decidable (∃ i < n, 0 ≤ s.get i))

@[simp] theorem not_accepts_zero : ¬Accepts 0 s := fun ⟨_, h, _⟩ => Nat.not_lt_zero _ h

theorem accepts_succ : Accepts (n + 1) s ↔ 0 ≤ s.head ∨ Accepts n s.tail := by
  constructor
  · rintro ⟨i, hi, h⟩
    cases i with
    | zero => exact .inl h
    | succ i => exact .inr ⟨i, Nat.lt_of_succ_lt_succ hi, h⟩
  · rintro (h | ⟨i, hi, h⟩)
    · exact ⟨0, Nat.succ_pos n, h⟩
    · exact ⟨i + 1, Nat.succ_lt_succ hi, h⟩

theorem tries_of_neg (h : s.head < 0) : tries (n + 1) s = s.head :: tries n s.tail := by
  rw [tries, if_pos h]

theorem tries_of_nonneg (h : 0 ≤ s.head) : tries (n + 1) s = [s.head] := by
  rw [tries, if_neg (not_lt.2 h)]

theorem rest_of_neg (h : s.head < 0) : rest (n + 1) s = rest n s.tail := by
  rw [rest, tries_of_neg h, List.length_cons, rest, Stream'.drop_tail']

theorem rest_of_nonneg (h : 0 ≤ s.head) : rest (n + 1) s = s.tail := by
  rw [rest, tries_of_nonneg h, List.length_singleton, Stream'.tail_eq_drop]

/-- The answers to a message are refusals, followed by an acceptance if it gets one. -/
theorem tries_eq : ∃ fails : List ℤ, (∀ r ∈ fails, r < 0) ∧
    if Accepts n s then ∃ r, 0 ≤ r ∧ fails.length < n ∧ tries n s = fails ++ [r]
    else fails.length = n ∧ tries n s = fails := by
  induction n generalizing s with
  | zero => exact ⟨[], by simp [tries]⟩
  | succ n ih =>
    rcases lt_or_ge s.head 0 with h | h
    · obtain ⟨fails, hneg, hf⟩ := ih (s := s.tail)
      refine ⟨s.head :: fails, List.forall_mem_cons.2 ⟨h, hneg⟩, ?_⟩
      have hacc : Accepts (n + 1) s ↔ Accepts n s.tail := by
        rw [accepts_succ, or_iff_right (not_le.2 h)]
      rw [tries_of_neg h]
      by_cases ha : Accepts n s.tail
      · rw [if_pos ha] at hf
        obtain ⟨r, hr, hlt, he⟩ := hf
        rw [if_pos (hacc.2 ha)]
        exact ⟨r, hr, Nat.succ_lt_succ hlt, by rw [he, List.cons_append]⟩
      · rw [if_neg ha] at hf
        rw [if_neg fun ha' => ha (hacc.1 ha')]
        exact ⟨by rw [List.length_cons, hf.1], by rw [hf.2]⟩
    · refine ⟨[], by simp, ?_⟩
      rw [if_pos (accepts_succ.2 (.inl h)), tries_of_nonneg h]
      exact ⟨s.head, h, Nat.succ_pos n, rfl⟩

/-! ## Several messages -/

/-- The attempts at the messages `ms`, each made at most `n` times. -/
def attempts (n : ℕ) : List μ → Stream' ℤ → List (μ × ℤ)
  | [], _ => []
  | m :: ms, s =>
    (tries n s).map (m, ·) ++ if Accepts n s then attempts n ms (rest n s) else []

/-- The answers left after `k` messages, each attempted at most `n` times. -/
def restAll (n : ℕ) : ℕ → Stream' ℤ → Stream' ℤ
  | 0, s => s
  | k + 1, s => if Accepts n s then restAll n k (rest n s) else rest n s

/-- `k` messages, each attempted at most `n` times, get through. -/
def Delivers (n : ℕ) : ℕ → Stream' ℤ → Prop
  | 0, _ => True
  | k + 1, s => Accepts n s ∧ Delivers n k (rest n s)

instance decidableDelivers (n : ℕ) : ∀ k s, Decidable (Delivers n k s)
  | 0, _ => .isTrue trivial
  | k + 1, s =>
    haveI := decidableDelivers n k (rest n s)
    inferInstanceAs (Decidable (Accepts n s ∧ Delivers n k (rest n s)))

/-- The number of messages accepted, out of `k`. -/
def count (n : ℕ) : ℕ → Stream' ℤ → ℕ
  | 0, _ => 0
  | k + 1, s => if Accepts n s then count n k (rest n s) + 1 else 0

@[simp] theorem delivers_zero : Delivers n 0 s := trivial

theorem delivers_succ : Delivers n (k + 1) s ↔ Accepts n s ∧ Delivers n k (rest n s) := Iff.rfl

theorem count_le : count n k s ≤ k := by
  induction k generalizing s with
  | zero => exact le_rfl
  | succ k ih =>
    rw [count]
    split_ifs
    · exact Nat.succ_le_succ ih
    · exact Nat.zero_le _

/-- Out of `k` messages, more than `j` are accepted exactly when `j + 1` get through. -/
theorem lt_count_iff {j : ℕ} (hj : j < k) : j < count n k s ↔ Delivers n (j + 1) s := by
  induction k generalizing j s with
  | zero => exact absurd hj (Nat.not_lt_zero j)
  | succ k ih =>
    rw [count, delivers_succ]
    by_cases ha : Accepts n s
    · rw [if_pos ha, and_iff_right ha]
      cases j with
      | zero => simp
      | succ j => rw [Nat.succ_lt_succ_iff, ih (Nat.lt_of_succ_lt_succ hj)]
    · simp [ha]

theorem count_eq_iff : count n k s = k ↔ Delivers n k s := by
  cases k with
  | zero => simp [count]
  | succ k =>
    rw [← lt_count_iff (Nat.lt_succ_self k)]
    exact ⟨fun h => by rw [h]; exact Nat.lt_succ_self k, fun h => le_antisymm count_le h⟩

/-- Getting `j + k` messages through is getting `j` through, then `k`. -/
theorem delivers_add {j : ℕ} :
    Delivers n (j + k) s ↔ Delivers n j s ∧ Delivers n k (restAll n j s) := by
  induction j generalizing s with
  | zero => simp [restAll]
  | succ j ih =>
    rw [Nat.succ_add, delivers_succ, delivers_succ, restAll, ih]
    by_cases ha : Accepts n s <;> simp [ha]

/-! ## What is accepted -/

/-- The messages accepted in some attempts. -/
def accepted (t : List (μ × ℤ)) : List μ :=
  t.filterMap fun a => if 0 ≤ a.2 then some a.1 else none

@[simp] theorem accepted_append (t t' : List (μ × ℤ)) :
    accepted (t ++ t') = accepted t ++ accepted t' :=
  List.filterMap_append

theorem accepted_map_of_neg {m : μ} {rs : List ℤ} (h : ∀ r ∈ rs, r < 0) :
    accepted (rs.map (m, ·)) = [] := by
  rw [accepted, List.filterMap_eq_nil_iff]
  rintro ⟨_, r⟩ ha
  obtain ⟨r', hr', he⟩ := List.mem_map.1 ha
  obtain ⟨-, rfl⟩ := Prod.mk.inj he
  exact if_neg (not_le.2 (h _ hr'))

/-- A message is accepted once if one of its attempts is, and otherwise never. -/
theorem accepted_tries {m : μ} :
    accepted ((tries n s).map (m, ·)) = if Accepts n s then [m] else [] := by
  obtain ⟨fails, hneg, hf⟩ := tries_eq (n := n) (s := s)
  by_cases ha : Accepts n s
  · rw [if_pos ha] at hf
    obtain ⟨r, hr, -, he⟩ := hf
    rw [he, List.map_append, accepted_append, accepted_map_of_neg hneg, if_pos ha]
    simp [accepted, hr]
  · rw [if_neg ha] at hf
    rw [hf.2, accepted_map_of_neg hneg, if_neg ha]

/-- The messages accepted are the first ones, as many as get through. -/
theorem accepted_attempts {ms : List μ} :
    accepted (attempts n ms s) = ms.take (count n ms.length s) := by
  induction ms generalizing s with
  | nil => simp [attempts, accepted]
  | cons m ms ih =>
    rw [attempts, accepted_append, accepted_tries, List.length_cons, count]
    by_cases ha : Accepts n s
    · simp [ha, ih]
    · simp [ha, accepted]

theorem accepted_attempts_of_delivers {ms : List μ} (h : Delivers n ms.length s) :
    accepted (attempts n ms s) = ms := by
  rw [accepted_attempts, count_eq_iff.2 h, List.take_length]

/-- All messages are accepted exactly when they get through. -/
theorem accepted_attempts_eq_iff {ms : List μ} :
    accepted (attempts n ms s) = ms ↔ Delivers n ms.length s := by
  refine ⟨fun h => ?_, accepted_attempts_of_delivers⟩
  rw [accepted_attempts] at h
  have hlen := congrArg List.length h
  rw [List.length_take, min_eq_left count_le] at hlen
  exact count_eq_iff.1 hlen

/-! ## Rounds -/

/-- The answers to `k` messages sent one after the other: each is attempted until it is
    accepted, at most `n` times, and the first that is not ends the sending. -/
structure Rounds (n k : ℕ) where
  /-- The number of messages accepted. -/
  done : ℕ
  /-- The refusals of each message. -/
  refusals : ℕ → List ℤ
  /-- The answer with which each message was accepted. -/
  answer : ℕ → ℤ
  done_le : done ≤ k
  refusals_neg : ∀ j, ∀ r ∈ refusals j, r < 0
  /-- A message accepted was refused less than `n` times. -/
  length_lt : ∀ j < done, (refusals j).length < n
  answer_nonneg : ∀ j < done, 0 ≤ answer j
  /-- The first message not accepted was refused `n` times. -/
  length_eq : done < k → (refusals done).length = n

namespace Rounds

/-- The answers to message `j`. -/
def answers (x : Rounds n k) (j : ℕ) : List ℤ :=
  if j < x.done then x.refusals j ++ [x.answer j] else x.refusals j

/-- The number of messages attempted. -/
def attempted (x : Rounds n k) : ℕ := min (x.done + 1) k

/-- The attempts, at the messages `g 0`, `g 1`, … -/
def attempts (x : Rounds n k) (g : ℕ → μ) : List (μ × ℤ) :=
  (List.range x.attempted).flatMap fun j => (x.answers j).map (g j, ·)

/-- Each message is attempted at most `n` times. -/
theorem length_answers_le (x : Rounds n k) {j : ℕ} (hj : j < x.attempted) :
    (x.answers j).length ≤ n := by
  obtain ⟨hlt, hk⟩ := Nat.lt_min.1 hj
  rw [answers]
  split_ifs with hd
  · rw [List.length_append, List.length_singleton]
    exact x.length_lt j hd
  · obtain rfl : j = x.done := by omega
    exact Nat.le_of_eq (x.length_eq hk)

/-- No message. -/
def nil (n : ℕ) : Rounds n 0 where
  done := 0
  refusals _ := []
  answer _ := 0
  done_le := le_rfl
  refusals_neg _ _ hr := absurd hr List.not_mem_nil
  length_lt _ h := absurd h (Nat.not_lt_zero _)
  answer_nonneg _ h := absurd h (Nat.not_lt_zero _)
  length_eq h := absurd h (Nat.lt_irrefl 0)

/-- A message given up, and those not sent after it. -/
def giveUp (k : ℕ) {fails : List ℤ} (hneg : ∀ r ∈ fails, r < 0) (hlen : fails.length = n) :
    Rounds n (k + 1) where
  done := 0
  refusals _ := fails
  answer _ := 0
  done_le := Nat.zero_le _
  refusals_neg _ := hneg
  length_lt _ h := absurd h (Nat.not_lt_zero _)
  answer_nonneg _ h := absurd h (Nat.not_lt_zero _)
  length_eq _ := hlen

/-- A message accepted, and the rounds of those after it. -/
def cons {fails : List ℤ} {r : ℤ} (hneg : ∀ r ∈ fails, r < 0) (hlen : fails.length < n)
    (hr : 0 ≤ r) (x : Rounds n k) : Rounds n (k + 1) where
  done := x.done + 1
  refusals
    | 0 => fails
    | j + 1 => x.refusals j
  answer
    | 0 => r
    | j + 1 => x.answer j
  done_le := Nat.succ_le_succ x.done_le
  refusals_neg
    | 0 => hneg
    | j + 1 => x.refusals_neg j
  length_lt
    | 0, _ => hlen
    | j + 1, h => x.length_lt j (Nat.lt_of_succ_lt_succ h)
  answer_nonneg
    | 0, _ => hr
    | j + 1, h => x.answer_nonneg j (Nat.lt_of_succ_lt_succ h)
  length_eq h := x.length_eq (Nat.lt_of_succ_lt_succ h)

@[simp] theorem attempted_giveUp {fails : List ℤ} (hneg : ∀ r ∈ fails, r < 0)
    (hlen : fails.length = n) : (giveUp k hneg hlen).attempted = 1 :=
  min_eq_left (Nat.succ_le_succ (Nat.zero_le k))

@[simp] theorem answers_giveUp {fails : List ℤ} (hneg : ∀ r ∈ fails, r < 0)
    (hlen : fails.length = n) (j : ℕ) : (giveUp k hneg hlen).answers j = fails :=
  if_neg (Nat.not_lt_zero j)

variable {fails : List ℤ} {r : ℤ} (hneg : ∀ r ∈ fails, r < 0) (hlen : fails.length < n)
  (hr : 0 ≤ r) (x : Rounds n k)

@[simp] theorem attempted_cons : (cons hneg hlen hr x).attempted = x.attempted + 1 :=
  Nat.add_min_add_right (x.done + 1) k 1

@[simp] theorem answers_cons_zero : (cons hneg hlen hr x).answers 0 = fails ++ [r] :=
  if_pos (Nat.succ_pos x.done)

@[simp] theorem answers_cons_succ (j : ℕ) :
    (cons hneg hlen hr x).answers (j + 1) = x.answers j := by
  simp [answers, cons]

end Rounds

/-- What a sender makes of `k` messages is given by rounds: the answers of each message
    attempted are those of `tries`, and there are `count n k s` accepted. -/
theorem exists_rounds (n k : ℕ) (s : Stream' ℤ) :
    ∃ x : Rounds n k, x.done = count n k s ∧
      (∀ j < x.attempted, x.answers j = tries n (restAll n j s)) := by
  induction k generalizing s with
  | zero => exact ⟨.nil n, rfl, fun j h => absurd h (Nat.not_lt_zero j)⟩
  | succ k ih =>
    obtain ⟨fails, hneg, hf⟩ := tries_eq (n := n) (s := s)
    by_cases ha : Accepts n s
    · rw [if_pos ha] at hf
      obtain ⟨r, hr, hlen, he⟩ := hf
      obtain ⟨x, hdone, hx⟩ := ih (rest n s)
      refine ⟨.cons hneg hlen hr x, ?_, ?_⟩
      · rw [count, if_pos ha, ← hdone]
        rfl
      · intro j hj
        rw [Rounds.attempted_cons] at hj
        cases j with
        | zero => rw [Rounds.answers_cons_zero, restAll, he]
        | succ j =>
          rw [Rounds.answers_cons_succ, hx j (Nat.lt_of_succ_lt_succ hj), restAll, if_pos ha]
    · rw [if_neg ha] at hf
      refine ⟨.giveUp k hneg hf.1, by rw [count, if_neg ha]; rfl, ?_⟩
      intro j hj
      obtain rfl : j = 0 := by simpa using hj
      rw [Rounds.answers_giveUp, restAll, hf.2]

/-- A sender attempts the messages of its rounds. -/
theorem attempts_map_range (g : ℕ → μ) :
    attempts n ((List.range k).map g) s =
      (List.range (min (count n k s + 1) k)).flatMap fun j =>
        (tries n (restAll n j s)).map (g j, ·) := by
  induction k generalizing g s with
  | zero => rfl
  | succ k ih =>
    rw [List.range_succ_eq_map, List.map_cons, List.map_map, attempts, count]
    by_cases ha : Accepts n s
    · rw [if_pos ha, if_pos ha, Nat.add_min_add_right, List.range_succ_eq_map, List.flatMap_cons,
        List.flatMap_map, ih]
      simp only [restAll, if_pos ha, Function.comp_apply, Nat.succ_eq_add_one]
    · rw [if_neg ha, if_neg ha, Nat.zero_add, min_eq_left (Nat.succ_le_succ (Nat.zero_le k))]
      simp [restAll]

theorem tries_append_rest : tries n s ++ₛ rest n s = s := by
  induction n generalizing s with
  | zero => rfl
  | succ n ih =>
    rcases lt_or_ge s.head 0 with h | h
    · rw [tries_of_neg h, rest_of_neg h, Stream'.cons_append_stream, ih, Stream'.eta]
    · rw [tries_of_nonneg h, rest_of_nonneg h, Stream'.append_stream_head_tail]

/-- The answers to the attempts are those that come, in order. -/
theorem attempts_append_restAll {ms : List μ} (hk : ms.length = k) :
    (attempts n ms s).map Prod.snd ++ₛ restAll n k s = s := by
  subst hk
  induction ms generalizing s with
  | nil => rfl
  | cons m ms ih =>
    have hm : ((tries n s).map (m, ·)).map Prod.snd = tries n s := by
      rw [List.map_map]
      exact List.map_id _
    rw [attempts, List.map_append, hm, List.length_cons, restAll]
    split_ifs
    · rw [Stream'.append_append_stream, ih, tries_append_rest]
    · rw [List.map_nil, List.append_nil, tries_append_rest]

/-! ## Several senders -/

/-- The attempts at several lists of messages, each with a sender of its own: one that
    gives up does not stop the next. -/
def attemptsEach (n : ℕ) : List (List μ) → Stream' ℤ → List (μ × ℤ)
  | [], _ => []
  | ms :: mss, s => attempts n ms s ++ attemptsEach n mss (restAll n ms.length s)

/-- The answers left after several lists of messages, each with a sender of its own. -/
def restEach (n : ℕ) : List (List μ) → Stream' ℤ → Stream' ℤ
  | [], s => s
  | ms :: mss, s => restEach n mss (restAll n ms.length s)

theorem attemptsEach_singleton {ms : List μ} : attemptsEach n [ms] s = attempts n ms s :=
  List.append_nil _

theorem attemptsEach_append {mss mss' : List (List μ)} :
    attemptsEach n (mss ++ mss') s =
      attemptsEach n mss s ++ attemptsEach n mss' (restEach n mss s) := by
  induction mss generalizing s with
  | nil => rfl
  | cons ms mss ih => simp only [List.cons_append, attemptsEach, restEach, ih, List.append_assoc]

/-- The messages accepted are some of those sent, in order. -/
theorem accepted_attemptsEach_sublist (mss : List (List μ)) (s : Stream' ℤ) :
    (accepted (attemptsEach n mss s)).Sublist mss.flatten := by
  induction mss generalizing s with
  | nil => exact List.Sublist.refl _
  | cons ms mss ih =>
    rw [attemptsEach, accepted_append, accepted_attempts, List.flatten_cons]
    exact (List.take_sublist _ _).append (ih _)

/-- All messages of all senders are accepted exactly when they get through. -/
theorem accepted_attemptsEach_eq_iff {mss : List (List μ)} :
    accepted (attemptsEach n mss s) = mss.flatten ↔ Delivers n mss.flatten.length s := by
  induction mss generalizing s with
  | nil => exact iff_of_true rfl delivers_zero
  | cons ms mss ih =>
    rw [attemptsEach, accepted_append, List.flatten_cons, List.length_append, delivers_add, ← ih,
      ← accepted_attempts_eq_iff]
    constructor
    · intro h
      -- what the other senders get accepted cannot make up for a message missing here
      have hlen := congrArg List.length h
      have hle := (accepted_attemptsEach_sublist (n := n) mss (restAll n ms.length s)).length_le
      rw [List.length_append, List.length_append] at hlen
      have hms : accepted (attempts n ms s) = ms := by
        rw [accepted_attempts] at hlen ⊢
        rw [List.length_take] at hlen
        exact List.take_of_length_le (by omega)
      exact ⟨hms, List.append_cancel_left (hms ▸ h)⟩
    · rintro ⟨h, h'⟩
      rw [h, h']

/-! ## A medium without refusals -/

/-- Every answer is an acceptance. -/
def Steady (s : Stream' ℤ) : Prop := ∀ i, 0 ≤ s.get i

theorem steady_const {r : ℤ} (h : 0 ≤ r) : Steady (Stream'.const r) := fun _ => h

theorem Steady.drop (h : Steady s) (j : ℕ) : Steady (s.drop j) := fun i => by
  rw [Stream'.get_drop]
  exact h _

theorem Steady.rest (h : Steady s) : Steady (rest n s) := h.drop _

theorem Steady.tail (h : Steady s) : Steady s.tail := fun i => h (i + 1)

theorem Steady.accepts (h : Steady s) (hn : 0 < n) : Accepts n s := ⟨0, hn, h 0⟩

theorem Steady.restAll (h : Steady s) : Steady (restAll n k s) := by
  induction k generalizing s with
  | zero => exact h
  | succ k ih =>
    rw [Retry.restAll]
    split_ifs
    · exact ih h.rest
    · exact h.rest

theorem Steady.restEach {mss : List (List μ)} (h : Steady s) : Steady (restEach n mss s) := by
  induction mss generalizing s with
  | nil => exact h
  | cons ms mss ih => exact ih h.restAll

theorem Steady.delivers (h : Steady s) (hn : 0 < n) : Delivers n k s := by
  induction k generalizing s with
  | zero => exact delivers_zero
  | succ k ih => exact ⟨h.accepts hn, ih h.rest⟩

/-- Without refusals, every message of every sender is accepted. -/
theorem Steady.accepted_attemptsEach (h : Steady s) (hn : 0 < n) (mss : List (List μ)) :
    accepted (attemptsEach n mss s) = mss.flatten :=
  accepted_attemptsEach_eq_iff.2 (h.delivers hn)

end Sounder.Retry

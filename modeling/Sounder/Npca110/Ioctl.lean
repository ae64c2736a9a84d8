import Sounder.Npca110.Driver

/-!
# A route command on a failing bus

One call of `npca110_ioctl` that selects an audio input, for every stream of
transfer results. The result of `Npca110_SendCmd` is dropped: a call that gets the
semaphore sets the flag and the pin and returns `0`, however many words of the table
were accepted (`ioctl_command`). A call that finds the count of the semaphore at `0`
waits, and does not return unless a signal interrupts it.

So a call that is not interrupted is all-or-nothing exactly if it gets the semaphore, and
the whole table gets through, that is, if the results hold no three refusals in a row
before the last word is accepted (`allOrNothing_iff`).
-/

namespace Sounder.Npca110

open Retry

/-- The command that selects an audio input: AUX2 is the injected one. -/
def command (earInject : Bool) : UInt32 := if earInject then aux1ToAux2 else aux2ToAux1

/-- A call that returns a non-negative value has sent the whole table in order and set
    the flag to its route; one that has not sent the whole table returns a negative
    value, and leaves the flag and `ps_pin` as they were. -/
def AllOrNothing (interrupted earInject : Bool) (s : State) : Prop :=
  ∃ ret t, ioctl interrupted (command earInject) s = some (ret, t) ∧
    (0 ≤ ret →
      accepted t.board.trace = accepted s.board.trace ++ words (adcWay earInject) ∧
      t.dev.earInject = earInject) ∧
    (accepted t.board.trace ≠ accepted s.board.trace ++ words (adcWay earInject) →
      ret < 0 ∧ t.dev.earInject = s.dev.earInject ∧ t.board.pins .ps = s.board.pins .ps)

theorem length_words_adcWay (earInject : Bool) : (words (adcWay earInject)).length = 8 := by
  cases earInject <;> rfl

/-- A call that gets the semaphore returns `0` with the flag set, and the words
    accepted are the first ones of the table, as many as get through. -/
theorem ioctl_command (earInject : Bool) {client : Client} {s : State}
    (hsem : 0 < s.dev.sem) (hc : s.dev.client = some client) :
    ∃ t, ioctl false (command earInject) s = some (0, t) ∧ t.dev.earInject = earInject ∧
      accepted t.board.trace = accepted s.board.trace ++
        (words (adcWay earInject)).take (count 3 8 s.board.results) := by
  have hacc : accepted (sendCmd (adcWay earInject) client s.board).2.trace =
      accepted s.board.trace ++ (words (adcWay earInject)).take (count 3 8 s.board.results) := by
    rw [trace_sendCmd, accepted_append, accepted_sendEvents, accepted_attempts,
      length_words_adcWay]
  cases earInject with
  | false =>
    refine ⟨_, ioctl_eq_some_iff.2 (.inr ⟨rfl, rfl, hsem, _,
      ioctlSwitch_eq_some_iff.2 (.inr (.inl ⟨rfl, client, hc, rfl⟩)), rfl⟩), rfl, hacc⟩
  | true =>
    refine ⟨_, ioctl_eq_some_iff.2 (.inr ⟨rfl, rfl, hsem, _,
      ioctlSwitch_eq_some_iff.2 (.inl ⟨rfl, client, hc, rfl⟩), rfl⟩), rfl, ?_⟩
    rw [Board.trace_gpioSetValue, accepted_append, accepted_gpio, List.append_nil]
    exact hacc

/-- A call that returns got the semaphore, and found a client. -/
theorem ioctl_command_ne_none {earInject : Bool} {s : State} {r : ℤ × State}
    (h : ioctl false (command earInject) s = some r) : 0 < s.dev.sem ∧ s.dev.client ≠ none := by
  obtain ⟨hf, -⟩ | ⟨-, -, hsem, u, hu, -⟩ := ioctl_eq_some_iff.1 h
  · cases hf
  refine ⟨hsem, fun hc : s.dev.client = none => ?_⟩
  cases earInject <;> simp [ioctlSwitch, command, aux1ToAux2, aux2ToAux1, hc] at hu

/-- The first words of a list are all of it exactly if they all get through. -/
theorem take_count_eq_iff {ws : List (List UInt8)} {s : Stream' ℤ} {l : List (List UInt8)} :
    l ++ ws.take (count 3 ws.length s) = l ++ ws ↔ Delivers 3 ws.length s := by
  rw [List.append_right_inj, ← accepted_attempts, accepted_attempts_eq_iff]

/-- A call is all-or-nothing exactly if it is interrupted, or if it gets the semaphore, a
    client is bound and the whole table gets through. -/
theorem allOrNothing_iff (interrupted earInject : Bool) (s : State) :
    AllOrNothing interrupted earInject s ↔
      interrupted = true ∨
        0 < s.dev.sem ∧ s.dev.client ≠ none ∧ Delivers 3 8 s.board.results := by
  cases interrupted with
  | true =>
    refine iff_of_true ⟨_, s, rfl, fun h => ?_, fun _ => ⟨?_, rfl, rfl⟩⟩ (.inl rfl)
    · exact absurd h (by decide)
    · decide
  | false =>
    rw [or_iff_right Bool.false_ne_true]
    by_cases hready : 0 < s.dev.sem ∧ s.dev.client ≠ none
    · obtain ⟨hsem, hclient⟩ := hready
      obtain ⟨client, hc⟩ := Option.ne_none_iff_exists'.1 hclient
      obtain ⟨t, ht, hflag, hacc⟩ := ioctl_command earInject hsem hc
      rw [and_iff_right hsem, and_iff_right hclient, ← length_words_adcWay earInject,
        ← take_count_eq_iff (l := accepted s.board.trace), length_words_adcWay, ← hacc]
      constructor
      · rintro ⟨ret, u, hu, hret, -⟩
        obtain ⟨rfl, rfl⟩ := Prod.mk.inj (Option.some.inj (ht.symm.trans hu))
        exact (hret le_rfl).1
      · exact fun h => ⟨0, t, ht, fun _ => ⟨h, hflag⟩, fun hne => absurd h hne⟩
    · refine iff_of_false ?_ fun h => hready ⟨h.1, h.2.1⟩
      rintro ⟨ret, t, h, -⟩
      exact hready (ioctl_command_ne_none h)

/-- A probed driver, on a bus where every transfer fails. -/
def refusing : State :=
  ⟨⟨some 0, 6, false⟩, true, .empty, ⟨Stream'.const (-121), [], fun _ => false⟩⟩

/-- On a bus where every transfer fails, the call returns `0` with the flag set. -/
theorem not_allOrNothing : ¬AllOrNothing false true refusing := by
  rintro ⟨ret, t, ht, -, hne⟩
  obtain ⟨u, hu, -, hacc⟩ := ioctl_command true (show 0 < refusing.dev.sem by decide)
    (show refusing.dev.client = some 0 from rfl)
  obtain ⟨rfl, rfl⟩ := Prod.mk.inj (Option.some.inj (hu.symm.trans ht))
  refine absurd (hne fun h => ?_).1 (by decide)
  rw [hacc] at h
  exact absurd h (by decide)

end Sounder.Npca110

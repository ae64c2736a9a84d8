import Sounder.Hal.Sound
import Sounder.Npca110.Ioctl

/-!
# A route switch, from the application to the chip

`SoundManager.aux_switch` calls `SoundService.AuxSwitch` through the binder, which calls
the native `AuxSwitch`, which calls `SoundWaySwitch` of the HAL, which makes the request
on the device file that `npca110_ioctl` serves. Each layer passes the integer `way` on:
the native layer takes everything above `1` for `1`, the HAL makes a request code of it,
and the driver takes a code it does not know for one that asks for nothing.

So a negative `way` is a code that asks for nothing, and `0`, the result of the driver,
tells the application that the route was switched (`not_tellsRoute`). The result is right
in all other cases in which the call returns (`tellsRoute_iff`).

`soundWaySwitch` is the HAL function as a thread runs it that is alone in its process
(`soundWaySwitch_alone`).
-/

namespace Sounder

open Retry Npca110

/-! ## The layers -/

/-- The binder transaction of a call. -/
inductive Binder
  /-- It fails before the service is called. -/
  | undelivered
  /-- The service is called, and its reply arrives. -/
  | delivered
  /-- The service is called, and its reply is lost. -/
  | replyLost
  deriving DecidableEq

/-- What a call meets on its way to the driver. -/
structure Layers where
  binder : Binder
  /-- `sound_device` is not null. -/
  device : Bool
  /-- A thread that is in no call has left `s_lock` locked. -/
  locked : Bool
  /-- The result of `open`. -/
  opened : ℤ
  /-- How often a signal interrupts the wait for the semaphore. -/
  interruptions : ℕ

/-- `TEMP_FAILURE_RETRY(ioctl(fd, cmd, args))`: an error of the driver is `-1` here, and an
    interrupted request is made again. -/
def ioctlRetry (cmd : UInt32) : ℕ → State → Option (ℤ × State)
  | 0, s => do
    let (ret, s) ← ioctl false cmd s
    some (if ret < 0 then -1 else ret, s)
  | n + 1, s => do
    let (_, s) ← ioctl true cmd s
    ioctlRetry cmd n s

/-- `SoundWaySwitch`; a call that waits for `s_lock`, or for the semaphore, for good has no
    result. -/
def soundWaySwitch (x : Layers) (way : Int32) (s : State) : Option (ℤ × State) :=
  if x.locked then none
  else if x.opened < 0 then some (-1, s)
  else ioctlRetry way.toUInt32 x.interruptions s

/-- `AuxSwitch`, of the native layer. -/
def nativeAuxSwitch (x : Layers) (way : Int32) (s : State) : Option (ℤ × State) :=
  let auxWay := if 1 < way then 1 else way
  if !x.device then some (-1, s) else soundWaySwitch x auxWay s

/-- `SoundService.AuxSwitch`. -/
def serviceAuxSwitch (x : Layers) (way : Int32) (s : State) : Option (ℤ × State) :=
  nativeAuxSwitch x way s

/-- `SoundManager.aux_switch`. -/
def auxSwitch (x : Layers) (way : Int32) (s : State) : Option (ℤ × State) :=
  match x.binder with
  | .undelivered => some (-1, s)
  | .delivered => serviceAuxSwitch x way s
  | .replyLost => (serviceAuxSwitch x way s).map fun r => (-1, r.2)

/-- The result tells whether the route was switched: it is only non-negative if the table
    of the route was sent, once, and the flag is that of the route; and if nothing was
    sent, it is negative, and the driver is as it was. -/
def TellsRoute (x : Layers) (way : Int32) (s : State) : Prop :=
  ∃ ret t, auxSwitch x way s = some (ret, t) ∧
    (0 ≤ ret → ∃ earInject, (way = 0 ∧ earInject = true ∨ 1 ≤ way ∧ earInject = false) ∧
      accepted t.board.trace = accepted s.board.trace ++ words (adcWay earInject) ∧
      t.dev.earInject = earInject) ∧
    (accepted t.board.trace = accepted s.board.trace → ret < 0 ∧ t = s)

/-- A thread that runs `SoundWaySwitch` alone, on a descriptor table where `open` can give
    its result: it makes the request with the code of `way`, and returns the result of
    `soundWaySwitch`. After a failed `open`, it leaves `s_lock` locked to the next call. -/
theorem soundWaySwitch_alone {x : Layers} {way : Int32} {s t : State} {ret : ℤ}
    (h : soundWaySwitch x way s = some (ret, t)) {p : Hal.Process} {th : ℕ}
    (hidle : p.pc th = .idle) (hlock : p.lock = none)
    (hfree : 0 ≤ x.opened → p.table x.opened.toNat = none) (used : ℕ → Bool) :
    ∃ q, (Hal.machine used).exec p (Hal.beginActs th way x.opened ++
        if x.opened < 0 then [] else Hal.finishActs th x.interruptions ret) = some q ∧
      q.log.getLast? = some (.returned th ret (x.opened < 0)) ∧
      q.lock = if x.opened < 0 then some th else none := by
  obtain ⟨q, hq, -, hl, hlog⟩ := Hal.exec_alone used way x.interruptions ret hidle hlock hfree
  refine ⟨q, hq, ?_, hl⟩
  rw [hlog]
  rw [soundWaySwitch] at h
  split_ifs at h with hx ho
  · obtain ⟨rfl, -⟩ := Prod.mk.inj (Option.some.inj h)
    simp [ho]
  · simp [ho, List.getLast?_cons, List.getLast?_append]

/-! ## The integer -/

theorem int32_cases (way : Int32) : way < 0 ∨ way = 0 ∨ 1 ≤ way := by
  rw [Int32.lt_iff_toInt_lt, ← Int32.toInt_inj, Int32.le_iff_toInt_le]
  simp
  omega

/-- What the native layer makes of the integer: a code that the driver knows exactly if it
    is not negative. -/
theorem toUInt32_clamp (way : Int32) :
    way < 0 ∧ (∀ earInject, (if 1 < way then 1 else way).toUInt32 ≠ command earInject) ∨
      0 ≤ way ∧ ∃ earInject, (way = 0 ∧ earInject = true ∨ 1 ≤ way ∧ earInject = false) ∧
        (if 1 < way then 1 else way).toUInt32 = command earInject := by
  rcases int32_cases way with h | rfl | h
  · have hlt : ¬1 < way := fun h' => absurd (Int32.lt_trans h' h) (by decide)
    refine .inl ⟨h, fun earInject he => ?_⟩
    rw [if_neg hlt] at he
    have hway : way = (command earInject).toInt32 := congrArg UInt32.toInt32 he
    rw [hway] at h
    cases earInject <;> exact absurd h (by decide)
  · exact .inr ⟨by decide, true, .inl ⟨rfl, rfl⟩, rfl⟩
  · refine .inr ⟨Int32.le_trans (by decide) h, false, .inr ⟨h, rfl⟩, ?_⟩
    have hone : (if 1 < way then 1 else way) = 1 := by
      split_ifs with hlt
      · rfl
      · exact Int32.le_antisymm (Int32.not_lt.1 hlt) h
    rw [hone]
    rfl

/-! ## The driver -/

variable {client : Client} {s : State}

/-- The interruptions do nothing. -/
theorem ioctlRetry_eq (cmd : UInt32) (n : ℕ) (s : State) :
    ioctlRetry cmd n s = ioctlRetry cmd 0 s := by
  induction n with
  | zero => rfl
  | succ n ih => exact ih

/-- A request that selects a route, on a bus without failures. -/
theorem ioctlRetry_command (hsem : 0 < s.dev.sem) (hc : s.dev.client = some client)
    (hs : Steady s.board.results) (earInject : Bool) (n : ℕ) :
    ∃ t, ioctlRetry (command earInject) n s = some (0, t) ∧ t.dev.earInject = earInject ∧
      accepted t.board.trace = accepted s.board.trace ++ words (adcWay earInject) := by
  obtain ⟨t, ht, hflag, hacc⟩ := ioctl_command earInject hsem hc
  refine ⟨t, ?_, hflag, ?_⟩
  · rw [ioctlRetry_eq, ioctlRetry, ht]
    rfl
  · rw [hacc, ← length_words_adcWay earInject, take_count_eq_iff]
    exact hs.delivers (Nat.succ_pos 2)

/-- A request with a code that the driver does not know. -/
theorem ioctlRetry_unknown (hsem : 0 < s.dev.sem) {cmd : UInt32}
    (hcmd : ∀ earInject, cmd ≠ command earInject) (n : ℕ) :
    ioctlRetry cmd n s = some (0, s) := by
  -- the semaphore is taken and given back
  have hback : s = { s with dev.sem := s.dev.sem - 1 + 1 } := by
    rw [Nat.sub_add_cancel hsem]
  have hioctl : ioctl false cmd s = some (0, s) :=
    ioctl_eq_some_iff.2 (.inr ⟨rfl, rfl, hsem, _, ioctlSwitch_eq_some_iff.2
      (.inr (.inr ⟨hcmd true, hcmd false, rfl⟩)), hback⟩)
  rw [ioctlRetry_eq, ioctlRetry, hioctl]
  rfl

/-- A request that waits for the semaphore. -/
theorem ioctlRetry_waits (hsem : s.dev.sem = 0) (cmd : UInt32) (n : ℕ) :
    ioctlRetry cmd n s = none := by
  rw [ioctlRetry_eq, ioctlRetry, ioctl, if_neg Bool.false_ne_true, if_pos hsem]
  rfl

theorem words_adcWay_ne_nil (earInject : Bool) : words (adcWay earInject) ≠ [] := by
  rw [← List.length_pos_iff, length_words_adcWay]
  exact Nat.succ_pos 7

/-! ## The service -/

/-- What a call of the service returns, and leaves. -/
inductive Serves (x : Layers) (way : Int32) (s : State) : Prop
  /-- The native layer or the HAL gives up. -/
  | fails (hx : x.device = false ∨ x.locked = false ∧ x.opened < 0)
    (h : serviceAuxSwitch x way s = some (-1, s)) : Serves x way s
  /-- The HAL waits for `s_lock`, or the driver for the semaphore. -/
  | waits (hd : x.device = true) (hw : x.locked = true ∨ 0 ≤ x.opened ∧ s.dev.sem = 0)
    (h : serviceAuxSwitch x way s = none) : Serves x way s
  /-- The driver gets a code that it does not know. -/
  | unknown (hd : x.device = true) (hl : x.locked = false) (ho : 0 ≤ x.opened)
    (hsem : 0 < s.dev.sem) (hway : way < 0) (h : serviceAuxSwitch x way s = some (0, s)) :
    Serves x way s
  /-- The driver switches the route. -/
  | switches (hd : x.device = true) (hl : x.locked = false) (hsem : 0 < s.dev.sem)
    (hway : 0 ≤ way) (earInject : Bool)
    (hroute : way = 0 ∧ earInject = true ∨ 1 ≤ way ∧ earInject = false) (t : State)
    (h : serviceAuxSwitch x way s = some (0, t)) (hflag : t.dev.earInject = earInject)
    (hacc : accepted t.board.trace = accepted s.board.trace ++ words (adcWay earInject)) :
    Serves x way s

theorem serves (x : Layers) (way : Int32) (hc : s.dev.client = some client)
    (hs : Steady s.board.results) : Serves x way s := by
  cases hd : x.device with
  | false => exact .fails (.inl hd) (by simp [serviceAuxSwitch, nativeAuxSwitch, hd])
  | true =>
    have hsvc : serviceAuxSwitch x way s = soundWaySwitch x (if 1 < way then 1 else way) s := by
      simp [serviceAuxSwitch, nativeAuxSwitch, hd]
    rw [soundWaySwitch] at hsvc
    cases hl : x.locked with
    | true => exact .waits hd (.inl hl) (by rw [hsvc, hl]; rfl)
    | false =>
      rw [hl, if_neg Bool.false_ne_true] at hsvc
      by_cases ho : x.opened < 0
      · exact .fails (.inr ⟨hl, ho⟩) (by rw [hsvc, if_pos ho])
      · rw [if_neg ho] at hsvc
        rcases Nat.eq_zero_or_pos s.dev.sem with hsem | hsem
        · exact .waits hd (.inr ⟨not_lt.1 ho, hsem⟩) (hsvc.trans (ioctlRetry_waits hsem _ _))
        rcases toUInt32_clamp way with ⟨hway, hne⟩ | ⟨hway, earInject, hroute, he⟩
        · exact .unknown hd hl (not_lt.1 ho) hsem hway
            (hsvc.trans (ioctlRetry_unknown hsem hne _))
        · obtain ⟨t, ht, hflag, hacc⟩ := ioctlRetry_command hsem hc hs earInject x.interruptions
          exact .switches hd hl hsem hway earInject hroute t (by rw [hsvc, he, ht]) hflag hacc

/-! ## Main result -/

variable {x : Layers} {way : Int32}

theorem tellsRoute_iff_of_eq {ret : ℤ} {t : State} (h : auxSwitch x way s = some (ret, t)) :
    TellsRoute x way s ↔
      (0 ≤ ret → ∃ earInject, (way = 0 ∧ earInject = true ∨ 1 ≤ way ∧ earInject = false) ∧
        accepted t.board.trace = accepted s.board.trace ++ words (adcWay earInject) ∧
        t.dev.earInject = earInject) ∧
      (accepted t.board.trace = accepted s.board.trace → ret < 0 ∧ t = s) := by
  refine ⟨?_, fun h' => ⟨ret, t, h, h'⟩⟩
  rintro ⟨ret', t', h', hclauses⟩
  obtain ⟨rfl, rfl⟩ := Prod.mk.inj (Option.some.inj (h.symm.trans h'))
  exact hclauses

/-- The call returns `-1`, and the driver is as it was. -/
theorem tellsRoute_of_fails (h : auxSwitch x way s = some (-1, s)) : TellsRoute x way s :=
  ⟨-1, s, h, fun h0 => absurd h0 (by decide), fun _ => ⟨by decide, rfl⟩⟩

/-- The call does not return. -/
theorem not_tellsRoute_of_waits (h : auxSwitch x way s = none) : ¬TellsRoute x way s := by
  rintro ⟨ret, t, h', -⟩
  cases h'.symm.trans h

/-- The call switches the route, whether or not it can tell. -/
theorem tellsRoute_of_switches {ret : ℤ} {t : State} {earInject : Bool}
    (h : auxSwitch x way s = some (ret, t))
    (hroute : way = 0 ∧ earInject = true ∨ 1 ≤ way ∧ earInject = false)
    (hflag : t.dev.earInject = earInject)
    (hacc : accepted t.board.trace = accepted s.board.trace ++ words (adcWay earInject)) :
    TellsRoute x way s := by
  refine ⟨ret, t, h, fun _ => ⟨earInject, hroute, hacc, hflag⟩, fun heq => ?_⟩
  rw [hacc, List.append_right_eq_self] at heq
  exact absurd heq (words_adcWay_ne_nil earInject)

/-- A call that waits does not get to where its result could be right. -/
theorem not_gets_of_waits (hd : x.device = true)
    (hw : x.locked = true ∨ 0 ≤ x.opened ∧ s.dev.sem = 0) :
    ¬(x.device = false ∨ x.locked = false ∧ (x.opened < 0 ∨ 0 < s.dev.sem)) := by
  rintro (hd' | ⟨hl, h⟩)
  · exact Bool.false_ne_true (hd'.symm.trans hd)
  · rcases hw with hl' | ⟨ho, hsem⟩
    · exact Bool.false_ne_true (hl.symm.trans hl')
    · exact h.elim (not_lt.2 ho) fun h => absurd hsem (Nat.ne_of_gt h)

/-- A call of which the reply arrives. -/
theorem tellsRoute_iff_of_delivered (hb : x.binder = .delivered) (hc : s.dev.client = some client)
    (hs : Steady s.board.results) :
    TellsRoute x way s ↔
      x.device = false ∨ x.locked = false ∧ (x.opened < 0 ∨ 0 < s.dev.sem ∧ 0 ≤ way) := by
  have haux : auxSwitch x way s = serviceAuxSwitch x way s := by simp [auxSwitch, hb]
  cases serves x way hc hs with
  | fails hx h =>
    refine iff_of_true (tellsRoute_of_fails (haux.trans h)) ?_
    exact hx.imp_right fun ⟨hl, ho⟩ => ⟨hl, .inl ho⟩
  | waits hd hw h =>
    exact iff_of_false (not_tellsRoute_of_waits (haux.trans h)) fun hx =>
      not_gets_of_waits hd hw (hx.imp_right (And.imp_right (Or.imp_right And.left)))
  | unknown hd hl ho hsem hway h =>
    refine iff_of_false ?_ (by simp [hd, hl, not_lt.2 ho, Int32.not_le.2 hway])
    rw [tellsRoute_iff_of_eq (haux.trans h)]
    exact fun h' => absurd (h'.2 rfl).1 (by decide)
  | switches hd hl hsem hway earInject hroute t h hflag hacc =>
    exact iff_of_true (tellsRoute_of_switches (haux.trans h) hroute hflag hacc)
      (.inr ⟨hl, .inr ⟨hsem, hway⟩⟩)

/-- A call of which the reply is lost: the result is negative, whatever the service has
    done. -/
theorem tellsRoute_iff_of_replyLost (hb : x.binder = .replyLost) (hc : s.dev.client = some client)
    (hs : Steady s.board.results) :
    TellsRoute x way s ↔
      x.device = false ∨ x.locked = false ∧ (x.opened < 0 ∨ 0 < s.dev.sem) := by
  have haux : auxSwitch x way s = (serviceAuxSwitch x way s).map fun r => (-1, r.2) := by
    simp [auxSwitch, hb]
  cases serves x way hc hs with
  | fails hx h =>
    refine iff_of_true (tellsRoute_of_fails (by rw [haux, h]; rfl)) ?_
    exact hx.imp_right fun ⟨hl, ho⟩ => ⟨hl, .inl ho⟩
  | waits hd hw h =>
    exact iff_of_false (not_tellsRoute_of_waits (by rw [haux, h]; rfl)) (not_gets_of_waits hd hw)
  | unknown hd hl ho hsem hway h =>
    exact iff_of_true (tellsRoute_of_fails (by rw [haux, h]; rfl))
      (.inr ⟨hl, .inr hsem⟩)
  | switches hd hl hsem hway earInject hroute t h hflag hacc =>
    exact iff_of_true
      (tellsRoute_of_switches (haux.trans (congrArg _ h)) hroute hflag hacc)
      (.inr ⟨hl, .inr hsem⟩)

/-- **The result of a route switch.** With a bound client, and on a bus without failures,
    the result of a call tells whether the route was switched exactly if the call does not
    reach the HAL; or it gets `s_lock`, and the device file cannot be opened; or it gets the
    semaphore too, and `way` is not negative, or the reply of a call that asked for nothing
    is lost. -/
theorem tellsRoute_iff (x : Layers) (way : Int32) (hc : s.dev.client = some client)
    (hs : Steady s.board.results) :
    TellsRoute x way s ↔
      x.binder = .undelivered ∨ x.device = false ∨
      x.locked = false ∧
        (x.opened < 0 ∨ 0 < s.dev.sem ∧ (0 ≤ way ∨ x.binder = .replyLost)) := by
  cases hb : x.binder with
  | undelivered =>
    exact iff_of_true (tellsRoute_of_fails (by simp [auxSwitch, hb])) (.inl rfl)
  | delivered =>
    rw [tellsRoute_iff_of_delivered hb hc hs]
    simp
  | replyLost =>
    rw [tellsRoute_iff_of_replyLost hb hc hs]
    simp

/-- A driver with a bound client, on a bus without failures. -/
def probedDriver : State :=
  ⟨⟨some 0, 6, false⟩, true, .empty, ⟨Stream'.const 1, [], fun _ => false⟩⟩

/-- A switch to AUX2, with an interrupted wait for the semaphore. -/
theorem tellsRoute_aux2 :
    TellsRoute ⟨.delivered, true, false, 3, 1⟩ 0 probedDriver :=
  (tellsRoute_iff ⟨.delivered, true, false, 3, 1⟩ 0 rfl (steady_const Int.one_nonneg)).2
    (.inr (.inr ⟨rfl, .inr ⟨by decide, .inl (by decide)⟩⟩))

/-- A negative `way`: the call returns `0`, and nothing is sent. -/
theorem not_tellsRoute : ¬TellsRoute ⟨.delivered, true, false, 3, 0⟩ (-1) probedDriver := by
  rw [tellsRoute_iff_of_eq (show auxSwitch _ _ _ = some (0, probedDriver) from rfl)]
  exact fun h => absurd (h.2 rfl).1 (by decide)

end Sounder

import Sounder.Lib.Frames
import Sounder.Npca110.Driver

/-!
# The npca110 chip

What the chip makes of the words it accepts. It reads them as frames: a word
`0xFF, 0xAB, x` or `0xFF, 0xAD, x` takes one data word, and a Load Patch word
`h, 0xA2, l` takes `h * 256 + l` of them.

The route of the chip is the data of the last ADC Input Control command
(`0xFF, 0xAD, 0x83`) that was followed by the CODEC latch sequence: the data
`0`, `1` and `0` of three CODEC Latch commands (`0xFF, 0xAD, 0x86`). The three
tables of the driver each leave a chip at the end of a frame there again, with a
route of their own (`feed_adcWay`, `feed_maxxAudioCmdMusic1Full`), whatever the
chip was told before.
-/

namespace Sounder.Npca110

/-- A word of three bytes. -/
abbrev Word := List UInt8

/-- The ADC Input Control command. -/
def adcInputControl : Word := [0xFF, 0xAD, 0x83]

/-- The CODEC Latch command. -/
def codecLatch : Word := [0xFF, 0xAD, 0x86]

/-- The data words that a command word takes. -/
def dataWords : Word → ℕ
  | [h, m, l] =>
    if h = 0xFF ∧ (m = 0xAB ∨ m = 0xAD) then 1
    else if m = 0xA2 then h.toNat * 256 + l.toNat
    else 0
  | _ => 0

/-- The input selection of the CODEC. -/
structure Codec where
  /-- The data of the last ADC Input Control command. -/
  input : Option Word
  /-- How much of the latch sequence has followed it. -/
  latch : ℕ
  /-- The data last latched. -/
  route : Option Word
  deriving DecidableEq

/-- A data word of the CODEC Latch command. -/
def Codec.latchStep (w : Word) (k : Codec) : Codec :=
  if k.latch = 0 ∧ w = [0x00, 0x00, 0x00] then { k with latch := 1 }
  else if k.latch = 1 ∧ w = [0x00, 0x00, 0x01] then { k with latch := 2 }
  else if k.latch = 2 ∧ w = [0x00, 0x00, 0x00] then { k with latch := 0, route := k.input }
  else { k with latch := 0 }

/-- A data word `w` of the command `c`. -/
def Codec.act (c w : Word) (k : Codec) : Codec :=
  if c = adcInputControl then { k with input := some w, latch := 0 }
  else if c = codecLatch then k.latchStep w
  else k

/-- The chip, reading words. -/
abbrev Chip := Receiver Word Codec

/-- The chip before any word. -/
def Chip.fresh : Chip := ⟨none, 0, ⟨none, 0, none⟩⟩

/-- The chip after accepting the words `ws`. -/
abbrev Chip.accept (c : Chip) (ws : List Word) : Chip := c.feedAll dataWords Codec.act ws

/-- The chip is at the end of a frame, and of a latch sequence. -/
structure Chip.Settled (c : Chip) : Prop where
  idle : c.Idle
  latch : c.state.latch = 0

theorem Chip.settled_fresh : Chip.fresh.Settled := ⟨rfl, rfl⟩

/-- What is known of a CODEC: it agrees with another one, where it has been told. -/
def Codec.Known (k k' : Codec) : Prop :=
  (k.input = none ∨ k.input = k'.input) ∧ k.latch = k'.latch ∧
    (k.route = none ∨ k.route = k'.route)

theorem Codec.Known.act (c w : Word) {k k' : Codec} (h : k.Known k') :
    (Codec.act c w k).Known (Codec.act c w k') := by
  obtain ⟨hi, hl, hr⟩ := h
  rw [Codec.act, Codec.act]
  split_ifs
  · exact ⟨.inr rfl, rfl, hr⟩
  · rw [Codec.latchStep, Codec.latchStep, hl]
    split_ifs
    · exact ⟨hi, rfl, hr⟩
    · exact ⟨hi, rfl, hr⟩
    · exact ⟨hi, rfl, hi⟩
    · exact ⟨hi, rfl, hr⟩
  · exact ⟨hi, hl, hr⟩

/-- Words that settle a fresh chip on a route settle any settled chip on it. -/
theorem Chip.Settled.accept {c : Chip} (hc : c.Settled) {ws : List Word} {r : Word}
    (h : (Chip.fresh.accept ws).waiting = 0 ∧ (Chip.fresh.accept ws).state.latch = 0 ∧
      (Chip.fresh.accept ws).state.route = some r) :
    (c.accept ws).Settled ∧ (c.accept ws).state.route = some r := by
  have hrel : Receiver.Rel Codec.Known Chip.fresh c :=
    .of_idle rfl hc.idle ⟨.inl rfl, hc.latch.symm, .inl rfl⟩
  obtain ⟨hw, -, -, hl, hr⟩ : Receiver.Rel Codec.Known (Chip.fresh.accept ws) (c.accept ws) :=
    hrel.feedAll (fun c w _ _ => Codec.Known.act c w) ws
  refine ⟨⟨hw.symm.trans h.1, hl.symm.trans h.2.1⟩, ?_⟩
  rcases hr with hr | hr
  · exact absurd (h.2.2.symm.trans hr) (Option.some_ne_none r)
  · exact hr.symm.trans h.2.2

/-! ## Routes -/

/-- The route of an audio input: `0x99` for AUX2, `0x88` for AUX1. -/
def routeOf (earInject : Bool) : Word :=
  if earInject then [0x00, 0x00, 0x99] else [0x00, 0x00, 0x88]

/-- The route tables settle the chip on their route. -/
theorem feed_adcWay {c : Chip} (hc : c.Settled) (earInject : Bool) :
    (c.accept (words (adcWay earInject))).Settled ∧
      (c.accept (words (adcWay earInject))).state.route = some (routeOf earInject) := by
  refine hc.accept ?_
  cases earInject <;> decide

/-- The configuration settles the chip on AUX1. -/
theorem feed_maxxAudioCmdMusic1Full {c : Chip} (hc : c.Settled) :
    (c.accept (words maxxAudioCmdMusic1Full)).Settled ∧
      (c.accept (words maxxAudioCmdMusic1Full)).state.route = some (routeOf false) := by
  refine hc.accept ?_
  decide +kernel

end Sounder.Npca110

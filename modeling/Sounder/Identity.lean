import Sounder.Npca110.Driver
import Sounder.Ntp8230.Driver

/-!
# The identity of a chip

Both probe functions read an identity from the chip, and bind the client if the check
of it returns `1`. The check uses one integer for two things, the number of messages
completed and its verdict: it returns `1` if the bytes match, and else the result of
the transfer (`i2cCheck_fst_eq_one_iff`).

So a transfer that completed one message of two passes for a match, and bytes that
match make up for any result of the transfer. A probe binds nothing but a verified
identity exactly if neither happens (`bindsVerified_iff`).
-/

namespace Sounder

/-! ## Bindings -/

/-- What a probe stores: the client, the work queue, and what is queued on it. -/
structure Binding (ω : Type*) where
  /-- The client, if not null. -/
  client : Option Client
  /-- The work queue is not null. -/
  wq : Bool
  /-- The work items pending. -/
  queue : WorkQueue ω

namespace Binding

variable {ω : Type*} [DecidableEq ω]

/-- The binding after a check that passes: the item `init` is queued if the work queue
    could be created. -/
def bound (client : Client) (wqCreated : Bool) (init : ω) (x : Binding ω) : Binding ω :=
  ⟨some client, wqCreated, if wqCreated then x.queue.queueWork init else x.queue⟩

/-- Binding changes nothing if it stores what is stored, and cannot create the queue. -/
theorem bound_false_eq_iff {client : Client} {init : ω} {x : Binding ω} :
    x.bound client false init = x ↔ x.client = some client ∧ x.wq = false := by
  rcases x with ⟨c, wq, q⟩
  simp [bound, @eq_comm _ (some client), @eq_comm _ false]

/-- A probe with the result `ret`, from the binding `x` to `y`, binds only what is
    verified: else it fails, and leaves the binding. -/
def BindsOnly (verified : Prop) (ret : ℤ) (x y : Binding ω) : Prop :=
  ¬verified → ret < 0 ∧ y = x

/-- A probe that binds what passes its check, in place of what is verified. -/
theorem bindsOnly_iff {verified passes : Prop} {ret enomem : ℤ} {client : Client}
    {wqCreated : Bool} {init : ω} {x y : Binding ω} (hno : enomem < 0)
    (hpass : passes → ret = (if wqCreated then 0 else enomem) ∧ y = x.bound client wqCreated init)
    (hfail : ¬passes → ret < 0 ∧ y = x) :
    BindsOnly verified ret x y ↔
      verified ∨ ¬passes ∨ wqCreated = false ∧ x.client = some client ∧ x.wq = false := by
  rw [BindsOnly, ← or_iff_not_imp_left]
  refine or_congr Iff.rfl ?_
  by_cases hp : passes
  · obtain ⟨rfl, rfl⟩ := hpass hp
    rw [or_iff_right (not_not.2 hp)]
    cases wqCreated with
    | true => simp
    | false => simp [hno, bound_false_eq_iff]
  · exact iff_of_true (hfail hp) (.inl hp)

end Binding

/-- What the check of an identity lets through: bytes that match, or a transfer that
    completed one of its two messages. -/
def ChecksOut (result : ℤ) (matching : Prop) : Prop := matching ∨ result = 1

/-- A verified identity: the adapter can be used, the transfer completed both messages,
    and the bytes match. -/
def Verified (functionality : Bool) (result : ℤ) (matching : Prop) : Prop :=
  functionality = true ∧ result = 2 ∧ matching

instance (functionality : Bool) (result : ℤ) (matching : Prop) [Decidable matching] :
    Decidable (Verified functionality result matching) :=
  inferInstanceAs (Decidable (_ ∧ _ ∧ _))

/-- Nothing but a verified identity is let through. -/
theorem verified_or_iff {functionality : Bool} {result : ℤ} {matching p : Prop} :
    Verified functionality result matching ∨
        ¬(functionality = true ∧ ChecksOut result matching) ∨ p ↔
      functionality = false ∨ result = 2 ∧ matching ∨ ¬matching ∧ result ≠ 1 ∨ p := by
  cases functionality with
  | false => simp [Verified]
  | true => simp [Verified, ChecksOut]

/-! ## npca110 -/

namespace Npca110

/-- The binding of the driver. -/
def State.binding (s : State) : Binding Work := ⟨s.dev.client, s.wq, s.queue⟩

/-- The version of the chip. -/
def version : List UInt8 := [0x00, 0x60, 0x00]

theorem i2cCheck_fst_eq_one_iff {client : Client} {reply : List UInt8} {b : Board} :
    (i2cCheck client reply b).1 = 1 ↔ ChecksOut b.results.head (reply = version) := by
  rw [i2cCheck, ChecksOut, version]
  split_ifs with h
  · exact iff_of_true rfl (.inl h)
  · rw [or_iff_right h]
    rfl

variable (functionality : Bool) (client : Client) (reply : List UInt8) (wqCreated : Bool)
  (s : State)

theorem probe_of_checksOut (h : functionality = true ∧
      ChecksOut s.board.results.head (reply = version)) :
    (probe functionality client reply wqCreated s).1 = (if wqCreated then 0 else -enomem) ∧
      (probe functionality client reply wqCreated s).2.binding =
        s.binding.bound client wqCreated .init := by
  obtain ⟨rfl, h⟩ := h
  have hcheck : (i2cCheck client reply s.board).1 = 1 := i2cCheck_fst_eq_one_iff.2 h
  cases wqCreated <;> simp [probe, hcheck, State.binding, Binding.bound]

theorem probe_of_not_checksOut (h : ¬(functionality = true ∧
      ChecksOut s.board.results.head (reply = version))) :
    (probe functionality client reply wqCreated s).1 < 0 ∧
      (probe functionality client reply wqCreated s).2.binding = s.binding := by
  cases functionality with
  | false => simp [probe, enodev]
  | true =>
    have hcheck : (i2cCheck client reply s.board).1 ≠ 1 := fun h' =>
      h ⟨rfl, i2cCheck_fst_eq_one_iff.1 h'⟩
    simp [probe, hcheck, State.binding]

end Npca110

/-! ## ntp8230 -/

namespace Ntp8230

/-- The binding of the driver. -/
def State.binding (s : State) : Binding Work := ⟨s.client, s.wq, s.queue⟩

/-- The id of the chip. -/
def chipId : UInt8 := 0x98

/-- The result of the first transfer, which reads the register `0x1F`, is dropped. -/
theorem i2cCheck_fst_eq_one_iff {client : Client} {test data : UInt8} {b : Board} :
    (i2cCheck client test data b).1 = 1 ↔ ChecksOut b.results.tail.head (data = chipId) := by
  rw [i2cCheck, ChecksOut, chipId]
  split_ifs with h
  · exact iff_of_true rfl (.inl h)
  · rw [or_iff_right h]
    rfl

variable (functionality : Bool) (client : Client) (test data : UInt8) (wqCreated : Bool)
  (s : State)

theorem probe_of_checksOut (h : functionality = true ∧
      ChecksOut s.board.results.tail.head (data = chipId)) :
    (probe functionality client test data wqCreated s).1 = (if wqCreated then 0 else -enomem) ∧
      (probe functionality client test data wqCreated s).2.binding =
        s.binding.bound client wqCreated .init := by
  obtain ⟨rfl, h⟩ := h
  have hcheck : (i2cCheck client test data s.board).1 = 1 := i2cCheck_fst_eq_one_iff.2 h
  cases wqCreated <;> simp [probe, hcheck, State.binding, Binding.bound]

theorem probe_of_not_checksOut (h : ¬(functionality = true ∧
      ChecksOut s.board.results.tail.head (data = chipId))) :
    (probe functionality client test data wqCreated s).1 < 0 ∧
      (probe functionality client test data wqCreated s).2.binding = s.binding := by
  cases functionality with
  | false => simp [probe, enodev]
  | true =>
    have hcheck : (i2cCheck client test data s.board).1 ≠ 1 := fun h' =>
      h ⟨rfl, i2cCheck_fst_eq_one_iff.1 h'⟩
    simp [probe, hcheck, State.binding]

end Ntp8230

/-! ## Both drivers -/

/-- `npca110_probe` binds only a verified identity. -/
def Npca110.BindsVerified (functionality : Bool) (client : Client) (reply : List UInt8)
    (wqCreated : Bool) (s : State) : Prop :=
  Binding.BindsOnly (Verified functionality s.board.results.head (reply = version))
    (probe functionality client reply wqCreated s).1 s.binding
    (probe functionality client reply wqCreated s).2.binding

/-- `ntp8230_probe` binds only a verified identity. -/
def Ntp8230.BindsVerified (functionality : Bool) (client : Client) (test data : UInt8)
    (wqCreated : Bool) (s : State) : Prop :=
  Binding.BindsOnly (Verified functionality s.board.results.tail.head (data = chipId))
    (probe functionality client test data wqCreated s).1 s.binding
    (probe functionality client test data wqCreated s).2.binding

/-- A probe binds only a verified identity exactly if the adapter cannot be used, or the
    read completed both messages with the bytes expected, or it did not complete one
    message with other bytes; or if there is nothing left to bind. -/
theorem bindsVerified_iff (functionality : Bool) (client : Client) (wqCreated : Bool) :
    (∀ reply (s : Npca110.State),
      Npca110.BindsVerified functionality client reply wqCreated s ↔
        functionality = false ∨
        s.board.results.head = 2 ∧ reply = Npca110.version ∨
        reply ≠ Npca110.version ∧ s.board.results.head ≠ 1 ∨
        wqCreated = false ∧ s.dev.client = some client ∧ s.wq = false) ∧
    ∀ test data (s : Ntp8230.State),
      Ntp8230.BindsVerified functionality client test data wqCreated s ↔
        functionality = false ∨
        s.board.results.tail.head = 2 ∧ data = Ntp8230.chipId ∨
        data ≠ Ntp8230.chipId ∧ s.board.results.tail.head ≠ 1 ∨
        wqCreated = false ∧ s.client = some client ∧ s.wq = false := by
  constructor
  · intro reply s
    rw [Npca110.BindsVerified, Binding.bindsOnly_iff (by decide)
      (Npca110.probe_of_checksOut functionality client reply wqCreated s)
      (Npca110.probe_of_not_checksOut functionality client reply wqCreated s), verified_or_iff]
    rfl
  · intro test data s
    rw [Ntp8230.BindsVerified, Binding.bindsOnly_iff (by decide)
      (Ntp8230.probe_of_checksOut functionality client test data wqCreated s)
      (Ntp8230.probe_of_not_checksOut functionality client test data wqCreated s),
      verified_or_iff]
    rfl

/-- Reads that complete one message of two, and leave the receive buffers as they were,
    bind the client. -/
theorem not_bindsVerified :
    let b : Board := ⟨Stream'.const 1, [], fun _ => false⟩
    ¬Npca110.BindsVerified true 0 [0x00, 0x00, 0x00] true ⟨⟨none, 6, false⟩, false, .empty, b⟩ ∧
      ¬Ntp8230.BindsVerified true 0 0x00 0x00 true ⟨none, false, .empty, false, b⟩ := by
  intro b
  constructor
  · exact fun h => absurd (h (by decide)).1 (by decide)
  · exact fun h => absurd (h (by decide)).1 (by decide)

end Sounder

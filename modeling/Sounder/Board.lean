import Sounder.Lib.Retry

/-!
# The board

What the two drivers act on: the I2C bus, the GPIO pins and the delay loops of
the kernel. A driver function takes a `Board` and returns the one it leaves.

* The results of the transfers still to be made are a stream, `Board.results`: a
  negative result of `i2c_transfer` means that the chip did not accept the
  message, any other that it did.
* Everything put on the bus or on a pin is recorded in `Board.trace`, in order.
  `accepted` are the messages of a trace that were accepted.

Both drivers write with the same loop of at most three attempts (`writeLoop`); a
call makes the attempts of `Retry.tries` (`writeLoop_snd`) and fails when none of
them is accepted (`writeLoop_fst_neg_iff`). `mdelay`, `msleep` and `printk` leave
no trace.
-/

namespace Sounder

open Retry

/-- A `struct i2c_client`, by identity: the drivers only hand it to the I2C core. -/
abbrev Client := ℕ

/-- `ERESTARTSYS`. -/
def erestartsys : ℤ := 512

/-- The GPIOs of `struct pin_config_info`. -/
inductive Pin
  | pa
  | ntp
  | rs
  | ps
  deriving DecidableEq

/-- What the chips see of a driver. -/
inductive Event
  /-- One `i2c_transfer` of the message `buf`, and its result. -/
  | transfer (client : Client) (buf : List UInt8) (ret : ℤ)
  /-- One `i2c_transfer` of two messages, writing `buf` and then reading `reply`. -/
  | exchange (client : Client) (buf reply : List UInt8) (ret : ℤ)
  /-- A delay loop. -/
  | udelay (usecs : ℕ)
  /-- A pin driven to a level. -/
  | gpio (pin : Pin) (value : Bool)
  deriving DecidableEq

/-- The bus and the pins. -/
structure Board where
  /-- The results of the transfers to come. -/
  results : Stream' ℤ
  /-- What was put on the bus and on the pins so far. -/
  trace : List Event
  /-- The level each pin was last driven to. -/
  pins : Pin → Bool

namespace Board

/-- `i2c_transfer(client->adapter, &msg, 1)`, for a message written to the chip. -/
def i2cTransfer (client : Client) (buf : List UInt8) (b : Board) : ℤ × Board :=
  (b.results.head,
    { b with results := b.results.tail, trace := b.trace ++ [.transfer client buf b.results.head] })

/-- `i2c_transfer(client->adapter, msgs, 2)`: a message written, and one read,
    which leaves `reply` in the receive buffer. -/
def i2cExchange (client : Client) (buf reply : List UInt8) (b : Board) : ℤ × Board :=
  (b.results.head,
    { b with
      results := b.results.tail
      trace := b.trace ++ [.exchange client buf reply b.results.head] })

/-- `udelay`. -/
def udelay (usecs : ℕ) (b : Board) : Board :=
  { b with trace := b.trace ++ [.udelay usecs] }

/-- `__gpio_set_value`. -/
def gpioSetValue (pin : Pin) (value : Bool) (b : Board) : Board :=
  { b with trace := b.trace ++ [.gpio pin value], pins := Function.update b.pins pin value }

@[simp] theorem results_udelay (usecs : ℕ) (b : Board) : (b.udelay usecs).results = b.results := rfl

@[simp] theorem pins_udelay (usecs : ℕ) (b : Board) : (b.udelay usecs).pins = b.pins := rfl

@[simp] theorem results_gpioSetValue (pin : Pin) (value : Bool) (b : Board) :
    (b.gpioSetValue pin value).results = b.results := rfl

@[simp] theorem trace_gpioSetValue (pin : Pin) (value : Bool) (b : Board) :
    (b.gpioSetValue pin value).trace = b.trace ++ [.gpio pin value] := rfl

@[simp] theorem pins_gpioSetValue (pin : Pin) (value : Bool) (b : Board) :
    (b.gpioSetValue pin value).pins = Function.update b.pins pin value := rfl

end Board

/-! ## Accepted messages -/

/-- The messages of a trace that the chip accepted. -/
def accepted (t : List Event) : List (List UInt8) :=
  t.filterMap fun
    | .transfer _ buf ret => if 0 ≤ ret then some buf else none
    | _ => none

@[simp] theorem accepted_nil : accepted [] = [] := rfl

@[simp] theorem accepted_append (t t' : List Event) :
    accepted (t ++ t') = accepted t ++ accepted t' :=
  List.filterMap_append

@[simp] theorem accepted_udelay (usecs : ℕ) : accepted [.udelay usecs] = [] := rfl

@[simp] theorem accepted_gpio (pin : Pin) (value : Bool) : accepted [.gpio pin value] = [] := rfl

@[simp] theorem accepted_exchange (client : Client) (buf reply : List UInt8) (ret : ℤ) :
    accepted [.exchange client buf reply ret] = [] := rfl

/-- The transfers of some attempts at messages to a client. -/
def transfers (client : Client) (t : List (List UInt8 × ℤ)) : List Event :=
  t.map fun a => .transfer client a.1 a.2

@[simp] theorem accepted_transfers (client : Client) (t : List (List UInt8 × ℤ)) :
    accepted (transfers client t) = Retry.accepted t := by
  rw [accepted, transfers, List.filterMap_map, Retry.accepted]
  rfl

/-- A trace without a change of a pin. -/
def NoGpio (t : List Event) : Prop := ∀ pin value, .gpio pin value ∉ t

theorem noGpio_transfers (client : Client) (t : List (List UInt8 × ℤ)) :
    NoGpio (transfers client t) := by
  intro pin value h
  obtain ⟨_, _, he⟩ := List.mem_map.1 h
  cases he

theorem NoGpio.append {t t' : List Event} (h : NoGpio t) (h' : NoGpio t') : NoGpio (t ++ t') :=
  fun pin value hm => (List.mem_append.1 hm).elim (h pin value) (h' pin value)

theorem noGpio_nil : NoGpio [] := fun _ _ => List.not_mem_nil

theorem noGpio_udelay (usecs : ℕ) : NoGpio [.udelay usecs] := by simp [NoGpio]

/-! ## Writing a message -/

/-- The loop `do { … } while ((ret < 0) && (retry > 0))` of the write functions,
    entered with `retry` attempts left: a body of it runs in any case. -/
def writeLoop (client : Client) (data : List UInt8) : ℕ → Board → ℤ × Board
  | 0, b => b.i2cTransfer client data
  | retry + 1, b =>
    let (ret, b) := b.i2cTransfer client data
    if ret < 0 ∧ 0 < retry then writeLoop client data retry b else (ret, b)

variable (client : Client) (data : List UInt8)

theorem writeLoop_succ (retry : ℕ) (b : Board) :
    writeLoop client data (retry + 1) b =
      if b.results.head < 0 ∧ 0 < retry then
        writeLoop client data retry (b.i2cTransfer client data).2
      else b.i2cTransfer client data := rfl

/-- What a message written with `n` attempts leaves behind. -/
def Board.written (client : Client) (data : List UInt8) (n : ℕ) (b : Board) : Board :=
  { b with
    results := rest n b.results
    trace := b.trace ++ transfers client ((tries n b.results).map (data, ·)) }

/-- The attempts of the write loop. -/
theorem writeLoop_snd (n : ℕ) (b : Board) :
    (writeLoop client data (n + 1) b).2 = b.written client data (n + 1) := by
  induction n generalizing b with
  | zero =>
    rw [writeLoop_succ, if_neg fun h => Nat.lt_irrefl 0 h.2]
    simp [Board.written, Board.i2cTransfer, tries, rest, transfers, Stream'.tail_eq_drop]
  | succ n ih =>
    rw [writeLoop_succ]
    rcases lt_or_ge b.results.head 0 with h | h
    · rw [if_pos ⟨h, Nat.succ_pos n⟩, ih]
      simp [Board.written, Board.i2cTransfer, tries_of_neg h, rest_of_neg h, transfers]
    · rw [if_neg fun h' => absurd h'.1 (not_lt.2 h)]
      simp [Board.written, Board.i2cTransfer, tries_of_nonneg h, rest_of_nonneg h, transfers]

/-- A write fails when none of its attempts is accepted. -/
theorem writeLoop_fst_neg_iff (n : ℕ) (b : Board) :
    (writeLoop client data (n + 1) b).1 < 0 ↔ ¬Accepts (n + 1) b.results := by
  induction n generalizing b with
  | zero =>
    rw [writeLoop_succ, if_neg fun h => Nat.lt_irrefl 0 h.2, accepts_succ]
    simp [Board.i2cTransfer]
  | succ n ih =>
    rw [writeLoop_succ, accepts_succ]
    rcases lt_or_ge b.results.head 0 with h | h
    · rw [if_pos ⟨h, Nat.succ_pos n⟩, ih, or_iff_right (not_le.2 h)]
      rfl
    · rw [if_neg fun h' => absurd h'.1 (not_lt.2 h)]
      exact iff_of_false (not_lt.2 h) (not_not.2 (.inl h))

/-! ## Groups of bytes -/

/-- The first `n` groups of `k` bytes of a list. -/
def groups (k : ℕ) : ℕ → List UInt8 → List (List UInt8)
  | 0, _ => []
  | n + 1, l => l.take k :: groups k n (l.drop k)

@[simp] theorem length_groups (k n : ℕ) (l : List UInt8) : (groups k n l).length = n := by
  induction n generalizing l with
  | zero => rfl
  | succ n ih => rw [groups, List.length_cons, ih]

/-- The groups of a table of rows of `k` bytes are its rows. -/
theorem groups_flatten {k : ℕ} (hk : 0 < k) {rows : List (List UInt8)}
    (h : ∀ row ∈ rows, row.length = k) :
    groups k (rows.flatten.length / k) rows.flatten = rows := by
  have hlen : rows.flatten.length = rows.length * k := by
    rw [List.length_flatten, List.map_congr_left h, List.map_const',
      List.sum_replicate_nat]
  rw [hlen, Nat.mul_div_cancel _ hk]
  clear hlen
  induction rows with
  | nil => rfl
  | cons row rows ih =>
    obtain ⟨hrow, hrows⟩ := List.forall_mem_cons.1 h
    rw [List.length_cons, List.flatten_cons, groups, List.take_left' hrow, List.drop_left' hrow,
      ih hrows]

end Sounder

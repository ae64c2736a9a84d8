import Sounder.Board
import Sounder.Lib.Gate

/-!
# Device files

The operations of a device file, called by any number of threads, statement by statement.
The reads and writes are the same in both drivers: the `down_interruptible`, the tests of a
read with its jump to `READ_OUT`, the `up`, the `return`. What an `ioctl` does is up to the
driver (`DeviceFile.own`). Taken with nothing in between, the statements are the functions of
the driver (`exec_of_run`).

If the statements of the `ioctl` lead on with the semaphore in hand, and come to an end
(`DeviceFile.Leads`), then so do all (`paired`, `left_lt`). Nobody ever gets to
`copy_to_user`, as there is nothing to return, and whoever returns, returns `0`, or
`-ERESTARTSYS` after a signal (`zero_of_run`).
-/

namespace Sounder

namespace DeviceFile

/-- The operations. -/
inductive Op
  /-- `npca110_read` or `ntp8230_read`; `missing` is the result of `copy_to_user`. -/
  | read (count missing : ℕ)
  /-- `npca110_write` or `ntp8230_write`. -/
  | write
  /-- `npca110_ioctl` or `ntp8230_ioctl`. -/
  | ioctl (cmd : UInt32)
  deriving DecidableEq

/-- The points of their code, each with the locals that live there; `ρ` are those of the
    `ioctl` while it has the semaphore. -/
inductive Point (ρ : Type*)
  /-- In a read, before `down_interruptible`. -/
  | downRead (count missing : ℕ)
  /-- In a write, before `down_interruptible`. -/
  | downWrite
  /-- In an `ioctl`, before `down_interruptible`; it goes on at `k`. -/
  | downOwn (k : ρ)
  /-- In a read, before the test of `count`. -/
  | range (count missing : ℕ) (ret : ℤ)
  /-- In a read, before the test of `ret`. -/
  | positive (missing : ℕ) (ret : ℤ)
  /-- In a read, before `copy_to_user`. -/
  | copy (missing : ℕ)
  /-- In an `ioctl`. -/
  | own (k : ρ)
  /-- Before `up`. -/
  | up (ret : ℤ)
  /-- Before `return`. -/
  | ret (ret : ℤ)
  deriving DecidableEq

end DeviceFile

open DeviceFile

/-- The device file of a driver with states `σ`, and the other calls `ε` of the driver. -/
structure DeviceFile (σ ρ ε : Type*) where
  /-- The count of the semaphore of the device structure. -/
  count : σ → ℕ
  /-- The count is set. -/
  setCount : ℕ → σ → σ
  /-- Where an `ioctl` begins. -/
  ioctl : UInt32 → Point ρ
  /-- A statement of the `ioctl`; there is no result where it kills the thread. -/
  own : ρ → σ → Option (σ × Point ρ)
  /-- Another call of the driver, where it is possible. -/
  env : ε → σ → Option σ
  count_setCount (n : ℕ) (s : σ) : count (setCount n s) = n
  count_own {k : ρ} {k' : Point ρ} {s t : σ} : own k s = some (t, k') → count t = count s
  count_env {e : ε} {s t : σ} : env e s = some t → count t = count s

namespace DeviceFile

variable {σ ρ ε : Type*} (F : DeviceFile σ ρ ε)

/-! ## The functions -/

/-- `down`. -/
def down (s : σ) : Option σ :=
  if F.count s = 0 then none else some (F.setCount (F.count s - 1) s)

/-- `up`. -/
def up (s : σ) : σ := F.setCount (F.count s + 1) s

/-- A read: what it returns, and what it copies to the caller. `buffer` is that of the device
    structure, and `missing` the result of `copy_to_user`. -/
def read (interrupted : Bool) (count : ℕ) (buffer : List UInt8) (missing : ℕ) (s : σ) :
    Option ((ℤ × Option (List UInt8)) × σ) :=
  if interrupted then some ((-erestartsys, none), s)
  else do
    let s ← F.down s
    let ret : ℤ := 0
    let (ret, copied) :=
      if 6 ≤ count ∨ count < 1 then (ret, none)
      else if 0 < ret then ((missing : ℤ), some buffer)
      else (ret, none)
    some ((ret, copied), F.up s)

/-- A write. -/
def write (interrupted : Bool) (s : σ) : Option (ℤ × σ) :=
  if interrupted then some (-erestartsys, s)
  else do
    let s ← F.down s
    let err : ℤ := 0
    some (err, F.up s)

/-- Nothing is read: the caller gets none of the buffer, whatever it asks for. -/
theorem read_eq (interrupted : Bool) (count : ℕ) (buffer : List UInt8) (missing : ℕ) (s : σ) :
    F.read interrupted count buffer missing s =
      (F.write interrupted s).map fun (ret, t) => ((ret, none), t) := by
  cases interrupted
  · cases h : F.down s <;> simp [read, write, h]
  · rfl

/-! ## The statements -/

/-- Where an operation begins. -/
def entry : Op → Point ρ
  | .read count missing => .downRead count missing
  | .write => .downWrite
  | .ioctl cmd => F.ioctl cmd

/-- The statement at a point. -/
def code : Point ρ → Gate.Statement σ (Point ρ)
  | .downRead count missing => .down (.range count missing 0) (.ret (-erestartsys))
  | .downWrite => .down (.up 0) (.ret (-erestartsys))
  | .downOwn k => .down (.own k) (.ret (-erestartsys))
  | .range count missing ret => .act fun s =>
    -- `goto READ_OUT`
    if 6 ≤ count ∨ count < 1 then some (s, .up ret) else some (s, .positive missing ret)
  | .positive missing ret => .act fun s =>
    if 0 < ret then some (s, .copy missing) else some (s, .up ret)
  | .copy missing => .act fun s => some (s, .up missing)
  | .own k => .act (F.own k)
  | .up ret => .up (.ret ret)
  | .ret ret => .ret ret

/-- A thread at the point has the semaphore. -/
def Point.held : Point ρ → Bool
  | .downRead _ _ | .downWrite | .downOwn _ | .ret _ => false
  | _ => true

/-- How many steps are left before the operation returns, at most, if so many are `leftOwn`
    of an `ioctl`. -/
def Point.left (leftOwn : ρ → ℕ) : Point ρ → ℕ
  | .ret _ => 0
  | .up _ => 1
  | .copy _ => 2
  | .positive _ _ => 3
  | .range _ _ _ => 4
  | .downRead _ _ | .downWrite => 5
  | .own k => leftOwn k
  | .downOwn k => leftOwn k + 1

/-- Nothing has been read, and nothing failed: `ret` and `err` are still `0`, and the operation
    returns that, or that it was interrupted. -/
def Point.Zero : Point ρ → Prop
  | .range _ _ v | .positive _ v | .up v => v = 0
  | .copy _ => False
  | .ret v => v = 0 ∨ v = -erestartsys
  | _ => True

variable {F} {k k' : Point ρ} {f : σ → Option (σ × Point ρ)} {s t : σ} {leftOwn : ρ → ℕ}

/-- A statement that acts is one of the `ioctl`, or one of a read, which leads on with the
    semaphore in hand, and changes nothing. -/
theorem act_cases (leftOwn : ρ → ℕ) (hk : F.code k = .act f) :
    (∃ j, k = .own j ∧ f = F.own j) ∨
      k.held = true ∧ ∀ s, ∃ k', f s = some (s, k') ∧ k'.held = true ∧
        k'.left leftOwn < k.left leftOwn ∧ (k.Zero → k'.Zero) := by
  cases k with
  | own j =>
    cases hk
    exact .inl ⟨j, rfl, rfl⟩
  | range count missing ret =>
    cases hk
    refine .inr ⟨rfl, fun s => ?_⟩
    by_cases h : 6 ≤ count ∨ count < 1
    · exact ⟨.up ret, if_pos h, rfl, by simp [Point.left], id⟩
    · exact ⟨.positive missing ret, if_neg h, rfl, by simp [Point.left], id⟩
  | positive missing ret =>
    cases hk
    refine .inr ⟨rfl, fun s => ?_⟩
    by_cases h : 0 < ret
    · exact ⟨.copy missing, if_pos h, rfl, by simp [Point.left], fun hz => absurd hz h.ne'⟩
    · exact ⟨.up ret, if_neg h, rfl, by simp [Point.left], id⟩
  | copy missing =>
    cases hk
    exact .inr ⟨rfl, fun s => ⟨.up missing, rfl, rfl, by simp [Point.left], False.elim⟩⟩
  | _ => cases hk

/-- A statement that acts leaves the semaphore. -/
theorem count_act (hk : F.code k = .act f) (h : f s = some (t, k')) : F.count t = F.count s := by
  obtain ⟨j, rfl, rfl⟩ | ⟨-, hf⟩ := act_cases (fun _ => 0) hk
  · exact F.count_own h
  · obtain ⟨_, hs, -⟩ := hf s
    cases hs.symm.trans h
    rfl

variable (F) in
/-- The operations, with the semaphore of the device structure. -/
def gate : Gate σ (Point ρ) Op ε where
  count := F.count
  setCount := F.setCount
  entry := F.entry
  code := F.code
  env := F.env
  count_setCount := F.count_setCount
  count_act := count_act
  count_env := F.count_env

variable (F) in
/-- An `ioctl` begins without the semaphore, and its statements lead on with it, and downwards
    in the numbers `leftOwn`. It returns `0`. -/
structure Leads (leftOwn : ρ → ℕ) : Prop where
  ioctl (cmd : UInt32) : (F.ioctl cmd).held = false ∧ (F.ioctl cmd).Zero
  own {k : ρ} {k' : Point ρ} {s t : σ} : F.own k s = some (t, k') →
    k'.held = true ∧ k'.left leftOwn < leftOwn k ∧ k'.Zero

/-- Where a statement that acts leads to. -/
theorem Leads.act (h : F.Leads leftOwn) (hk : F.code k = .act f) (hf : f s = some (t, k')) :
    k'.held = k.held ∧ k'.left leftOwn < k.left leftOwn ∧ (k.Zero → k'.Zero) := by
  obtain ⟨j, rfl, rfl⟩ | ⟨hheld, hread⟩ := act_cases leftOwn hk
  · obtain ⟨hheld, hlt, hzero⟩ := h.own hf
    exact ⟨hheld, hlt, fun _ => hzero⟩
  · obtain ⟨k'', hs, hheld', hlt, hzero⟩ := hread s
    cases hs.symm.trans hf
    exact ⟨hheld'.trans hheld.symm, hlt, hzero⟩

theorem held_of_act (hk : F.code k = .act f) : k.held = true := by
  obtain ⟨j, rfl, -⟩ | ⟨hheld, -⟩ := act_cases (fun _ => 0) hk
  · rfl
  · exact hheld

/-- No path returns with the semaphore, gives it back twice, or gives back what it has not
    taken. -/
theorem Leads.paired (h : F.Leads leftOwn) : F.gate.Paired Point.held where
  entry o := by
    cases o with
    | ioctl cmd => exact (h.ioctl cmd).1
    | _ => rfl
  down {k _ _} hk := by cases k <;> cases hk <;> exact ⟨rfl, rfl, rfl⟩
  up {k _} hk := by
    cases k <;> cases hk
    exact ⟨rfl, rfl⟩
  act hk hf := (h.act hk hf).1
  die hk _ := held_of_act hk
  ret {k _} hk := by
    cases k <;> cases hk
    rfl

/-- The points of an operation are numbered downwards. -/
theorem Leads.left_lt (h : F.Leads leftOwn) (hf : F.gate.Follows k k') :
    k'.left leftOwn < k.left leftOwn := by
  cases hf with
  | taken hk => cases k <;> cases hk <;> simp [Point.left]
  | interrupted hk => cases k <;> cases hk <;> simp [Point.left]
  | up hk =>
    cases k <;> cases hk
    simp [Point.left]
  | act hk hf => exact (h.act hk hf).2.1

/-- A statement kills its thread only if it is one of the `ioctl`. -/
theorem own_of_act_eq_none (hk : F.code k = .act f) (hf : f s = none) :
    ∃ j, k = .own j ∧ F.own j s = none := by
  obtain ⟨j, rfl, rfl⟩ | ⟨-, hread⟩ := act_cases (fun _ => 0) hk
  · exact ⟨j, rfl, hf⟩
  · obtain ⟨_, hs, -⟩ := hread s
    cases hs.symm.trans hf

/-- The operations are live if the statements of the `ioctl` kill nobody while the driver is
    `Safe`, and it stays so. -/
theorem Leads.live (h : F.Leads leftOwn) {Safe : σ → Prop}
    (hcount : ∀ n {s}, Safe s → Safe (F.setCount n s))
    (hown : ∀ {k k' s t}, Safe s → F.own k s = some (t, k') → Safe t)
    (henv : ∀ {e s t}, Safe s → F.env e s = some t → Safe t)
    (hkills : ∀ k {s}, Safe s → F.own k s ≠ none)
    (hrescue : ∀ s, ∃ e t, F.env e s = some t ∧ Safe t) :
    F.gate.Live Safe (Point.left leftOwn) where
  safe_setCount := hcount
  safe_act hk hs hf := by
    obtain ⟨j, rfl, rfl⟩ | ⟨-, hread⟩ := act_cases leftOwn hk
    · exact hown hs hf
    · obtain ⟨_, hsome, -⟩ := hread _
      cases hsome.symm.trans hf
      exact hs
  safe_env := henv
  act_ne_none hk hs hf := by
    obtain ⟨j, -, hj⟩ := own_of_act_eq_none hk hf
    exact hkills j hs hj
  left_lt := h.left_lt
  rescue := hrescue

theorem Leads.zero_follows (h : F.Leads leftOwn) (hk : k.Zero) (hf : F.gate.Follows k k') :
    k'.Zero := by
  cases hf with
  | taken hk => cases k <;> cases hk <;> first | rfl | trivial
  | interrupted hk => cases k <;> cases hk <;> exact .inr rfl
  | up hk' =>
    cases k <;> cases hk'
    exact .inl hk
  | act hk' hf => exact (h.act hk' hf).2.2 hk

/-- In every run, no thread gets to `copy_to_user`, and whoever is about to return, returns
    `0` or `-ERESTARTSYS`. -/
theorem Leads.zero_of_run {ι : Type*} [DecidableEq ι] (h : F.Leads leftOwn) {s₀ : σ}
    {ts : List (Gate.Turn Op ε ι)} {s : Gate.Crowd σ (Point ρ) ι}
    (hrun : (F.gate.machine ι s₀).Run ts s) (i : ι) :
    (∀ missing, s.place i ≠ .inside (.copy missing)) ∧
      ∀ ret, s.place i = .inside (.ret ret) → ret = 0 ∨ ret = -erestartsys := by
  have hentry (o : Op) : (F.entry o).Zero := by
    cases o with
    | ioctl cmd => exact (h.ioctl cmd).2
    | _ => trivial
  have hzero := Gate.forall_inside_of_run (P := Point.Zero) hentry h.zero_follows hrun i
  exact ⟨fun missing hi => hzero _ hi, fun ret hi => hzero _ hi⟩

/-! ## The statements are the functions -/

variable {interrupted : Bool} {v ret : ℤ}

theorem ends_up_iff : F.gate.Ends interrupted (.up ret) s v t ↔ v = ret ∧ t = F.up s :=
  Gate.ends_iff.trans Gate.ends_iff

theorem down_eq_some_iff {u : σ} :
    F.down s = some u ↔ 0 < F.count s ∧ u = F.setCount (F.count s - 1) s := by
  rw [down]
  split_ifs with h
  · simp [h]
  · simp [Nat.pos_of_ne_zero h, eq_comm]

/-- A call is interrupted, or goes on when it has taken the semaphore. -/
theorem ends_down_iff (hk : F.code k = .down k' (.ret (-erestartsys))) :
    F.gate.Ends interrupted k s v t ↔
      (interrupted = true ∧ v = -erestartsys ∧ t = s) ∨
        (interrupted = false ∧ ∃ u, F.down s = some u ∧ F.gate.Ends interrupted k' u v t) := by
  have hret : F.gate.Ends interrupted (.ret (-erestartsys)) s v t ↔
      v = -erestartsys ∧ t = s := Gate.ends_iff
  rw [Gate.ends_iff, show F.gate.code k = _ from hk, ← hret]
  simp only [down_eq_some_iff, and_assoc, exists_and_left, exists_eq_left]
  rfl

theorem write_eq_some_iff : F.write interrupted s = some (v, t) ↔
    (interrupted = true ∧ v = -erestartsys ∧ t = s) ∨
      (interrupted = false ∧ ∃ u, F.down s = some u ∧ v = 0 ∧ t = F.up u) := by
  cases interrupted <;>
    simp [write, Option.bind_eq_some_iff, @eq_comm _ t, @eq_comm _ v]

/-- The statements of a write. -/
theorem ends_write_iff :
    F.gate.Ends interrupted (F.gate.entry .write) s v t ↔ F.write interrupted s = some (v, t) := by
  refine Iff.trans (ends_down_iff rfl) (Iff.trans ?_ write_eq_some_iff.symm)
  simp only [ends_up_iff]

/-- The statements of a read are, in the end, those of a write. -/
theorem ends_read_iff {count missing : ℕ} (buffer : List UInt8) :
    F.gate.Ends interrupted (F.gate.entry (.read count missing)) s v t ↔
      ∃ copied, F.read interrupted count buffer missing s = some ((v, copied), t) := by
  have hpositive {s : σ} : F.gate.Ends interrupted (.positive missing 0) s v t ↔
      F.gate.Ends interrupted (.up 0) s v t := Gate.ends_of_act rfl rfl
  have hrange {s : σ} : F.gate.Ends interrupted (.range count missing 0) s v t ↔
      F.gate.Ends interrupted (.up 0) s v t := by
    by_cases h : 6 ≤ count ∨ count < 1
    · exact Gate.ends_of_act rfl (if_pos h)
    · exact Iff.trans (Gate.ends_of_act rfl (if_neg h)) hpositive
  have hwrite : F.gate.Ends interrupted (F.gate.entry (.read count missing)) s v t ↔
      F.gate.Ends interrupted (F.gate.entry .write) s v t := by
    refine Iff.trans (ends_down_iff rfl) (Iff.trans ?_ (ends_down_iff rfl).symm)
    simp only [hrange]
  rw [hwrite, ends_write_iff]
  simp [read_eq]

variable (F) in
/-- What a call returns, and the driver after it; `ioctl` is that of the driver. -/
def run (ioctl : Bool → UInt32 → σ → Option (ℤ × σ)) (interrupted : Bool) (buffer : List UInt8) :
    Op → σ → Option (ℤ × σ)
  | .read count missing, s =>
    (F.read interrupted count buffer missing s).map fun ((ret, _), t) => (ret, t)
  | .write, s => F.write interrupted s
  | .ioctl cmd, s => ioctl interrupted cmd s

/-- A whole call, with nothing in between, is the function of the driver, if its `ioctl` is. -/
theorem exec_of_run {ioctl : Bool → UInt32 → σ → Option (ℤ × σ)} {buffer : List UInt8}
    (hioctl : ∀ {cmd s v t}, ioctl interrupted cmd s = some (v, t) →
      F.gate.Ends interrupted (F.ioctl cmd) s v t)
    {ι : Type*} [DecidableEq ι] {s₀ : σ} {s : Gate.Crowd σ (Point ρ) ι} {i : ι} {op : Op}
    (hi : s.place i = .idle)
    (h : F.run ioctl interrupted buffer op s.shared = some (ret, t)) :
    ∃ ms : List (Gate.Move Op), (F.gate.machine ι s₀).exec s
      ((.call op :: ms).map (.thread i)) = some ⟨t, s.place⟩ := by
  have hends : F.gate.Ends interrupted (F.gate.entry op) s.shared ret t := by
    cases op with
    | read count missing =>
      obtain ⟨⟨⟨_, copied⟩, _⟩, hread, he⟩ := Option.map_eq_some_iff.1 h
      cases he
      exact (ends_read_iff buffer).2 ⟨copied, hread⟩
    | write => exact ends_write_iff.2 h
    | ioctl cmd => exact hioctl h
  exact hends.exec_call hi

end DeviceFile

end Sounder

import Mathlib.Data.Set.Subsingleton
import Sounder.Identity
import Sounder.Module.Load
import Sounder.Npca110.Delay
import Sounder.Npca110.Node
import Sounder.Ntp8230.Convergence

/-!
# The detection of the chips

The drivers let the I2C core look for their chips. Wherever something answers at the address
of a chip, the core asks the driver, which claims it if the number of the adapter is
`twi_id` (`npca110Detect`, `ntp8230Detect`). The core then creates a client under the name
that the driver has stored, and has it probed by the driver of this name. The board code, or a
user, can create clients as well, on any adapter.

`ntp8230_probe` makes `twi_id` the number of the adapter, before it has checked the chip. For
a client that was detected, this is the number the adapter has. For one that was created
otherwise, it may be the second adapter with this number, on which the chips are then looked
for, too (`numbers_of_run`). As long as clients are only detected, each driver probes one
client at most, and both are on the adapter that had the number from the start
(`only_of_run`).
-/

namespace Sounder.Detection

open Sounder.Module (Driver)

/-! ## The drivers -/

/-- `twi_id`, which the init functions set to its initial value. -/
def twiId : ℤ := 1

/-- `strlcpy(dst, src, size)`: what is in `dst` then. -/
def strlcpy (src : String) (size : ℕ) : String := String.ofList (src.toList.take (size - 1))

/-- `I2C_DEV_NAME`. -/
def devName : Driver → String
  | .npca110 => "npca110_sound"
  | .ntp8230 => "ntp8230_sound"

/-- The address in `device_address_tab`. -/
def address : Driver → ℕ
  | .npca110 => 0x73
  | .ntp8230 => 0x2A

/-- The detect function of a driver with the name `name`: what it returns, and what is then
    in `info->type`, where `type` was before. -/
def detect (name : String) (functionality : Bool) (nr : ℤ) (type : String) : ℤ × String :=
  if !functionality then (-Npca110.enodev, type)
  else if twiId = nr then (0, strlcpy name 15)
  else (-Npca110.enodev, type)

/-- `npca110_detect`. -/
def npca110Detect : Bool → ℤ → String → ℤ × String := detect "npca110_sound"

/-- `ntp8230_detect`. -/
def ntp8230Detect : Bool → ℤ → String → ℤ × String := detect "ntp8230_sound"

/-- The detect function of the driver. -/
def detectOf : Driver → Bool → ℤ → String → ℤ × String
  | .npca110 => npca110Detect
  | .ntp8230 => ntp8230Detect

/-- A driver claims what answers on an adapter with its number, under its own name. -/
theorem detectOf_eq (d : Driver) (functionality : Bool) (nr : ℤ) (type : String) :
    detectOf d functionality nr type =
      if functionality = true ∧ nr = twiId then (0, devName d) else (-Npca110.enodev, type) := by
  -- a name that fits is not truncated
  have hname (name : String) (hfits : strlcpy name 15 = name) :
      detect name functionality nr type =
        if functionality = true ∧ nr = twiId then (0, name) else (-Npca110.enodev, type) := by
    cases functionality with
    | false => rfl
    | true =>
      by_cases hnr : twiId = nr
      · rw [detect, if_neg (by decide), if_pos hnr, if_pos ⟨rfl, hnr.symm⟩, hfits]
      · rw [detect, if_neg (by decide), if_neg hnr, if_neg fun h => hnr h.2.symm]
  cases d with
  | npca110 => exact hname "npca110_sound" (by decide)
  | ntp8230 => exact hname "ntp8230_sound" (by decide)

/-- `ntp8230_probe`, with the number that it leaves the adapter. -/
def ntp8230Probe (functionality : Bool) (client : Client) (test data : UInt8) (wqCreated : Bool)
    (nr : ℤ) (s : Ntp8230.State) : ℤ × Ntp8230.State :=
  (if functionality then twiId else nr,
    (Ntp8230.probe functionality client test data wqCreated s).2)

/-! ## The core -/

variable {ι : Type*} [DecidableEq ι]

/-- A client of the core. -/
structure Device (ι : Type*) where
  adapter : ι
  addr : ℕ
  name : String

/-- The core, and the two drivers. -/
structure Bus (ι : Type*) where
  /-- `adapter->nr`. -/
  nr : ι → ℤ
  /-- The clients: a `Client` is an index in this list. -/
  clients : List (Device ι)
  npca110 : Npca110.State
  ntp8230 : Ntp8230.State

namespace Bus

/-- The client that the driver has bound. -/
def client (s : Bus ι) : Driver → Option Client
  | .npca110 => s.npca110.dev.client
  | .ntp8230 => s.ntp8230.client

/-- The core creates a client, unless the address is busy. -/
def create (dev : Device ι) (s : Bus ι) : Option (Bus ι) :=
  if (dev.adapter, dev.addr) ∈ s.clients.map fun dev => (dev.adapter, dev.addr) then none
  else some { s with clients := s.clients ++ [dev] }

/-- What can happen on the bus. -/
inductive Act (ι : Type*)
  /-- Something answers at the address of the driver: the driver is asked. -/
  | detect (d : Driver) (a : ι) (functionality : Bool)
  /-- A client is created by the board code or by a user. -/
  | create (dev : Device ι)
  /-- `npca110_probe`. -/
  | npca110Probe (client : Client) (functionality : Bool) (reply : List UInt8) (wqCreated : Bool)
  /-- `ntp8230_probe`. -/
  | ntp8230Probe (client : Client) (functionality : Bool) (test data : UInt8) (wqCreated : Bool)
  /-- The drivers do something else, which leaves the client they have bound. -/
  | other (npca110 : Npca110.State) (ntp8230 : Ntp8230.State)

/-- One step. The core has a client probed by the driver of its name. -/
def step (s : Bus ι) : Act ι → Option (Bus ι)
  | .detect d a functionality =>
    let (ret, name) := detectOf d functionality (s.nr a) ""
    if ret = 0 ∧ name ≠ "" then s.create ⟨a, address d, name⟩ else some s
  | .create dev => s.create dev
  | .npca110Probe client functionality reply wqCreated => do
    let dev ← s.clients[client]?
    if dev.name = devName .npca110 then
      some { s with npca110 := (Npca110.probe functionality client reply wqCreated s.npca110).2 }
    else none
  | .ntp8230Probe client functionality test data wqCreated => do
    let dev ← s.clients[client]?
    if dev.name = devName .ntp8230 then
      let (nr, ntp8230) := Detection.ntp8230Probe functionality client test data wqCreated
        (s.nr dev.adapter) s.ntp8230
      some { s with nr := Function.update s.nr dev.adapter nr, ntp8230 := ntp8230 }
    else none
  | .other npca110 ntp8230 =>
    if npca110.dev.client = s.npca110.dev.client ∧ ntp8230.client = s.ntp8230.client then
      some { s with npca110 := npca110, ntp8230 := ntp8230 }
    else none

variable {s t : Bus ι}

theorem create_eq_some_iff {dev : Device ι} :
    s.create dev = some t ↔
      (dev.adapter, dev.addr) ∉ s.clients.map (fun dev => (dev.adapter, dev.addr)) ∧
        t = { s with clients := s.clients ++ [dev] } := by
  rw [create]
  split_ifs with h <;> simp [h, eq_comm]

/-- What answers is created as a client, if the adapter can be used and has the number. -/
theorem step_detect (d : Driver) (a : ι) (functionality : Bool) :
    s.step (.detect d a functionality) =
      if functionality = true ∧ s.nr a = twiId then s.create ⟨a, address d, devName d⟩
      else some s := by
  have hname : devName d ≠ "" := by cases d <;> decide
  have hneg : -Npca110.enodev ≠ 0 := by decide
  rw [step, detectOf_eq]
  by_cases h : functionality = true ∧ s.nr a = twiId
  · rw [if_pos h, if_pos h]
    exact if_pos ⟨rfl, hname⟩
  · rw [if_neg h, if_neg h]
    exact if_neg fun h' => hneg h'.1

theorem step_npca110Probe {client : Client} {functionality : Bool} {reply : List UInt8}
    {wqCreated : Bool} :
    s.step (.npca110Probe client functionality reply wqCreated) = some t ↔
      ∃ dev, s.clients[client]? = some dev ∧ dev.name = devName .npca110 ∧ t = { s with
        npca110 := (Npca110.probe functionality client reply wqCreated s.npca110).2 } := by
  simp only [step, Option.bind_eq_bind, Option.bind_eq_some_iff, Option.ite_none_right_eq_some,
    Option.some_inj, @eq_comm _ t]

theorem step_ntp8230Probe {client : Client} {functionality : Bool} {test data : UInt8}
    {wqCreated : Bool} :
    s.step (.ntp8230Probe client functionality test data wqCreated) = some t ↔
      ∃ dev, s.clients[client]? = some dev ∧ dev.name = devName .ntp8230 ∧ t = { s with
        nr := if functionality then Function.update s.nr dev.adapter twiId else s.nr
        ntp8230 := (Ntp8230.probe functionality client test data wqCreated s.ntp8230).2 } := by
  cases functionality <;>
    simp [step, Detection.ntp8230Probe, Option.bind_eq_some_iff, @eq_comm _ t]

theorem step_other {npca110 : Npca110.State} {ntp8230 : Ntp8230.State} :
    s.step (.other npca110 ntp8230) = some t ↔
      (npca110.dev.client = s.npca110.dev.client ∧ ntp8230.client = s.ntp8230.client) ∧
        t = { s with npca110 := npca110, ntp8230 := ntp8230 } := by
  simp only [step, Option.ite_none_right_eq_some, Option.some_inj, @eq_comm _ t]

/-- The calls of `npca110.c` but for the probe are such steps. -/
theorem step_npca110Call {c : Npca110.Call} {u : Npca110.State} (h : c.run s.npca110 = some u) :
    s.step (.other u s.ntp8230) = some { s with npca110 := u } :=
  step_other.2 ⟨⟨Npca110.Call.client_of_run h, rfl⟩, rfl⟩

/-- So are the work items of `ntp8230.c`. -/
theorem step_ntp8230Work {u : Ntp8230.State} (h : Ntp8230.work s.ntp8230 = some u) :
    s.step (.other s.npca110 u) = some { s with ntp8230 := u } := by
  obtain ⟨w, queue, -, hex⟩ := Ntp8230.work_eq_some_iff.1 h
  exact step_other.2 ⟨⟨rfl, (Ntp8230.execWork_frame hex).1⟩, rfl⟩

end Bus

/-- The core before the first client, with both drivers loaded. -/
def machine (nr : ι → ℤ) (results : Stream' ℤ) (pins : Pin → Bool) :
    Machine (Bus ι) (Bus.Act ι) :=
  ⟨⟨nr, [], Npca110.loaded results pins, Ntp8230.loaded results pins false⟩, Bus.step⟩

/-! ## The numbers of the adapters -/

/-- `ntp8230_probe` gets as far as to number the adapter. -/
def Bus.Numbers (a : ι) (s : Bus ι) : Bus.Act ι → Prop
  | .ntp8230Probe client functionality _ _ _ =>
    functionality = true ∧ (s.clients[client]?).map Device.adapter = some a
  | _ => False

variable {s t : Bus ι} {act : Bus.Act ι} {a : ι}

/-- The step lemma. -/
theorem nr_of_step (h : s.step act = some t) :
    (s.Numbers a act → t.nr a = twiId) ∧ (¬s.Numbers a act → t.nr a = s.nr a) := by
  cases act with
  | detect d b functionality =>
    rw [Bus.step_detect] at h
    split_ifs at h
    · obtain ⟨-, rfl⟩ := Bus.create_eq_some_iff.1 h
      exact ⟨False.elim, fun _ => rfl⟩
    · obtain rfl := Option.some_inj.1 h
      exact ⟨False.elim, fun _ => rfl⟩
  | create dev =>
    obtain ⟨-, rfl⟩ := Bus.create_eq_some_iff.1 h
    exact ⟨False.elim, fun _ => rfl⟩
  | npca110Probe client functionality reply wqCreated =>
    obtain ⟨dev, -, -, rfl⟩ := Bus.step_npca110Probe.1 h
    exact ⟨False.elim, fun _ => rfl⟩
  | ntp8230Probe client functionality test data wqCreated =>
    obtain ⟨dev, hdev, -, rfl⟩ := Bus.step_ntp8230Probe.1 h
    cases functionality with
    | false => exact ⟨fun h => Bool.noConfusion h.1, fun _ => rfl⟩
    | true =>
      simp only [Bus.Numbers, hdev, Option.map_some, Option.some_inj, true_and, if_true]
      constructor
      · rintro rfl
        exact Function.update_self ..
      · exact fun hne => Function.update_of_ne (Ne.symm hne) ..
  | other npca110 ntp8230 =>
    obtain ⟨-, rfl⟩ := Bus.step_other.1 h
    exact ⟨False.elim, fun _ => rfl⟩

variable {nr : ι → ℤ} {results : Stream' ℤ} {pins : Pin → Bool} {as : List (Bus.Act ι)}

/-- In the run `as`, `ntp8230_probe` has numbered the adapter. -/
def Numbered (nr : ι → ℤ) (results : Stream' ℤ) (pins : Pin → Bool) (as : List (Bus.Act ι))
    (a : ι) : Prop :=
  ¬(machine nr results pins).Meets (fun s act => ¬s.Numbers a act) as

/-- An adapter has the number of the drivers if it had it from the start, or has been
    numbered. Otherwise it has kept its own. -/
theorem nr_of_run (hrun : (machine nr results pins).Run as s) (a : ι) :
    (s.nr a = twiId ↔ nr a = twiId ∨ Numbered nr results pins as a) ∧
      (s.nr a = twiId ∨ s.nr a = nr a) := by
  constructor
  · by_cases ha : nr a = twiId
    · refine iff_of_true ?_ (.inl ha)
      refine Machine.Run.invariant (I := fun s => s.nr a = twiId) (C := fun _ _ => True) ha
        (fun {s act t} hs _ hst => ?_) hrun Machine.meets_true
      by_cases hn : s.Numbers a act
      · exact (nr_of_step hst).1 hn
      · exact ((nr_of_step hst).2 hn).trans hs
    · rw [or_iff_right ha, Numbered, ← not_iff_not, not_not]
      refine hrun.iff_meets (I := fun _ => True) (P := fun s => s.nr a ≠ twiId) trivial ha
        fun {s act t} _ hst => ⟨trivial, ?_⟩
      -- from the other numbers, only a probe leads to the number of the drivers
      by_cases hn : s.Numbers a act
      · exact iff_of_false (not_not.2 ((nr_of_step hst).1 hn)) fun h => h.2 hn
      · rw [(nr_of_step hst).2 hn, and_iff_left hn]
  · refine Machine.Run.invariant (I := fun s => s.nr a = twiId ∨ s.nr a = nr a)
      (C := fun _ _ => True) (.inr rfl) (fun {s act t} hs _ hst => ?_) hrun Machine.meets_true
    by_cases hn : s.Numbers a act
    · exact .inl ((nr_of_step hst).1 hn)
    · rw [(nr_of_step hst).2 hn]
      exact hs

/-- The chips are looked for on the adapters that had the number, and on those that were
    numbered. The adapters can be told apart by their numbers as long as this is one. -/
theorem numbers_of_run (hrun : (machine nr results pins).Run as s)
    (hnr : Function.Injective nr) :
    (∀ d a, (detectOf d true (s.nr a) "").1 = 0 ↔
      nr a = twiId ∨ Numbered nr results pins as a) ∧
    (Function.Injective s.nr ↔
      {a | nr a = twiId ∨ Numbered nr results pins as a}.Subsingleton) := by
  have hset (a : ι) := (nr_of_run hrun a).1
  constructor
  · intro d a
    rw [← hset, detectOf_eq]
    by_cases h : s.nr a = twiId
    · rw [if_pos ⟨rfl, h⟩]
      exact iff_of_true rfl h
    · rw [if_neg fun h' => h h'.2]
      exact iff_of_false (by decide : -Npca110.enodev ≠ 0) h
  · constructor
    · intro hinj a ha b hb
      exact hinj (((hset a).2 ha).trans ((hset b).2 hb).symm)
    · -- two equal numbers are that of the drivers, or those from the start
      intro hsub a b hab
      by_cases ha : s.nr a = twiId
      · exact hsub ((hset a).1 ha) ((hset b).1 (hab.symm.trans ha))
      · have hb : s.nr b ≠ twiId := fun hb => ha (hab.trans hb)
        exact hnr (((nr_of_run hrun a).2.resolve_left ha).symm.trans
          (hab.trans ((nr_of_run hrun b).2.resolve_left hb)))

/-- The numbers of two adapters, one of them that of the drivers. -/
def twoAdapters (a : Bool) : ℤ := if a then 1 else 0

theorem twoAdapters_injective : Function.Injective twoAdapters := by
  intro a b h
  cases a <;> cases b <;> first | rfl | exact absurd h (by decide)

/-- A client is created on the other adapter, and `ntp8230_probe` fails to check it. -/
def misplaced : List (Bus.Act Bool) :=
  [.create ⟨false, 0x2A, "ntp8230_sound"⟩, .ntp8230Probe 0 true 0x00 0x00 true]

/-- It is numbered all the same, and there are two adapters with the number. -/
theorem numbers_of_run_misplaced : ∃ s,
    (machine twoAdapters (.const 2) fun _ => false).Run misplaced s ∧
      Numbered twoAdapters (.const 2) (fun _ => false) misplaced false ∧
      ¬Function.Injective s.nr := by
  obtain ⟨s, hs, hnr⟩ := Machine.exists_run_of_map
    (machine twoAdapters (.const 2) fun _ => false) misplaced
    (fun s => decide (s.nr false = 1)) (by decide)
  obtain ⟨hdetect, hinj⟩ := numbers_of_run hs twoAdapters_injective
  have hfalse : (detectOf .npca110 true (s.nr false) "").1 = 0 := by
    rw [of_decide_eq_true hnr]
    decide
  have hnum := ((hdetect .npca110 false).1 hfalse).resolve_left (by decide)
  refine ⟨s, hs, hnum, fun h => ?_⟩
  have hsub := hinj.1 h
  exact absurd (@hsub true (.inl rfl) false (.inr hnum)) (by decide)

/-! ## Clients that were detected -/

theorem client_npca110Probe (functionality : Bool) (client : Client) (reply : List UInt8)
    (wqCreated : Bool) (s : Npca110.State) :
    (Npca110.probe functionality client reply wqCreated s).2.dev.client = some client ∨
      (Npca110.probe functionality client reply wqCreated s).2.dev.client = s.dev.client := by
  by_cases h : functionality = true ∧
      ChecksOut s.board.results.head (reply = Npca110.version)
  · exact .inl (congrArg Binding.client
      (Npca110.probe_of_checksOut functionality client reply wqCreated s h).2)
  · exact .inr (congrArg Binding.client
      (Npca110.probe_of_not_checksOut functionality client reply wqCreated s h).2)

theorem client_ntp8230Probe (functionality : Bool) (client : Client) (test data : UInt8)
    (wqCreated : Bool) (s : Ntp8230.State) :
    (Ntp8230.probe functionality client test data wqCreated s).2.client = some client ∨
      (Ntp8230.probe functionality client test data wqCreated s).2.client = s.client := by
  by_cases h : functionality = true ∧
      ChecksOut s.board.results.tail.head (data = Ntp8230.chipId)
  · exact .inl (congrArg Binding.client
      (Ntp8230.probe_of_checksOut functionality client test data wqCreated s h).2)
  · exact .inr (congrArg Binding.client
      (Ntp8230.probe_of_not_checksOut functionality client test data wqCreated s h).2)

theorem devName_injective : Function.Injective devName := by
  intro d d' h
  cases d <;> cases d' <;> first | rfl | exact absurd h (by decide)

/-- All clients were detected, on adapters with the numbers `nr`. -/
structure Bus.Detected (nr : ι → ℤ) (s : Bus ι) : Prop where
  nr_eq : s.nr = nr
  /-- A client has the name and the address of a driver, and is on its adapter. -/
  detected {dev : Device ι} : dev ∈ s.clients →
    nr dev.adapter = twiId ∧ ∃ d, dev.name = devName d ∧ dev.addr = address d
  /-- No address is in use twice. -/
  nodup : (s.clients.map fun dev => (dev.adapter, dev.addr)).Nodup
  /-- A driver has bound a client of its name. -/
  bound {d : Driver} {c : Client} : s.client d = some c →
    ∃ dev, s.clients[c]? = some dev ∧ dev.name = devName d

namespace Bus.Detected

/-- Detecting another client. -/
theorem create (h : s.Detected nr) {d : Driver} (ha : nr a = twiId)
    (hst : s.create ⟨a, address d, devName d⟩ = some t) : t.Detected nr := by
  obtain ⟨hfree, rfl⟩ := Bus.create_eq_some_iff.1 hst
  refine ⟨h.nr_eq, fun {dev} hdev => ?_, ?_, fun hc => ?_⟩
  · obtain hdev | hdev := List.mem_append.1 hdev
    · exact h.detected hdev
    · obtain rfl := List.mem_singleton.1 hdev
      exact ⟨ha, d, rfl, rfl⟩
  · rw [List.map_append]
    exact h.nodup.append (List.nodup_singleton _) (by simpa using hfree)
  · obtain ⟨dev, hdev, hname⟩ := h.bound hc
    have hlt := (List.getElem?_eq_some_iff.1 hdev).1
    exact ⟨dev, (List.getElem?_append_left hlt).trans hdev, hname⟩

/-- The step lemma. -/
theorem step (h : s.Detected nr) (hact : ∀ dev, act ≠ .create dev) (hst : s.step act = some t) :
    t.Detected nr := by
  cases act with
  | detect d a functionality =>
    rw [Bus.step_detect] at hst
    split_ifs at hst with ha
    · exact h.create (h.nr_eq ▸ ha.2) hst
    · exact Option.some_inj.1 hst ▸ h
  | create dev => exact absurd rfl (hact dev)
  | npca110Probe client functionality reply wqCreated =>
    obtain ⟨dev, hdev, hname, rfl⟩ := Bus.step_npca110Probe.1 hst
    refine ⟨h.nr_eq, h.detected, h.nodup, fun {d c} hc => ?_⟩
    cases d with
    | npca110 =>
      obtain hnew | hold := client_npca110Probe functionality client reply wqCreated s.npca110
      · obtain rfl := Option.some_inj.1 (hnew.symm.trans hc)
        exact ⟨dev, hdev, hname⟩
      · exact h.bound (hold.symm.trans hc)
    | ntp8230 => exact h.bound hc
  | ntp8230Probe client functionality test data wqCreated =>
    obtain ⟨dev, hdev, hname, rfl⟩ := Bus.step_ntp8230Probe.1 hst
    refine ⟨?_, h.detected, h.nodup, fun {d c} hc => ?_⟩
    · -- the number is the one that the adapter has
      have hnr := (h.detected (List.mem_of_getElem? hdev)).1
      rw [← h.nr_eq] at hnr ⊢
      cases functionality with
      | false => rfl
      | true =>
        rw [if_pos rfl, ← hnr]
        exact Function.update_eq_self _ _
    · cases d with
      | npca110 => exact h.bound hc
      | ntp8230 =>
        obtain hnew | hold := client_ntp8230Probe functionality client test data wqCreated s.ntp8230
        · obtain rfl := Option.some_inj.1 (hnew.symm.trans hc)
          exact ⟨dev, hdev, hname⟩
        · exact h.bound (hold.symm.trans hc)
  | other npca110 ntp8230 =>
    obtain ⟨⟨hnpca110, hntp8230⟩, rfl⟩ := Bus.step_other.1 hst
    refine ⟨h.nr_eq, h.detected, h.nodup, fun {d c} hc => ?_⟩
    cases d with
    | npca110 => exact h.bound (hnpca110.symm.trans hc)
    | ntp8230 => exact h.bound (hntp8230.symm.trans hc)

omit [DecidableEq ι] in
/-- A driver has one client at most, if the adapters have numbers of their own. -/
theorem unique (h : s.Detected nr) (hnr : Function.Injective nr) {c c' : Client}
    {dev dev' : Device ι} (hdev : s.clients[c]? = some dev) (hdev' : s.clients[c']? = some dev')
    (hname : dev.name = dev'.name) : c = c' := by
  obtain ⟨ha, d, hd, haddr⟩ := h.detected (List.mem_of_getElem? hdev)
  obtain ⟨ha', d', hd', haddr'⟩ := h.detected (List.mem_of_getElem? hdev')
  obtain rfl := devName_injective (hd.symm.trans (hname.trans hd'))
  have hpair : (dev.adapter, dev.addr) = (dev'.adapter, dev'.addr) := by
    rw [hnr (ha.trans ha'.symm), haddr, haddr']
  have hlt := (List.getElem?_eq_some_iff.1 hdev).1
  refine (List.getElem?_inj (by rwa [List.length_map]) h.nodup).1 ?_
  rw [List.getElem?_map, List.getElem?_map, hdev, hdev', Option.map_some, Option.map_some, hpair]

end Bus.Detected

/-- As long as clients are only detected, the adapters keep their numbers, each driver has one
    client at most, and the client it has bound is on the adapter with the number of the
    drivers. -/
theorem only_of_run (hrun : (machine nr results pins).Run as s) (hnr : Function.Injective nr)
    (hdet : ∀ dev, .create dev ∉ as) :
    s.nr = nr ∧
    (∀ (c c' : Client) dev dev', s.clients[c]? = some dev → s.clients[c']? = some dev' →
      dev.name = dev'.name → c = c') ∧
    ∀ d c, s.client d = some c → ∃ dev, s.clients[c]? = some dev ∧ dev.name = devName d ∧
      nr dev.adapter = twiId := by
  have h : s.Detected nr := by
    refine Machine.Run.invariant (I := fun s => s.Detected nr)
      (C := fun _ act => ∀ dev, act ≠ .create dev) ⟨rfl, ?_, List.nodup_nil, ?_⟩
      (fun hs hact hst => hs.step hact hst) hrun
      (Machine.meets_of_forall fun act hact _ dev he => hdet dev (he ▸ hact))
    · exact fun hdev => absurd hdev List.not_mem_nil
    · intro d c hc
      cases d <;> cases hc
  refine ⟨h.nr_eq, fun c c' dev dev' => h.unique hnr, fun d c hc => ?_⟩
  obtain ⟨dev, hdev, hname⟩ := h.bound hc
  exact ⟨dev, hdev, hname, (h.detected (List.mem_of_getElem? hdev)).1⟩

/-- Both chips answer, and are probed. -/
def detected : List (Bus.Act Bool) :=
  [.detect .npca110 true true, .detect .ntp8230 true true, .detect .ntp8230 false true,
    .npca110Probe 0 true [0x00, 0x60, 0x00] true, .ntp8230Probe 1 true 0x00 0x98 true]

/-- Both clients are on the adapter with the number, and stay there when the drivers
    configure their chips. -/
theorem only_of_run_detected : ∃ s u v,
    (machine twoAdapters (.const 2) fun _ => false).Run detected s ∧
      Npca110.Call.work.run s.npca110 = some u ∧ Ntp8230.work s.ntp8230 = some v ∧
      ∃ t, (machine twoAdapters (.const 2) fun _ => false).Run
          (detected ++ [.other u s.ntp8230, .other u v]) t ∧
        ∃ dev, t.clients[1]? = some dev ∧ dev.name = "ntp8230_sound" ∧
          twoAdapters dev.adapter = 1 := by
  obtain ⟨s, hs, hp⟩ := Machine.exists_run_of_map
    (machine twoAdapters (.const 2) fun _ => false) detected
    (fun s => decide (s.client .ntp8230 = some 1 ∧
      (Npca110.Call.work.run s.npca110).isSome ∧ (Ntp8230.work s.ntp8230).isSome)) (by decide)
  obtain ⟨hclient, hwork, hwork'⟩ := of_decide_eq_true hp
  obtain ⟨u, hu⟩ := Option.isSome_iff_exists.1 hwork
  obtain ⟨v, hv⟩ := Option.isSome_iff_exists.1 hwork'
  have hcodec : (machine twoAdapters (.const 2) fun _ => false).Run
      (detected ++ [.other u s.ntp8230]) { s with npca110 := u } :=
    hs.step (show s.step (.other u s.ntp8230) = _ from Bus.step_npca110Call hu)
  let t : Bus Bool := { s with npca110 := u, ntp8230 := v }
  have ht : (machine twoAdapters (.const 2) fun _ => false).Run
      (detected ++ [.other u s.ntp8230, .other u v]) t := by
    have hamp : (machine twoAdapters (.const 2) fun _ => false).step { s with npca110 := u }
        (.other u v) = some t := Bus.step_ntp8230Work (s := { s with npca110 := u }) hv
    have h := hcodec.step hamp
    rwa [List.append_assoc] at h
  have hkept : t.client .ntp8230 = some 1 := by
    obtain ⟨w, queue, -, hex⟩ := Ntp8230.work_eq_some_iff.1 hv
    exact (Ntp8230.execWork_frame hex).1.trans hclient
  obtain ⟨-, -, hbound⟩ := only_of_run ht twoAdapters_injective (by simp [detected])
  exact ⟨s, u, v, hs, hu, hv, t, ht, hbound .ntp8230 1 hkept⟩

end Sounder.Detection

import Sounder.Module.Load
import Sounder.Ntp8230.Convergence

/-!
# The flag of the other driver

The two drivers in one kernel. The suspend work of the ntp8230 driver calls
`getEarInjectFlag`, a function of the npca110 driver that reads its device structure. The
init functions are called in either order, each as one event, with any results of their
calls; a driver that is built in stays in the kernel whatever its init function returned,
a module only if it returned `0`. A module that uses a symbol of another is loaded after
it, and keeps it from being unloaded.

That the npca110 driver is in the kernel does not mean that it has its structure: its
init function returns `0` without one, if it does not find its configuration, and a
driver that is built in may have freed it, or may not have been initialised yet. The
structure is there at every call of `getEarInjectFlag` exactly in the runs in which
every suspend work starts after an init function of which no call failed
(`askedLive_iff`).
-/

namespace Sounder.Module

/-! ## Images -/

/-- A driver in the kernel. -/
structure Image where
  globals : Globals
  ledger : List (Entry Resource)
  /-- The results of the calls of the init function, if it was called. -/
  calls : Option Calls

namespace Image

/-- A driver of which the init function was not called. -/
def fresh : Image := ⟨.zero, [], none⟩

/-- The driver `d` after its init function. -/
def initialised (d : Driver) (k : Calls) : Image :=
  let o := d.i2cInit k .zero
  ⟨o.globals, o.ledger, some k⟩

/-- What the driver has acquired and not released. -/
def held (i : Image) : List Resource := (audit i.ledger []).getD []

/-- The device pointer points to a structure that was allocated and not freed. -/
def Live (i : Image) : Prop := i.globals.dev = .valid ∧ .dev ∈ i.held

instance (i : Image) : Decidable i.Live := inferInstanceAs (Decidable (_ ∧ _))

/-- The init function of the driver `d` was called, and no call of it failed. -/
def Succeeded (d : Driver) (i : Image) : Prop := ∃ k, i.calls = some k ∧ k.Succeed d.gpios

/-- The image is what the init function of the driver `d` left, if it was called. -/
def Left (d : Driver) (i : Image) : Prop := i = fresh ∨ ∃ k, i = initialised d k

variable {d : Driver} {i : Image}

theorem left_fresh : fresh.Left d := .inl rfl

theorem live_initialised_iff (d : Driver) (k : Calls) :
    (initialised d k).Live ↔ k.Succeed d.gpios := by
  have hinit : initialised d k =
      ⟨(i2cInit d.gpios k .zero).globals, (i2cInit d.gpios k .zero).ledger, some k⟩ := by
    rw [initialised, d.i2cInit_eq]
  by_cases h : k.Succeed d.gpios
  · obtain ⟨-, hled, -, hdev, -⟩ := i2cInit_of_succeed (g := .zero) h
    refine iff_of_true ⟨by rw [hinit]; exact hdev, ?_⟩ h
    rw [held, hinit, hled,
      audit_acquire (nodup_resources k.number) fun _ _ => List.not_mem_nil]
    simp [resources]
  · -- every other call of the init function has released what it acquired
    obtain ⟨-, n, hled⟩ := i2cInit_of_not_succeed (g := .zero) h
    have hheld : (initialised d k).held = [] := by
      rw [held, hinit, hled,
        audit_ladder ((nodup_resources k.number).sublist (List.take_sublist n _)), Option.getD_some]
    exact iff_of_false (fun hlive => List.not_mem_nil (hheld ▸ hlive.2)) h

/-- The structure is there exactly if the init function was called, and no call failed. -/
theorem Left.live_iff (h : i.Left d) : i.Live ↔ i.Succeeded d := by
  rcases h with rfl | ⟨k, rfl⟩
  · exact iff_of_false (by decide) (by simp [Succeeded, fresh])
  · rw [live_initialised_iff]
    simp [Succeeded, initialised]

end Image

/-! ## The kernel -/

/-- The kernel with the two drivers. -/
structure Kernel where
  image : Driver → Image
  /-- The ntp8230 driver has bound a client. -/
  bound : Bool
  ntp8230 : Ntp8230.System
  /-- For each call of `getEarInjectFlag`, whether `npca110_dev` pointed to a structure
      that was allocated and not freed. -/
  asked : List Bool

/-- What happens in the kernel. -/
inductive Event
  /-- The init function of a driver is called. -/
  | init (d : Driver) (k : Calls)
  /-- The npca110 module is unloaded. -/
  | unload
  /-- `ntp8230_probe`. -/
  | probe (functionality : Bool) (client : Client) (test data : UInt8) (wqCreated : Bool)
  /-- A callback, the work queue thread, or the flag. -/
  | ntp8230 (a : Ntp8230.Act)

namespace Kernel

/-- The driver is in the kernel. -/
def resident (builtIn : Driver → Bool) (s : Kernel) (d : Driver) : Bool :=
  builtIn d || (s.image d).calls.isSome

/-- The action starts the suspend work, which calls `getEarInjectFlag`. -/
def Asks (s : Kernel) (a : Ntp8230.Act) : Prop :=
  a = .work ∧ s.ntp8230.drv.queue.pending.head? = some .suspend

instance (s : Kernel) (a : Ntp8230.Act) : Decidable (s.Asks a) :=
  inferInstanceAs (Decidable (_ ∧ _))

/-- One event, with the drivers `builtIn` built in. -/
def step (builtIn : Driver → Bool) (s : Kernel) : Event → Option Kernel
  | .init d k =>
    -- the ntp8230 driver is linked against the npca110 driver
    if (s.image d).calls.isNone ∧ (d = .ntp8230 → s.resident builtIn .npca110) then
      let stays := builtIn d || 0 ≤ (d.i2cInit k .zero).ret
      let image := if stays then .initialised d k else .fresh
      some { s with image := Function.update s.image d image }
    else none
  | .unload =>
    if !builtIn .npca110 && s.resident builtIn .npca110 && !s.resident builtIn .ntp8230 then
      some { s with image := Function.update s.image .npca110 .fresh }
    else none
  | .probe functionality client test data wqCreated =>
    if .driver ∈ (s.image .ntp8230).held then
      let (ret, drv) := Ntp8230.probe functionality client test data wqCreated s.ntp8230.drv
      some { s with bound := s.bound || ret = 0, ntp8230 := { s.ntp8230 with drv := drv } }
    else none
  | .ntp8230 a =>
    if s.bound then
      (s.ntp8230.step a).map fun sys =>
        { s with
          ntp8230 := sys
          asked :=
            if s.Asks a then s.asked ++ [decide (s.image .npca110).Live] else s.asked }
    else none

end Kernel

/-- The kernel, before the init functions. -/
def kernel (builtIn : Driver → Bool) (drv : Ntp8230.State) : Machine Kernel Event where
  init := ⟨fun _ => .fresh, false, ⟨drv, [], none, []⟩, []⟩
  step := Kernel.step builtIn

/-! ## The structure at the calls of `getEarInjectFlag` -/

namespace Kernel

/-- The suspend work starts after an init function of the npca110 driver of which no call
    failed. -/
def AsksAfterInit (s : Kernel) : Event → Prop
  | .ntp8230 a => s.Asks a → (s.image .npca110).Succeeded .npca110
  | _ => True

/-- `npca110_dev` pointed to a structure that was allocated and not freed at every call of
    `getEarInjectFlag`. -/
def AskedLive (s : Kernel) : Prop := ∀ live ∈ s.asked, live = true

/-- The images are what the init functions left. -/
def Left (s : Kernel) : Prop := ∀ d, (s.image d).Left d

variable {builtIn : Driver → Bool} {s t : Kernel} {e : Event}

/-- An image is replaced. -/
theorem Left.update (h : s.Left) {d : Driver} {i : Image} (hi : i.Left d) (d' : Driver) :
    (Function.update s.image d i d').Left d' := by
  by_cases hd : d' = d
  · subst hd
    rwa [Function.update_self]
  · rw [Function.update_of_ne hd]
    exact h d'

/-- The step lemma: the images are still what the init functions left, and the structure
    was there at a call of `getEarInjectFlag` exactly if no call of the init function
    failed. -/
theorem Left.step (h : s.Left) (hst : s.step builtIn e = some t) :
    t.Left ∧ (t.AskedLive ↔ s.AskedLive ∧ s.AsksAfterInit e) := by
  cases e with
  | init d k =>
    simp only [Kernel.step] at hst
    split_ifs at hst
    · obtain rfl := Option.some.inj hst
      exact ⟨h.update (.inr ⟨k, rfl⟩), (and_iff_left trivial).symm⟩
    · obtain rfl := Option.some.inj hst
      exact ⟨h.update Image.left_fresh, (and_iff_left trivial).symm⟩
  | unload =>
    simp only [Kernel.step] at hst
    split_ifs at hst
    obtain rfl := Option.some.inj hst
    exact ⟨h.update Image.left_fresh, (and_iff_left trivial).symm⟩
  | probe functionality client test data wqCreated =>
    simp only [Kernel.step] at hst
    split_ifs at hst
    obtain rfl := Option.some.inj hst
    exact ⟨h, (and_iff_left trivial).symm⟩
  | ntp8230 a =>
    simp only [Kernel.step] at hst
    split_ifs at hst with _ ha
    · obtain ⟨sys, -, rfl⟩ := Option.map_eq_some_iff.1 hst
      refine ⟨h, ?_⟩
      rw [AskedLive, AskedLive, List.forall_mem_append, List.forall_mem_singleton,
        decide_eq_true_iff, (h .npca110).live_iff, AsksAfterInit]
      exact and_congr_right fun _ => (imp_iff_right ha).symm
    · obtain ⟨sys, -, rfl⟩ := Option.map_eq_some_iff.1 hst
      exact ⟨h, (and_iff_left fun hasks => absurd hasks ha).symm⟩

end Kernel

variable {builtIn : Driver → Bool} {drv : Ntp8230.State} {es : List Event} {s : Kernel}

/-- `npca110_dev` points to a structure that was allocated and not freed at every call of
    `getEarInjectFlag` of a run, exactly if every suspend work of the run starts after an
    init function of the npca110 driver of which no call failed. -/
theorem askedLive_iff (hrun : (kernel builtIn drv).Run es s) :
    s.AskedLive ↔ (kernel builtIn drv).Meets Kernel.AsksAfterInit es :=
  hrun.iff_meets (I := Kernel.Left) (fun _ => Image.left_fresh) (by simp [Kernel.AskedLive, kernel])
    fun hs hst => hs.step hst

/-- The init functions, a probe, and a suspend callback with its work. -/
def suspendRun (npca110 ntp8230 : Calls) : List Event :=
  [.init .npca110 npca110, .init .ntp8230 ntp8230, .probe true 0 0 0x98 true, .ntp8230 .work,
    .ntp8230 (.pm .suspend), .ntp8230 .call, .ntp8230 .call, .ntp8230 .call, .ntp8230 .work]

/-- Two modules, of which no call fails. -/
theorem askedLive_allSucceed :
    ∃ s, (kernel (fun _ => false) (Ntp8230.loaded (Stream'.const 1) (fun _ => false) false)).Run
        (suspendRun allSucceed allSucceed) s ∧ s.asked = [true] ∧
      (kernel (fun _ => false) (Ntp8230.loaded (Stream'.const 1) (fun _ => false) false)).Meets
        Kernel.AsksAfterInit (suspendRun allSucceed allSucceed) := by
  obtain ⟨s, hs, hp⟩ := Machine.exists_run_of_map
    (kernel (fun _ => false) (Ntp8230.loaded (Stream'.const 1) (fun _ => false) false))
    (suspendRun allSucceed allSucceed) (fun s => s.asked = [true]) (by decide +kernel)
  have hasked : s.asked = [true] := of_decide_eq_true hp
  exact ⟨s, hs, hasked, (askedLive_iff hs).1 (by simp [Kernel.AskedLive, hasked])⟩

/-- A configuration that has what the ntp8230 driver looks up, but not the GPIO items of
    the npca110 driver. -/
def ntpConfig (key : String) : Item :=
  if key = "sound_used" then .int 1 else if key = "ntp_pa_ctrl" then .pio 0 else .other

/-- The npca110 module does not find its configuration: its init function returns `0`
    without a structure, the ntp8230 module is loaded after it, and its suspend work asks
    for the flag. -/
theorem not_askedLive :
    ∃ s, (kernel (fun _ => false) (Ntp8230.loaded (Stream'.const 1) (fun _ => false) false)).Run
        (suspendRun { allSucceed with script := ntpConfig }
          { allSucceed with script := ntpConfig }) s ∧
      ¬s.AskedLive := by
  obtain ⟨s, hs, hp⟩ := Machine.exists_run_of_map
    (kernel (fun _ => false) (Ntp8230.loaded (Stream'.const 1) (fun _ => false) false))
    (suspendRun { allSucceed with script := ntpConfig } { allSucceed with script := ntpConfig })
    (fun s => s.asked = [false]) (by decide +kernel)
  have hasked : s.asked = [false] := of_decide_eq_true hp
  exact ⟨s, hs, fun h => by simp [Kernel.AskedLive, hasked] at h⟩

end Sounder.Module

import Sounder.Board
import Sounder.Lib.Ledger
import Sounder.Lib.Machine

/-!
# Loading and unloading

The init and exit functions of the two modules, with a ledger of the resources that
they acquire from the kernel and release. The results of the calls to the kernel are
the environment's (`Calls`); the globals survive from a load to the exit function,
which tests them, and maybe to the next load.

A load should acquire everything, or report an error and release what it acquired,
and the exit function should release what a load that returned `0` acquired
(`Record.Ok`). It is not so (`not_recordsOk`): `ret` only holds the result of the last call
that returned an integer, so that a load whose `kmalloc`, `class_create` or
`device_create` fails returns `0` after releasing everything, and one that does not
find its configuration returns `0` with nothing acquired; the exit function then
releases again. It is so exactly in the runs without such a load (`recordsOk_iff`).
-/

namespace Sounder.Module

/-! ## The configuration -/

/-- What `script_get_item` finds. -/
inductive Item
  | int (val : ℤ)
  | pio (gpio : ℕ)
  | other

/-- `struct pin_config_info`. -/
structure PinConfigInfo where
  soundUsed : ℤ
  gpio : Pin → ℕ

/-- The GPIO items that `sound_fetch_sys_config` looks up, one after the other. -/
def fetchGpios (script : String → Item) :
    List (String × Pin) → PinConfigInfo → ℤ × PinConfigInfo
  | [], config => (0, config)
  | (key, pin) :: gpios, config =>
    match script key with
    | .pio gpio =>
      fetchGpios script gpios { config with gpio := Function.update config.gpio pin gpio }
    | _ => (-1, config)

/-- `sound_fetch_sys_config`, of a driver with the GPIO items `gpios`. -/
def soundFetchSysConfig (gpios : List (String × Pin)) (script : String → Item)
    (config : PinConfigInfo) : ℤ × PinConfigInfo :=
  match script "sound_used" with
  | .int val =>
    let config := { config with soundUsed := val }
    if val ≠ 1 then (-1, config) else fetchGpios script gpios config
  | _ => (-1, config)

/-- The GPIO items of the npca110. -/
def npca110Gpios : List (String × Pin) :=
  [("aux_pa_ctrl", .pa), ("reset_pin", .rs), ("ps_pin", .ps)]

/-- The GPIO items of the ntp8230. -/
def ntp8230Gpios : List (String × Pin) := [("ntp_pa_ctrl", .ntp)]

/-- The sound is used, and the GPIO items are there. -/
def Configured (gpios : List (String × Pin)) (script : String → Item) : Prop :=
  script "sound_used" = .int 1 ∧ ∀ p ∈ gpios, ∃ gpio, script p.1 = .pio gpio

theorem fetchGpios_eq_zero_iff {script : String → Item} {gpios : List (String × Pin)}
    {config : PinConfigInfo} :
    (fetchGpios script gpios config).1 = 0 ↔ ∀ p ∈ gpios, ∃ gpio, script p.1 = .pio gpio := by
  induction gpios generalizing config with
  | nil => simp [fetchGpios]
  | cons p gpios ih =>
    obtain ⟨key, pin⟩ := p
    rw [fetchGpios, List.forall_mem_cons]
    cases h : script key <;> simp [ih]

/-- The configuration is fetched exactly if it is there. -/
theorem soundFetchSysConfig_eq_zero_iff (gpios : List (String × Pin)) (script : String → Item)
    (config : PinConfigInfo) :
    (soundFetchSysConfig gpios script config).1 = 0 ↔ Configured gpios script := by
  rw [soundFetchSysConfig, Configured]
  cases h : script "sound_used" with
  | int val =>
    by_cases hval : val = 1
    · simp [hval, fetchGpios_eq_zero_iff]
    · simp [hval]
  | _ => simp

/-! ## The init function -/

/-- `dev_t`: a major and a minor number. -/
structure DevT where
  major : ℕ
  minor : ℕ
  deriving DecidableEq

/-- What a load acquires. -/
inductive Resource
  /-- The chrdev region of a device number. -/
  | region (dev : DevT)
  /-- The device structure. -/
  | dev
  | cdev
  | cls
  /-- The device node of a device number. -/
  | node (dev : DevT)
  /-- The registration of the I2C driver. -/
  | driver
  deriving DecidableEq

/-- A pointer of the module. -/
inductive Ptr
  | null
  | err
  | valid
  deriving DecidableEq

/-- The globals of a module. -/
structure Globals where
  /-- `npca110_major`, `ntp8230_major`. -/
  major : ℕ
  /-- `npca110_minor`, `ntp8230_minor`. -/
  minor : ℕ
  /-- `npca110_class`, `ntp8230_class`. -/
  cls : Ptr
  /-- `npca110_dev`, `ntp8230_dev`. -/
  dev : Ptr
  /-- `config_info`. -/
  config : PinConfigInfo

/-- The globals of an image that has just been loaded. -/
def Globals.zero : Globals := ⟨0, 0, .null, .null, ⟨0, fun _ => 0⟩⟩

/-- `MKDEV(major, minor)`. -/
def Globals.number (g : Globals) : DevT := ⟨g.major, g.minor⟩

/-- The result of a call that returns an integer: `0`, or a negative error code. -/
abbrev ErrorCode := {n : ℤ // n ≤ 0}

/-- The results of the calls of a load. -/
structure Calls where
  script : String → Item
  allocChrdevRegion : ErrorCode
  /-- The number that `alloc_chrdev_region` allocates. -/
  number : DevT
  /-- `kmalloc` does not return null. -/
  kmalloc : Bool
  cdevAdd : ErrorCode
  /-- `class_create` does not return an error pointer. -/
  classCreate : Bool
  /-- `device_create` does not return an error pointer. -/
  deviceCreate : Bool
  i2cAddDriver : ErrorCode

/-- What a load returns, leaves in the globals, and acquired and released. -/
structure Outcome where
  ret : ℤ
  globals : Globals
  ledger : List (Entry Resource)

/-- From the label `FAIL1` on. -/
def fail1 (g : Globals) : List (Entry Resource) := [.release (.region g.number)]

/-- From the label `FAIL2` on. -/
def fail2 (g : Globals) : List (Entry Resource) := .release .dev :: fail1 g

/-- From the label `FAIL3` on. -/
def fail3 (g : Globals) : List (Entry Resource) := .release .cdev :: fail2 g

/-- From the label `FAIL4` on. -/
def fail4 (g : Globals) : List (Entry Resource) := .release .cls :: fail3 g

/-- From the label `FAIL5` on. -/
def fail5 (dev : DevT) (g : Globals) : List (Entry Resource) := .release (.node dev) :: fail4 g

/-- The init function of a driver with the GPIO items `gpios`. -/
def i2cInit (gpios : List (String × Pin)) (k : Calls) (g : Globals) : Outcome :=
  let (ret, config) := soundFetchSysConfig gpios k.script g.config
  let g := { g with config := config }
  if ret ≠ 0 then ⟨0, g, []⟩
  else
    let ret := k.allocChrdevRegion.1
    if ret < 0 then ⟨ret, g, []⟩
    else
      let g := { g with major := k.number.major, minor := k.number.minor }
      let l := [.acquire (.region k.number)]
      -- a null or an error pointer leaves ret as it is
      let g := { g with dev := if k.kmalloc then .valid else .null }
      if g.dev = .null then ⟨ret, g, l ++ fail1 g⟩
      else
        let l := l ++ [.acquire .dev]
        let ret := k.cdevAdd.1
        if ret ≠ 0 then ⟨ret, g, l ++ fail2 g⟩
        else
          let l := l ++ [.acquire .cdev]
          let g := { g with cls := if k.classCreate then .valid else .err }
          if g.cls = .err then ⟨ret, g, l ++ fail3 g⟩
          else
            let l := l ++ [.acquire .cls]
            if !k.deviceCreate then ⟨ret, g, l ++ fail4 g⟩
            else
              let l := l ++ [.acquire (.node k.number)]
              let ret := k.i2cAddDriver.1
              if ret ≠ 0 then ⟨ret, g, l ++ fail5 k.number g⟩
              else ⟨ret, g, l ++ [.acquire .driver]⟩

/-- `npca110_i2c_init`. -/
def npca110I2cInit : Calls → Globals → Outcome := i2cInit npca110Gpios

/-- `ntp8230_i2c_init`. -/
def ntp8230I2cInit : Calls → Globals → Outcome := i2cInit ntp8230Gpios

/-- The exit function of a driver. -/
def i2cExit (g : Globals) : List (Entry Resource) :=
  (if g.cls ≠ .null then [.release (.node g.number), .release .cls] else []) ++
    (if g.dev ≠ .null then [.release .cdev, .release .dev] else []) ++
    [.release (.region g.number), .release .driver]

/-- `npca110_i2c_exit`. -/
def npca110I2cExit : Globals → List (Entry Resource) := i2cExit

/-- `ntp8230_i2c_exit`. -/
def ntp8230I2cExit : Globals → List (Entry Resource) := i2cExit

/-- The resources of a load, in the order in which it acquires them. -/
def resources (dev : DevT) : List Resource := [.region dev, .dev, .cdev, .cls, .node dev, .driver]

theorem nodup_resources (dev : DevT) : (resources dev).Nodup := by simp [resources]

/-! ## What a load does -/

section

variable {gpios : List (String × Pin)} {k : Calls} {g : Globals}

/-- No call of the load fails. -/
def Calls.Succeed (gpios : List (String × Pin)) (k : Calls) : Prop :=
  Configured gpios k.script ∧ k.allocChrdevRegion.1 = 0 ∧ k.kmalloc = true ∧ k.cdevAdd.1 = 0 ∧
    k.classCreate = true ∧ k.deviceCreate = true ∧ k.i2cAddDriver.1 = 0

/-- The first call of the load that fails, if any, is one that reports the failure in
    an integer. -/
def Calls.FailLoudly (gpios : List (String × Pin)) (k : Calls) : Prop :=
  Configured gpios k.script ∧ (k.allocChrdevRegion.1 < 0 ∨ k.kmalloc = true ∧
    (k.cdevAdd.1 < 0 ∨ k.classCreate = true ∧ k.deviceCreate = true))

theorem Calls.Succeed.failLoudly (h : k.Succeed gpios) : k.FailLoudly gpios := by
  obtain ⟨hc, -, hm, -, hcl, hd, -⟩ := h
  exact ⟨hc, .inr ⟨hm, .inr ⟨hcl, hd⟩⟩⟩

/-- A load of which no call fails acquires all resources. -/
theorem i2cInit_of_succeed (h : k.Succeed gpios) :
    (i2cInit gpios k g).ret = 0 ∧
      (i2cInit gpios k g).ledger = (resources k.number).map .acquire ∧
      (i2cInit gpios k g).globals.cls = .valid ∧ (i2cInit gpios k g).globals.dev = .valid ∧
      (i2cInit gpios k g).globals.number = k.number := by
  obtain ⟨hc, ha, hm, hca, hcl, hd, hi⟩ := h
  have hf := (soundFetchSysConfig_eq_zero_iff gpios k.script g.config).2 hc
  simp [i2cInit, hf, ha, hm, hca, hcl, hd, hi, resources, Globals.number]

/-- Another load releases what it has acquired. It returns a negative value only if
    the call that fails reports so. -/
theorem i2cInit_of_not_succeed (h : ¬k.Succeed gpios) :
    ((i2cInit gpios k g).ret < 0 ↔ k.FailLoudly gpios) ∧ ∃ n,
      (i2cInit gpios k g).ledger = ((resources k.number).take n).map .acquire ++
        ((resources k.number).take n).reverse.map .release := by
  have hf := soundFetchSysConfig_eq_zero_iff gpios k.script g.config
  by_cases hc : Configured gpios k.script
  swap
  · refine ⟨?_, 0, ?_⟩ <;> simp [i2cInit, hf, hc, Calls.FailLoudly]
  replace hf := hf.2 hc
  rcases lt_or_eq_of_le k.allocChrdevRegion.2 with ha | ha
  · refine ⟨?_, 0, ?_⟩ <;> simp [i2cInit, hf, hc, Calls.FailLoudly, ha]
  cases hm : k.kmalloc
  · refine ⟨?_, 1, ?_⟩ <;>
      simp [i2cInit, hf, hc, Calls.FailLoudly, ha, hm, fail1, resources, Globals.number]
  rcases lt_or_eq_of_le k.cdevAdd.2 with hca | hca
  · refine ⟨?_, 2, ?_⟩ <;>
      simp [i2cInit, hf, hc, Calls.FailLoudly, ha, hm, hca, ne_of_lt hca, fail1, fail2, resources,
        Globals.number]
  cases hcl : k.classCreate
  · refine ⟨?_, 3, ?_⟩ <;>
      simp [i2cInit, hf, hc, Calls.FailLoudly, ha, hm, hca, hcl, fail1, fail2, fail3, resources,
        Globals.number]
  cases hd : k.deviceCreate
  · refine ⟨?_, 4, ?_⟩ <;>
      simp [i2cInit, hf, hc, Calls.FailLoudly, ha, hm, hca, hcl, hd, fail1, fail2, fail3, fail4,
        resources, Globals.number]
  rcases lt_or_eq_of_le k.i2cAddDriver.2 with hi | hi
  · refine ⟨?_, 5, ?_⟩ <;>
      simp [i2cInit, hf, hc, Calls.FailLoudly, ha, hm, hca, hcl, hd, hi, ne_of_lt hi, fail1, fail2,
        fail3, fail4, fail5, resources, Globals.number]
  · exact absurd ⟨hc, ha, hm, hca, hcl, hd, hi⟩ h

/-- A load that returned `0` has left all resources held; one of which a call failed
    returned a negative value, and has released exactly once what it acquired. -/
def LoadOk (gpios : List (String × Pin)) (k : Calls) (ret : ℤ) (l : List (Entry Resource)) :
    Prop :=
  (ret = 0 → audit l [] = some (resources k.number).reverse) ∧
    (¬k.Succeed gpios → ret < 0 ∧ audit l [] = some [])

/-- From a state where nothing is held, a load is as it should be exactly if the first
    call that fails reports so. -/
theorem loadOk_iff (gpios : List (String × Pin)) (k : Calls) (g : Globals)
    {l : List (Entry Resource)} (hl : audit l [] = some []) :
    LoadOk gpios k (i2cInit gpios k g).ret (l ++ (i2cInit gpios k g).ledger) ↔
      k.FailLoudly gpios := by
  by_cases h : k.Succeed gpios
  · obtain ⟨-, hled, -⟩ := i2cInit_of_succeed (g := g) h
    refine iff_of_true ⟨fun _ => ?_, fun hn => absurd h hn⟩ h.failLoudly
    rw [audit_append, hl, hled, Option.bind_some,
      audit_acquire (nodup_resources k.number) fun _ _ => List.not_mem_nil, List.append_nil]
  · obtain ⟨hret, n, hled⟩ := i2cInit_of_not_succeed (g := g) h
    have haudit : audit (l ++ (i2cInit gpios k g).ledger) [] = some [] := by
      rw [audit_append, hl, hled, Option.bind_some]
      exact audit_ladder ((nodup_resources k.number).sublist (List.take_sublist n _))
    rw [← hret]
    refine ⟨fun hok => (hok.2 h).1, fun hneg => ⟨fun h0 => absurd h0 (ne_of_lt hneg), fun _ => ?_⟩⟩
    exact ⟨hneg, haudit⟩

/-- The exit function releases what a load without failing call acquired. -/
theorem audit_i2cExit (hcls : g.cls = .valid) (hdev : g.dev = .valid) :
    audit (i2cExit g) (resources g.number).reverse = some [] := by
  have hexit : i2cExit g =
      ([Resource.node g.number, .cls, .cdev, .dev, .region g.number] ++
        [Resource.driver]).map .release := by
    simp [i2cExit, hcls, hdev]
  rw [hexit]
  exact audit_release (List.perm_append_singleton _ _)

end

/-! ## Loads and unloads -/

/-- The two drivers. -/
inductive Driver
  | npca110
  | ntp8230
  deriving DecidableEq

/-- The GPIO items that the driver looks up. -/
def Driver.gpios : Driver → List (String × Pin)
  | .npca110 => npca110Gpios
  | .ntp8230 => ntp8230Gpios

/-- The init function of the driver. -/
def Driver.i2cInit : Driver → Calls → Globals → Outcome
  | .npca110 => npca110I2cInit
  | .ntp8230 => ntp8230I2cInit

/-- The exit function of the driver. -/
def Driver.i2cExit : Driver → Globals → List (Entry Resource)
  | .npca110 => npca110I2cExit
  | .ntp8230 => ntp8230I2cExit

theorem Driver.i2cInit_eq (d : Driver) : d.i2cInit = Module.i2cInit d.gpios := by cases d <;> rfl

theorem Driver.i2cExit_eq (d : Driver) : d.i2cExit = Module.i2cExit := by cases d <;> rfl

/-- A call of the init or the exit function, with the ledger after it. -/
inductive Record
  | load (k : Calls) (ret : ℤ) (ledger : List (Entry Resource))
  | unload (ledger : List (Entry Resource))

/-- The call was as it should be: after an unload, everything acquired has been
    released exactly once. -/
def Record.Ok (d : Driver) : Record → Prop
  | .load k ret ledger => LoadOk d.gpios k ret ledger
  | .unload ledger => audit ledger [] = some []

/-- The states of a module and of the ledger. -/
structure State where
  globals : Globals
  /-- The last load returned `0`, and the exit function was not called since. -/
  loaded : Bool
  ledger : List (Entry Resource)
  records : List Record

/-- Loads and unloads. -/
inductive Action
  /-- A load, maybe of a new image. -/
  | load (anew : Bool) (k : Calls)
  | unload

/-- Loads and unloads of a driver: the exit function is called for loads that returned
    `0`. -/
def machine (d : Driver) : Machine State Action where
  init := ⟨.zero, false, [], []⟩
  step s
    | .load anew k =>
      if s.loaded then none
      else
        let o := d.i2cInit k (if anew then .zero else s.globals)
        let l := s.ledger ++ o.ledger
        some ⟨o.globals, o.ret = 0, l, s.records ++ [.load k o.ret l]⟩
    | .unload =>
      if s.loaded then
        let l := s.ledger ++ d.i2cExit s.globals
        some ⟨s.globals, false, l, s.records ++ [.unload l]⟩
      else none

/-- The first call of a load that fails, if any, reports so. -/
def FailsLoudly (d : Driver) (_ : State) : Action → Prop
  | .load _ k => k.FailLoudly d.gpios
  | .unload => True

/-- What is held is what a load that returned `0` acquired, and the exit function will
    find it. -/
structure Balanced (s : State) : Prop where
  audit_eq : audit s.ledger [] =
    some (if s.loaded then (resources s.globals.number).reverse else [])
  found : s.loaded → s.globals.cls = .valid ∧ s.globals.dev = .valid

theorem balanced_init (d : Driver) : Balanced (machine d).init := ⟨rfl, nofun⟩

variable {d : Driver} {s t : State} {as : List Action}

/-- A load from a balanced state: what it records, and that what is held stays
    balanced. -/
theorem Balanced.load {anew : Bool} {k : Calls} (hs : Balanced s)
    (hst : (machine d).step s (.load anew k) = some t) :
    (∃ r, t.records = s.records ++ [r] ∧ (r.Ok d ↔ k.FailLoudly d.gpios)) ∧
      (k.FailLoudly d.gpios → Balanced t) := by
  simp only [machine, d.i2cInit_eq] at hst
  generalize (if anew then Globals.zero else s.globals) = g at hst
  split_ifs at hst with hl
  have hheld : audit s.ledger [] = some [] := by simpa [hl] using hs.audit_eq
  rw [Option.some_inj] at hst
  subst hst
  have hok := loadOk_iff d.gpios k g hheld
  refine ⟨⟨_, rfl, hok⟩, fun hk => ?_⟩
  have hload := hok.2 hk
  by_cases h : k.Succeed d.gpios
  · obtain ⟨hret, -, hcls, hdev, hnum⟩ := i2cInit_of_succeed (g := g) h
    exact ⟨by simpa [hret, hnum] using hload.1 hret, fun _ => ⟨hcls, hdev⟩⟩
  · obtain ⟨hret, haudit⟩ := hload.2 h
    exact ⟨by simpa [ne_of_lt hret] using haudit, by simp [ne_of_lt hret]⟩

/-- An unload from a balanced state releases exactly what is held. -/
theorem Balanced.unload (hs : Balanced s) (hst : (machine d).step s .unload = some t) :
    (∃ r, t.records = s.records ++ [r] ∧ r.Ok d) ∧ Balanced t := by
  simp only [machine, d.i2cExit_eq] at hst
  split_ifs at hst with hl
  rw [Option.some_inj] at hst
  subst hst
  have haudit : audit (s.ledger ++ i2cExit s.globals) [] = some [] := by
    rw [audit_append, hs.audit_eq, if_pos hl, Option.bind_some]
    exact audit_i2cExit (hs.found hl).1 (hs.found hl).2
  exact ⟨⟨_, rfl, haudit⟩, haudit, nofun⟩

/-- A step from a balanced state: it records that it was as it should be exactly if it
    fails loudly, and then the state stays balanced. -/
theorem Balanced.step {a : Action} (hs : Balanced s) (hst : (machine d).step s a = some t) :
    (∃ r, t.records = s.records ++ [r] ∧ (r.Ok d ↔ FailsLoudly d s a)) ∧
      (FailsLoudly d s a → Balanced t) := by
  cases a with
  | load anew k => exact hs.load hst
  | unload =>
    obtain ⟨⟨r, hr, hok⟩, ht⟩ := hs.unload hst
    exact ⟨⟨r, hr, iff_of_true hok trivial⟩, fun _ => ht⟩

/-- The records are kept. -/
theorem records_of_step {a : Action} (hst : (machine d).step s a = some t) :
    ∀ r ∈ s.records, r ∈ t.records := by
  intro r hr
  cases a <;> simp only [machine] at hst <;> split_ifs at hst <;> cases hst <;> simp [hr]

/-- The loads and unloads of a run are as they should be exactly if the first call of
    each load that fails, if any, reports so. -/
theorem recordsOk_iff (hrun : (machine d).Run as s) :
    (∀ r ∈ s.records, r.Ok d) ↔ (machine d).Meets (FailsLoudly d) as := by
  refine hrun.iff_meets (I := fun s => (∀ r ∈ s.records, r.Ok d) → Balanced s)
    (P := fun s => ∀ r ∈ s.records, r.Ok d) (fun _ => balanced_init d) (by simp [machine]) ?_
  intro s a t hbal hst
  by_cases hm : ∀ r ∈ s.records, r.Ok d
  · obtain ⟨⟨r, hr, hok⟩, ht⟩ := (hbal hm).step hst
    rw [hr, List.forall_mem_append, List.forall_mem_singleton, hok]
    exact ⟨fun h => ht h.2, Iff.rfl⟩
  · have hmt : ¬∀ r ∈ t.records, r.Ok d := fun h => hm fun r hr => h r (records_of_step hst r hr)
    exact ⟨fun h => absurd h hmt, iff_of_false hmt fun h => hm h.1⟩

/-- A load in which every call succeeds. -/
def allSucceed : Calls where
  script key := if key = "sound_used" then .int 1 else .pio 0
  allocChrdevRegion := ⟨0, le_rfl⟩
  number := ⟨250, 0⟩
  kmalloc := true
  cdevAdd := ⟨0, le_rfl⟩
  classCreate := true
  deviceCreate := true
  i2cAddDriver := ⟨0, le_rfl⟩

theorem succeed_allSucceed (d : Driver) : allSucceed.Succeed d.gpios := by
  cases d <;>
    simp [Calls.Succeed, allSucceed, Configured, Driver.gpios, npca110Gpios, ntp8230Gpios]

/-- A load in which every call succeeds, and an unload. -/
theorem recordsOk_iff_allSucceed :
    ∃ s, (machine .npca110).Run [.load true allSucceed, .unload] s ∧
      ∀ r ∈ s.records, r.Ok .npca110 := by
  obtain ⟨s, hs⟩ := Machine.exists_run (machine .npca110) [.load true allSucceed, .unload]
    (by decide +kernel)
  refine ⟨s, hs, (recordsOk_iff hs).2 (Machine.meets_of_forall ?_)⟩
  simpa [FailsLoudly] using fun _ : State => (succeed_allSucceed .npca110).failLoudly

/-- The `kmalloc` of a load fails: it returns `0` after it has unregistered the region,
    and the exit function unregisters it again. -/
theorem not_recordsOk :
    ∃ s, (machine .npca110).Run [.load true { allSucceed with kmalloc := false }, .unload] s ∧
      ¬∀ r ∈ s.records, r.Ok .npca110 := by
  obtain ⟨s, hs, hp⟩ := Machine.exists_run_of_map (machine .npca110)
    [.load true { allSucceed with kmalloc := false }, .unload]
    (fun s => s.records.any fun
      | .load .. => false
      | .unload ledger => audit ledger [] = none)
    (by decide +kernel)
  obtain ⟨r, hr, hnone⟩ := List.any_eq_true.1 hp
  refine ⟨s, hs, fun h => ?_⟩
  cases r with
  | load => cases hnone
  | unload ledger =>
    have hok := h _ hr
    rw [Record.Ok, of_decide_eq_true hnone] at hok
    cases hok

end Sounder.Module

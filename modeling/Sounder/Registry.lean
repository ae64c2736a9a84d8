import Sounder.Lib.Memo

/-!
# The registry of the system services

An application finds the sound service by `getSystemService("sound")`. The registry keeps,
for each name, a fetcher: an object which creates the service when it is first asked for,
and keeps it, either in the context that asks (at an index of the cache of the context,
which was set aside when the fetcher was created) or for the whole process.

The registrations are any list here. No two names share a place to keep a service in, and
every index is in the bounds of the caches (`Registered`, `registered`). So the process is
a table filled on demand, with the names, and the contexts where they matter, for its keys
(`memo_of_run`): every call returns, and it answers with the first service that was
answered for its name, or else with what the fetcher registered last under that name
creates (`answers_of_run`).

The fetcher of "sound" never fails to create a manager, but it looks the service up in the
service manager only then. A context that asks before the system server has added the
service gets a manager without one, for good (`auxSwitch_eq_none_iff`).
-/

namespace Sounder

open Function

/-! ## The registrations -/

section

variable (B C Ctx Obj : Type*)

/-- The services that were added to the service manager, by name. -/
abbrev Services := String → Option B

/-- An expression `new …Fetcher<…>() { … }`, with the `createService` in its body. -/
inductive NewFetcher
  | cached (createService : Services B → Ctx → Option Obj)
  | static (createService : Services B → Option Obj)
  | staticOuterContext (createService : Services B → Ctx → Option Obj)

/-- A call of `registerService`. -/
structure Registration where
  serviceName : String
  serviceClass : C
  serviceFetcher : NewFetcher B Ctx Obj

/-- A fetcher: the cached ones have an index, and the others are objects with a field for
    the service. -/
inductive ServiceFetcher
  | cached (mCacheIndex : ℕ) (createService : Services B → Ctx → Option Obj)
  | static (object : ℕ) (createService : Services B → Option Obj)
  | staticOuterContext (object : ℕ) (createService : Services B → Ctx → Option Obj)

/-- The static fields of the registry. -/
structure Registry where
  /-- `SYSTEM_SERVICE_NAMES` -/
  systemServiceNames : C → Option String
  /-- `SYSTEM_SERVICE_FETCHERS` -/
  systemServiceFetchers : String → Option (ServiceFetcher B Ctx Obj)
  sServiceCacheSize : ℕ
  /-- How many fetchers with a field for the service were created. -/
  objects : ℕ

end

variable {B C Ctx Obj : Type*}

/-- The constructor of a fetcher. -/
def Registry.newFetcher (r : Registry B C Ctx Obj) :
    NewFetcher B Ctx Obj → ServiceFetcher B Ctx Obj × Registry B C Ctx Obj
  | .cached createService => (.cached r.sServiceCacheSize createService,
      { r with sServiceCacheSize := r.sServiceCacheSize + 1 })
  | .static createService => (.static r.objects createService,
      { r with objects := r.objects + 1 })
  | .staticOuterContext createService => (.staticOuterContext r.objects createService,
      { r with objects := r.objects + 1 })

/-- A place for a service: an index of the caches, or an object with a field. -/
inductive Place
  | index (mCacheIndex : ℕ)
  | object (id : ℕ)
  deriving DecidableEq

/-- Where a fetcher keeps its service. -/
def ServiceFetcher.place : ServiceFetcher B Ctx Obj → Place
  | .cached mCacheIndex _ => .index mCacheIndex
  | .static object _ => .object object
  | .staticOuterContext object _ => .object object

/-- The expression that created a fetcher. -/
def ServiceFetcher.source : ServiceFetcher B Ctx Obj → NewFetcher B Ctx Obj
  | .cached _ createService => .cached createService
  | .static _ createService => .static createService
  | .staticOuterContext _ createService => .staticOuterContext createService

/-- The fetchers created so far have this place among theirs. -/
def Place.Within (r : Registry B C Ctx Obj) : Place → Prop
  | .index mCacheIndex => mCacheIndex < r.sServiceCacheSize
  | .object id => id < r.objects

variable {r : Registry B C Ctx Obj}

/-- A fetcher is created with a place of its own. -/
theorem place_newFetcher (x : NewFetcher B Ctx Obj) :
    (r.newFetcher x).1.place.Within (r.newFetcher x).2 ∧ ¬(r.newFetcher x).1.place.Within r := by
  cases x with
  | cached _ => exact ⟨Nat.lt_succ_self _, Nat.lt_irrefl _⟩
  | static _ => exact ⟨Nat.lt_succ_self _, Nat.lt_irrefl _⟩
  | staticOuterContext _ => exact ⟨Nat.lt_succ_self _, Nat.lt_irrefl _⟩

theorem source_newFetcher (x : NewFetcher B Ctx Obj) : (r.newFetcher x).1.source = x := by
  cases x <;> rfl

@[simp] theorem fetchers_newFetcher (x : NewFetcher B Ctx Obj) :
    (r.newFetcher x).2.systemServiceFetchers = r.systemServiceFetchers := by
  cases x <;> rfl

theorem Place.Within.newFetcher {p : Place} (h : p.Within r) (x : NewFetcher B Ctx Obj) :
    p.Within (r.newFetcher x).2 := by
  cases p <;> cases x <;> first | exact h | exact Nat.lt_succ_of_lt h

variable [DecidableEq C]

/-- `registerService` -/
def Registry.registerService (r : Registry B C Ctx Obj) (x : Registration B C Ctx Obj) :
    Registry B C Ctx Obj :=
  let (fetcher, r) := r.newFetcher x.serviceFetcher
  { r with
    systemServiceNames := update r.systemServiceNames x.serviceClass (some x.serviceName)
    systemServiceFetchers := update r.systemServiceFetchers x.serviceName (some fetcher) }

/-- The static initializer of the registry, which registers the services `l`. -/
def registry (l : List (Registration B C Ctx Obj)) : Registry B C Ctx Obj :=
  l.foldl Registry.registerService ⟨fun _ => none, fun _ => none, 0, 0⟩

/-- The places of the registered fetchers exist, and no two names share one. -/
structure Registered (r : Registry B C Ctx Obj) : Prop where
  within {name : String} {f : ServiceFetcher B Ctx Obj} :
    r.systemServiceFetchers name = some f → f.place.Within r
  inj {name name' : String} {f f' : ServiceFetcher B Ctx Obj} :
    r.systemServiceFetchers name = some f → r.systemServiceFetchers name' = some f' →
    f.place = f'.place → name = name'

variable {l : List (Registration B C Ctx Obj)}

theorem fetchers_registerService (x : Registration B C Ctx Obj) :
    (r.registerService x).systemServiceFetchers =
      update r.systemServiceFetchers x.serviceName (some (r.newFetcher x.serviceFetcher).1) := by
  simp [Registry.registerService]

theorem within_registerService {x : Registration B C Ctx Obj} {p : Place} :
    p.Within (r.registerService x) ↔ p.Within (r.newFetcher x.serviceFetcher).2 := by
  cases p <;> rfl

theorem Registered.registerService (h : Registered r) (x : Registration B C Ctx Obj) :
    Registered (r.registerService x) := by
  obtain ⟨hnew, hfresh⟩ := place_newFetcher (r := r) x.serviceFetcher
  constructor
  · intro name f hf
    rw [fetchers_registerService, update_apply] at hf
    rw [within_registerService]
    split_ifs at hf with hn
    · obtain rfl := Option.some_inj.1 hf
      exact hnew
    · exact (h.within hf).newFetcher _
  · intro name name' f f' hf hf' he
    rw [fetchers_registerService, update_apply] at hf hf'
    split_ifs at hf hf' with hn hn' hn'
    · rw [hn, hn']
    · -- the place of the new fetcher is not that of an older one
      obtain rfl := Option.some_inj.1 hf
      exact absurd (he ▸ h.within hf') hfresh
    · obtain rfl := Option.some_inj.1 hf'
      exact absurd (he ▸ h.within hf) hfresh
    · exact h.inj hf hf' he

variable (l) in
theorem registered : Registered (registry l) := by
  induction l using List.reverseRecOn with
  | nil => exact ⟨nofun, nofun⟩
  | append_singleton l x ih =>
    rw [registry, List.foldl_concat]
    exact ih.registerService x

/-! ## The sound service -/

/-- A `SoundManager`, with the service it was created with. -/
structure SoundManager (B : Type*) where
  mService : Option B
  deriving DecidableEq

/-- `aux_switch`, over the calls of the service, which may throw a `RemoteException`: it
    throws itself if there is no service. -/
def SoundManager.auxSwitch (m : SoundManager B) (call : B → Int32 → Option ℤ) (way : Int32) :
    Option ℤ :=
  m.mService.map fun service => (call service way).getD (-1)

/-- The fetcher of "sound". -/
def soundFetcher (ofManager : SoundManager B → Obj) : NewFetcher B Ctx Obj :=
  .cached fun services _ => some (ofManager ⟨services "sound"⟩)

/-- A registration of the sound service, and of another one in its place before. -/
def soundRegistrations : List (Registration Unit Unit Bool (SoundManager Unit)) :=
  [⟨"sound", (), .static fun _ => none⟩, ⟨"sound", (), soundFetcher id⟩]

/-! ## A table filled on demand -/

/-- A call of `getSystemService`. -/
structure Request (Ctx : Type*) where
  ctx : Ctx
  name : String
  deriving DecidableEq

variable (getOuterContext : Ctx → Ctx)

/-- What was registered last under a name. -/
def lastRegistered (l : List (Registration B C Ctx Obj)) (name : String) :
    Option (NewFetcher B Ctx Obj) :=
  (l.reverse.find? fun x => x.serviceName = name).map (·.serviceFetcher)

/-- The fetcher of a name is the one registered last. -/
theorem source_fetchers (name : String) :
    ((registry l).systemServiceFetchers name).map (·.source) = lastRegistered l name := by
  induction l using List.reverseRecOn with
  | nil => rfl
  | append_singleton l x ih =>
    rw [registry, List.foldl_concat, fetchers_registerService, update_apply, lastRegistered,
      List.reverse_concat, List.find?_cons]
    by_cases hn : name = x.serviceName
    · simp [hn, source_newFetcher]
    · simp only [hn, if_false, Ne.symm hn, decide_false]
      exact ih

/-- What a fetcher creates for a context. -/
def NewFetcher.create (services : Services B) (ctx : Ctx) : NewFetcher B Ctx Obj → Option Obj
  | .cached createService => createService services ctx
  | .static createService => createService services
  | .staticOuterContext createService => createService services (getOuterContext ctx)

/-- The context that a service is kept for; there is none if it is kept for the process. -/
def NewFetcher.context (ctx : Ctx) : NewFetcher B Ctx Obj → Option Ctx
  | .cached _ => some ctx
  | .static _ => none
  | .staticOuterContext _ => none

/-- The registry, as a table: a service is found by its name, and by the context if it is
    kept for one. -/
def memo (l : List (Registration B C Ctx Obj)) :
    Memo (Services B) (String × B) (Request Ctx) (Option Ctx × String) Obj where
  env := fun _ => none
  act services a := some (update services a.1 (some a.2))
  key q := ((lastRegistered l q.name).bind (·.context q.ctx), q.name)
  create services q := (lastRegistered l q.name).bind (·.create getOuterContext services q.ctx)

/-- The context that a fetcher keeps its service for. -/
def Place.context (ctx : Ctx) : Place → Option Ctx
  | .index _ => some ctx
  | .object _ => none

theorem context_source {ctx : Ctx} (f : ServiceFetcher B Ctx Obj) :
    f.source.context ctx = f.place.context ctx := by
  cases f <;> rfl

theorem key_memo (q : Request Ctx) : (memo getOuterContext l).key q =
    (((registry l).systemServiceFetchers q.name).bind (·.place.context q.ctx), q.name) := by
  simp only [memo, ← source_fetchers, Option.bind_map, comp_def, context_source]

theorem create_memo (q : Request Ctx) (services : Services B) :
    (memo getOuterContext l).create services q =
      ((registry l).systemServiceFetchers q.name).bind
        (·.source.create getOuterContext services q.ctx) := by
  simp only [memo, ← source_fetchers, Option.bind_map, comp_def]

/-! ## The process -/

/-- An application process, with its contexts, and the service manager it talks to. -/
structure Process (B Ctx Obj : Type*) where
  services : Services B
  /-- `mServiceCache` of each context. -/
  mServiceCache : Ctx → List (Option Obj)
  /-- `mCachedInstance` of each fetcher that has it. -/
  mCachedInstance : ℕ → Option Obj

variable [DecidableEq Ctx]

/-- `getService`: undefined where the index is out of the bounds of the cache, which
    throws. -/
def ServiceFetcher.getService (f : ServiceFetcher B Ctx Obj) (ctx : Ctx)
    (s : Process B Ctx Obj) : Option (Option Obj × Process B Ctx Obj) :=
  match f with
  | .cached mCacheIndex createService =>
    match (s.mServiceCache ctx)[mCacheIndex]? with
    | none => none
    | some (some service) => some (some service, s)
    | some none =>
      let service := createService s.services ctx
      some (service, { s with
        mServiceCache :=
          update s.mServiceCache ctx ((s.mServiceCache ctx).set mCacheIndex service) })
  | .static object createService =>
    match s.mCachedInstance object with
    | some service => some (some service, s)
    | none =>
      let service := createService s.services
      some (service, { s with mCachedInstance := update s.mCachedInstance object service })
  | .staticOuterContext object createService =>
    match s.mCachedInstance object with
    | some service => some (some service, s)
    | none =>
      let service := createService s.services (getOuterContext ctx)
      some (service, { s with mCachedInstance := update s.mCachedInstance object service })

/-- `getSystemService` -/
def getSystemService (r : Registry B C Ctx Obj) (q : Request Ctx) (s : Process B Ctx Obj) :
    Option (Option Obj × Process B Ctx Obj) :=
  match r.systemServiceFetchers q.name with
  | some fetcher => fetcher.getService getOuterContext q.ctx s
  | none => some (none, s)

namespace Process

/-- What happens to a process. -/
inductive Act (B Ctx : Type*)
  /-- `ServiceManager.addService`, by the system server. -/
  | addService (name : String) (service : B)
  | getSystemService (q : Request Ctx)
  deriving DecidableEq

/-- A process, and the calls it has made. -/
structure Trace (B Ctx Obj : Type*) where
  process : Process B Ctx Obj
  log : List (Memo.Served (Services B) (Request Ctx) Obj)

/-- One action. -/
def step (r : Registry B C Ctx Obj) (s : Trace B Ctx Obj) : Act B Ctx → Option (Trace B Ctx Obj)
  | .addService name service => some { s with
      process.services := update s.process.services name (some service) }
  | .getSystemService q => (getSystemService getOuterContext r q s.process).map fun p =>
      ⟨p.2, s.log ++ [⟨q, s.process.services, p.1⟩]⟩

/-- The process, from its start on; the caches are as `createServiceCache` makes them. -/
def machine (l : List (Registration B C Ctx Obj)) : Machine (Trace B Ctx Obj) (Act B Ctx) where
  init := ⟨⟨fun _ => none, fun _ => List.replicate (registry l).sServiceCacheSize none,
    fun _ => none⟩, []⟩
  step := step getOuterContext (registry l)

end Process

/-! ## The process is such a table -/

/-- What is kept at a place, as a context sees it. -/
def Process.kept (s : Process B Ctx Obj) (ctx : Ctx) : Place → Option Obj
  | .index mCacheIndex => (s.mServiceCache ctx)[mCacheIndex]?.join
  | .object id => s.mCachedInstance id

/-- Keeping a service at a place. -/
def Process.keep (s : Process B Ctx Obj) (ctx : Ctx) (service : Option Obj) :
    Place → Process B Ctx Obj
  | .index mCacheIndex => { s with
      mServiceCache := update s.mServiceCache ctx ((s.mServiceCache ctx).set mCacheIndex service) }
  | .object id => { s with mCachedInstance := update s.mCachedInstance id service }

variable {s : Process B Ctx Obj} {ctx ctx' : Ctx} {p p' : Place} {v : Option Obj} {size : ℕ}

@[simp] theorem services_keep : (s.keep ctx v p).services = s.services := by
  cases p <;> rfl

theorem length_keep (h : ∀ ctx, (s.mServiceCache ctx).length = size) :
    ((s.keep ctx v p).mServiceCache ctx').length = size := by
  cases p with
  | object _ => exact h ctx'
  | index i =>
    simp only [Process.keep, update_apply]
    split_ifs with hc
    · rw [List.length_set, h]
    · exact h ctx'

/-- What was kept is found again, there and in that context only. -/
theorem kept_keep (h : ∀ i, p = .index i → i < (s.mServiceCache ctx).length) :
    (s.keep ctx v p).kept ctx' p' =
      if p' = p ∧ p'.context ctx' = p.context ctx then v else s.kept ctx' p' := by
  cases p with
  | object id =>
    cases p' with
    | object id' => simp [Process.keep, Process.kept, Place.context, update_apply]
    | index i' => simp [Process.keep, Process.kept]
  | index i =>
    cases p' with
    | object id' => simp [Process.keep, Process.kept]
    | index i' =>
      simp only [Process.keep, Process.kept, Place.context, update_apply, Place.index.injEq,
        Option.some_inj]
      -- another index of the same cache, or the cache of another context
      by_cases hc : ctx' = ctx
      · subst hc
        by_cases hi : i' = i
        · subst hi
          simp [h i' rfl]
        · simp [hi, Ne.symm hi]
      · simp [hc]

/-- Keeping what is kept already changes nothing. -/
theorem keep_of_kept (h : ∀ i, p = .index i → i < (s.mServiceCache ctx).length)
    (hv : s.kept ctx p = v) : s.keep ctx v p = s := by
  subst hv
  cases p with
  | object id => rw [Process.keep, Process.kept, update_eq_self]
  | index i =>
    have hi := h i rfl
    rw [Process.keep, Process.kept, List.getElem?_eq_getElem hi, Option.join_some,
      List.set_getElem_self, update_eq_self]

/-- A fetcher returns what it has kept, or else what it creates, and keeps this. -/
theorem getService_eq (f : ServiceFetcher B Ctx Obj)
    (h : ∀ i, f.place = .index i → i < (s.mServiceCache ctx).length) :
    f.getService getOuterContext ctx s =
      let v := (s.kept ctx f.place).or (f.source.create getOuterContext s.services ctx)
      some (v, s.keep ctx v f.place) := by
  cases hk : s.kept ctx f.place with
  | some service =>
    -- the fetcher returns what it has kept, which is not stored again
    simp only [Option.some_or, keep_of_kept h hk]
    cases f with
    | cached i _ =>
      rw [ServiceFetcher.place, Process.kept, Option.join_eq_some_iff] at hk
      simp only [ServiceFetcher.getService, hk]
    | static _ _ => simp only [ServiceFetcher.getService, show s.mCachedInstance _ = _ from hk]
    | staticOuterContext _ _ =>
      simp only [ServiceFetcher.getService, show s.mCachedInstance _ = _ from hk]
  | none =>
    simp only [Option.none_or]
    cases f with
    | cached i _ =>
      rw [ServiceFetcher.place, Process.kept, List.getElem?_eq_getElem (h i rfl),
        Option.join_some] at hk
      simp only [ServiceFetcher.getService, List.getElem?_eq_getElem (h i rfl), hk]
      rfl
    | static _ _ =>
      simp only [ServiceFetcher.getService, show s.mCachedInstance _ = _ from hk]
      rfl
    | staticOuterContext _ _ =>
      simp only [ServiceFetcher.getService, show s.mCachedInstance _ = _ from hk]
      rfl

/-- The places of a process are those of the table: what it keeps for a name in a context is
    the value of their key. -/
structure Stands (l : List (Registration B C Ctx Obj)) (s : Process.Trace B Ctx Obj)
    (t : Memo.Table (Services B) (Request Ctx) (Option Ctx × String) Obj) : Prop where
  env : t.env = s.process.services
  log : t.log = s.log
  length (ctx : Ctx) : (s.process.mServiceCache ctx).length = (registry l).sServiceCacheSize
  value (q : Request Ctx) : t.value ((memo getOuterContext l).key q) =
    ((registry l).systemServiceFetchers q.name).bind fun f => s.process.kept q.ctx f.place

variable {getOuterContext} {x : Process.Trace B Ctx Obj}
  {t : Memo.Table (Services B) (Request Ctx) (Option Ctx × String) Obj}

namespace Stands

omit [DecidableEq Ctx] in
/-- The fetchers find their index in the caches. -/
theorem lt_length (h : Stands getOuterContext l x t) {name : String}
    {f : ServiceFetcher B Ctx Obj} (hf : (registry l).systemServiceFetchers name = some f)
    (ctx : Ctx) (i : ℕ) (hi : f.place = .index i) : i < (x.process.mServiceCache ctx).length := by
  have hw := (registered l).within hf
  rw [hi] at hw
  exact (h.length ctx).symm ▸ hw

/-- What is kept for a request replaces the value of its key. -/
theorem kept_keep (h : Stands getOuterContext l x t) {q : Request Ctx}
    {f : ServiceFetcher B Ctx Obj} (hf : (registry l).systemServiceFetchers q.name = some f)
    (v : Option Obj) (q' : Request Ctx) :
    update t.value ((memo getOuterContext l).key q) v ((memo getOuterContext l).key q') =
      ((registry l).systemServiceFetchers q'.name).bind fun f' =>
        (x.process.keep q.ctx v f.place).kept q'.ctx f'.place := by
  rw [update_apply, h.value]
  simp only [key_memo, hf, Option.bind_some, Prod.mk.injEq]
  cases hf' : (registry l).systemServiceFetchers q'.name with
  | none =>
    rw [if_neg]
    · rfl
    · rintro ⟨-, hn⟩
      rw [hn, hf] at hf'
      cases hf'
  | some f' =>
    simp only [Option.bind_some]
    rw [Sounder.kept_keep (h.lt_length hf _)]
    -- two requests have one key exactly if their services are kept at one place
    refine if_congr ⟨fun ⟨hc, hn⟩ => ?_, fun ⟨hp, hc⟩ => ⟨hc, (registered l).inj hf' hf hp⟩⟩ rfl rfl
    rw [hn, hf] at hf'
    obtain rfl := Option.some_inj.1 hf'
    exact ⟨rfl, hc⟩

/-- A call returns, and does what the table does. -/
theorem getSystemService (h : Stands getOuterContext l x t) (q : Request Ctx) :
    ∃ p, Sounder.getSystemService getOuterContext (registry l) q x.process =
        some ((memo getOuterContext l).answer t q, p) ∧
      Stands getOuterContext l
        ⟨p, x.log ++ [⟨q, x.process.services, (memo getOuterContext l).answer t q⟩]⟩
        ((memo getOuterContext l).fetch t q) := by
  have hval := h.value q
  have hcreate := create_memo getOuterContext (l := l) q t.env
  cases hf : (registry l).systemServiceFetchers q.name with
  | none =>
    rw [hf, Option.bind_none] at hval hcreate
    have hv : (memo getOuterContext l).answer t q = none := by
      rw [Memo.answer, hval, hcreate, Option.none_or]
    -- without a fetcher, the answer is null, and the table keeps none either
    refine ⟨x.process, by rw [Sounder.getSystemService, hf, hv], h.env, ?_, h.length, fun q' => ?_⟩
    · rw [Memo.fetch, h.log, h.env]
    · rw [Memo.fetch, hv, ← hval, update_eq_self, h.value]
  | some f =>
    rw [hf, Option.bind_some] at hval hcreate
    have hv : (memo getOuterContext l).answer t q =
        (x.process.kept q.ctx f.place).or
          (f.source.create getOuterContext x.process.services q.ctx) := by
      rw [Memo.answer, hval, hcreate, h.env]
    refine ⟨x.process.keep q.ctx ((memo getOuterContext l).answer t q) f.place, ?_, ?_, ?_,
      fun ctx => length_keep h.length, fun q' => h.kept_keep hf _ q'⟩
    · rw [Sounder.getSystemService, hf, hv]
      exact getService_eq getOuterContext f (h.lt_length hf q.ctx)
    · rw [services_keep]
      exact h.env
    · rw [Memo.fetch, h.log, h.env]

omit [DecidableEq Ctx] in
theorem addService (h : Stands getOuterContext l x t) (name : String) (service : B) :
    Stands getOuterContext l
      { x with process.services := update x.process.services name (some service) }
      { t with env := update t.env name (some service) } :=
  ⟨by rw [h.env], h.log, h.length, h.value⟩

end Stands

/-- What an action of the process is for the table. -/
def Process.Act.toMemo : Process.Act B Ctx → Memo.Act (String × B) (Request Ctx)
  | .addService name service => .env (name, service)
  | .getSystemService q => .fetch q

/-- A process runs as the table does. -/
theorem memo_of_run {as : List (Process.Act B Ctx)}
    (h : (Process.machine getOuterContext l).Run as x) :
    ∃ t, (memo getOuterContext l).machine.Run (as.map (·.toMemo)) t ∧
      Stands getOuterContext l x t := by
  induction h with
  | init =>
    -- the caches are created with the indices that the registrations have handed out
    refine ⟨_, .init, rfl, rfl, fun _ => List.length_replicate, fun q => ?_⟩
    cases (registry l).systemServiceFetchers q.name with
    | none => rfl
    | some f =>
      cases hp : f.place with
      | index i =>
        simp only [Process.machine, Memo.machine, Process.kept, Option.bind_some, hp,
          List.getElem?_replicate]
        split_ifs <;> rfl
      | object id =>
        rw [Option.bind_some, hp]
        rfl
  | @step as x x' a _ hst ih =>
    obtain ⟨t, ht, hs⟩ := ih
    rw [List.map_append, List.map_singleton]
    cases a with
    | addService name service =>
      obtain rfl := Option.some_inj.1 hst
      exact ⟨_, ht.step rfl, hs.addService name service⟩
    | getSystemService q =>
      obtain ⟨p, hp, hs'⟩ := hs.getSystemService q
      obtain ⟨_, hp', rfl⟩ := Option.map_eq_some_iff.1 hst
      obtain rfl := Option.some_inj.1 (hp.symm.trans hp')
      exact ⟨_, ht.step rfl, hs'⟩

/-- Two contexts ask for the service, one of them before it is added. -/
def earlyAndLate : List (Process.Act Unit Bool) :=
  [.getSystemService ⟨true, "sound"⟩, .addService "sound" (), .getSystemService ⟨false, "sound"⟩]

/-- In every run of a process, with any registrations, every call of `getSystemService`
    returns. Its answer is the first service that was answered for its name before (in the
    same context, if the service is kept for one); if there was none, it is what the fetcher
    registered last under the name creates now. -/
theorem answers_of_run {as : List (Process.Act B Ctx)}
    (h : (Process.machine getOuterContext l).Run as x) :
    (∀ q, (getSystemService getOuterContext (registry l) q x.process).isSome) ∧
    ∀ pre e post, x.log = pre ++ e :: post →
      e.answer = ((memo getOuterContext l).first pre ((memo getOuterContext l).key e.request)).or
        ((lastRegistered l e.request.name).bind
          (·.create getOuterContext e.env e.request.ctx)) := by
  obtain ⟨t, ht, hs⟩ := memo_of_run h
  refine ⟨fun q => ?_, fun pre e post he => ?_⟩
  · obtain ⟨_, hp, -⟩ := hs.getSystemService q
    rw [hp]
    rfl
  · have hcons := (Memo.value_of_run ht).2
    rw [hs.log, he] at hcons
    exact hcons.answer

theorem answers_of_run_early : ∃ x,
    (Process.machine id soundRegistrations).Run earlyAndLate x ∧
      (getSystemService id (registry soundRegistrations) ⟨true, "sound"⟩ x.process).isSome := by
  obtain ⟨x, hx⟩ := Machine.exists_run (Process.machine id soundRegistrations) earlyAndLate rfl
  exact ⟨x, hx, (answers_of_run hx).1 _⟩

/-! ## Early and late -/

/-- The service is added, or asked for in this context. -/
def Process.Act.Concerns (ctx : Ctx) : Process.Act B Ctx → Bool
  | .addService name _ => name = "sound"
  | .getSystemService q => q = ⟨ctx, "sound"⟩

/-- The context asks for the service before it is added. -/
def Process.AsksFirst (ctx : Ctx) (as : List (Process.Act B Ctx)) : Prop :=
  as.find? (·.Concerns ctx) = some (.getSystemService ⟨ctx, "sound"⟩)

/-- What the context has, given the first action that concerned it: a manager without the
    service if it has asked first, and otherwise none or one with the service. -/
def Has (ofManager : SoundManager B → Obj) (service : Option B) (value : Option Obj) :
    Option (Process.Act B Ctx) → Prop
  | none => service = none ∧ value = none
  | some (.getSystemService _) => value = some (ofManager ⟨none⟩)
  | some (.addService _ _) => service.isSome ∧ ∀ v, value = some v → ∃ b, v = ofManager ⟨some b⟩

variable {ofManager : SoundManager B → Obj} {as : List (Process.Act B Ctx)}

namespace Has

variable {service : Option B} {first : Option (Process.Act B Ctx)}

omit [DecidableEq Ctx] in
/-- Adding the service helps those who have not asked yet. -/
theorem addService (h : Has ofManager service v first) (name : String) (b : B) :
    Has ofManager (some b) v (first.or (some (.addService name b))) := by
  cases first with
  | none =>
    refine ⟨rfl, fun w hw => ?_⟩
    rw [h.2] at hw
    cases hw
  | some a =>
    cases a with
    | addService _ _ => exact ⟨rfl, h.2⟩
    | getSystemService _ => exact h

omit [DecidableEq Ctx] in
/-- Asking creates a manager, with the service as it is now. -/
theorem getSystemService (h : Has ofManager service v first) (q : Request Ctx) :
    Has ofManager service (v.or (some (ofManager ⟨service⟩)))
      (first.or (some (.getSystemService q))) := by
  cases first with
  | none =>
    obtain ⟨rfl, rfl⟩ := h
    rfl
  | some a =>
    cases a with
    | getSystemService _ =>
      rw [show v = _ from h]
      rfl
    | addService _ _ =>
      refine ⟨h.1, fun w hw => ?_⟩
      cases v with
      | some v => exact h.2 w hw
      | none =>
        obtain ⟨b, rfl⟩ := Option.isSome_iff_exists.1 h.1
        exact ⟨b, (Option.some_inj.1 hw).symm⟩

end Has

section

variable (hl : lastRegistered l "sound" = some (soundFetcher ofManager))
include hl

omit [DecidableEq C] [DecidableEq Ctx] in
theorem key_eq_iff (q : Request Ctx) :
    (memo getOuterContext l).key q = (some ctx, "sound") ↔ q = ⟨ctx, "sound"⟩ := by
  obtain ⟨c, name⟩ := q
  rw [memo, Prod.mk.injEq, Request.mk.injEq, and_congr_left_iff]
  rintro rfl
  simp only [hl, soundFetcher, Option.bind_some, NewFetcher.context, Option.some_inj]

omit [DecidableEq C] [DecidableEq Ctx] in
theorem answer_sound : (memo getOuterContext l).answer t ⟨ctx, "sound"⟩ =
    (t.value (some ctx, "sound")).or (some (ofManager ⟨t.env "sound"⟩)) := by
  rw [Memo.answer, (key_eq_iff hl _).2 rfl]
  simp only [memo, hl, soundFetcher, Option.bind_some, NewFetcher.create]

omit [DecidableEq C] in
theorem has_of_run (h : (memo getOuterContext l).machine.Run (as.map (·.toMemo)) t) :
    Has ofManager (t.env "sound") (t.value (some ctx, "sound")) (as.find? (·.Concerns ctx)) := by
  induction as using List.reverseRecOn generalizing t with
  | nil =>
    obtain rfl := h.unique .init
    exact ⟨rfl, rfl⟩
  | append_singleton as a ih =>
    rw [List.map_append, List.map_singleton, Machine.run_append_iff] at h
    obtain ⟨u, hu, h⟩ := h
    replace hu := ih hu
    rw [Machine.exec_singleton] at h
    rw [List.find?_append, List.find?_singleton]
    cases a with
    | addService name service =>
      obtain rfl := Option.some_inj.1 h
      change Has _ (update u.env name (some service) "sound") _ _
      by_cases hn : name = "sound"
      · subst hn
        rw [update_self, if_pos (by rfl)]
        exact hu.addService "sound" service
      · rw [update_of_ne (Ne.symm hn), if_neg (by simpa [Process.Act.Concerns]), Option.or_none]
        exact hu
    | getSystemService q =>
      obtain rfl := Option.some_inj.1 h
      change Has _ (u.env "sound") (update u.value _ _ _) _
      by_cases hq : q = ⟨ctx, "sound"⟩
      · subst hq
        rw [(key_eq_iff hl _).2 rfl, update_self, answer_sound hl,
          if_pos (by simp [Process.Act.Concerns])]
        exact hu.getSystemService _
      · rw [update_of_ne fun he => hq ((key_eq_iff hl q).1 he.symm),
          if_neg (by simpa [Process.Act.Concerns]), Option.or_none]
        exact hu

/-- Asked for in a context, the sound service is there for good, or is not, ever: a call of
    `aux_switch` throws exactly if the context has asked before the service was added. -/
theorem auxSwitch_eq_none_iff (h : (Process.machine getOuterContext l).Run as x) (ctx : Ctx)
    (call : B → Int32 → Option ℤ) (way : Int32) :
    ∃ m p, getSystemService getOuterContext (registry l) ⟨ctx, "sound"⟩ x.process =
        some (some (ofManager m), p) ∧
      (m.auxSwitch call way = none ↔
        Process.AsksFirst ctx (as ++ [.getSystemService ⟨ctx, "sound"⟩])) := by
  obtain ⟨t, ht, hs⟩ := memo_of_run h
  obtain ⟨p, hp, -⟩ := hs.getSystemService ⟨ctx, "sound"⟩
  have hrun : Has ofManager (t.env "sound") (t.value (some ctx, "sound"))
      (as.find? (·.Concerns ctx)) := has_of_run hl ht
  have hHas := hrun.getSystemService ⟨ctx, "sound"⟩
  rw [answer_sound hl] at hp
  rw [Process.AsksFirst, List.find?_append, List.find?_singleton,
    if_pos (by simp [Process.Act.Concerns])]
  cases hf : as.find? (·.Concerns ctx) with
  | none =>
    -- this call is the first to ask
    rw [hf] at hHas
    exact ⟨⟨none⟩, p, by rw [hp, show _ = _ from hHas], iff_of_true rfl rfl⟩
  | some a =>
    rw [hf] at hHas
    cases a with
    | getSystemService q =>
      obtain rfl : q = ⟨ctx, "sound"⟩ := by simpa [Process.Act.Concerns] using List.find?_some hf
      exact ⟨⟨none⟩, p, by rw [hp, show _ = _ from hHas], iff_of_true rfl rfl⟩
    | addService name b =>
      obtain ⟨v, hv⟩ : ∃ v, (t.value (some ctx, "sound")).or
          (some (ofManager ⟨t.env "sound"⟩)) = some v := by
        cases t.value (some ctx, "sound") <;> exact ⟨_, rfl⟩
      obtain ⟨b', rfl⟩ := hHas.2 v hv
      exact ⟨⟨some b'⟩, p, by rw [hp, hv], iff_of_false nofun nofun⟩

end

theorem auxSwitch_eq_none_iff_early : ∃ x p,
    (Process.machine id soundRegistrations).Run earlyAndLate x ∧
      getSystemService id (registry soundRegistrations) ⟨true, "sound"⟩ x.process =
        some (some ⟨none⟩, p) := by
  obtain ⟨x, hx⟩ := Machine.exists_run (Process.machine id soundRegistrations) earlyAndLate rfl
  have hl : lastRegistered soundRegistrations "sound" = some (soundFetcher id) := rfl
  obtain ⟨m, p, hp, hm⟩ := auxSwitch_eq_none_iff hl hx true (fun _ _ => some 0) 1
  refine ⟨x, p, hx, ?_⟩
  have hearly := hm.2 rfl
  rw [SoundManager.auxSwitch, Option.map_eq_none_iff] at hearly
  rw [hp, ← hearly]
  rfl

end Sounder

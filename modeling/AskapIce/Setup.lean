import AskapIce.Config

/-! `Server.setup_services`, `Server.run` and `Server.add_service`.

    `setup_services` creates the main adapter `<ClassName>Adapter`, runs `get_config`, sets up
    the monitoring adapter when `monitoring` is on, runs the concrete service's
    `initialize_services` hook, adds every recorded service to the main adapter and activates it
    through `wait_for_service`. The hook is any `Hook`: it may add services and make calls of its
    own, and it may return or raise, but it calls nothing on the process's own adapters (the
    documented interface of `initialize_services`) and changes no attribute of the server but
    `_services`. -/

namespace AskapIce

/-- A call on the process's main or monitoring adapter, or the final wait. -/
def Call.ownAdapter : Call → Bool
  | .createObjectAdapter r _ | .createObjectAdapterWithEndpoints r _ _ | .add r _
  | .addWithUUID r | .activate r => r != .subscriber
  | .waitForShutdown => true
  | _ => false

/-- Events a hook may cause: anything but a method boundary or a call on an own adapter. -/
def Event.hookable : Event → Bool
  | .enter _ | .leave _ => false
  | .call c => !c.ownAdapter
  | _ => true

/-- A concrete service's `initialize_services`, run on the configured server: how it ends, the
    services it records with `add_service` (in order), and the events of its own work. A hook
    changes no attribute of the server but `_services`: an override that calls `set_retries`, or
    sets `parameters` or the flags, is not a `Hook`. -/
structure Hook where
  run : Server → Ends Unit × List Service × List Event
  hookable : ∀ s, ∀ e ∈ (run s).2.2, e.hookable = true

/-- `add_service(name, value)`: only appends to `self._services`. -/
def addService (d : Service) (s : Server) : Server := { s with services := s.services ++ [d] }

/-- Apply `f` to the attribute holding adapter `r` (the subscriber adapter is a local). -/
def Server.withAdapter (r : Role) (f : Option Adapter → Option Adapter) (s : Server) : Server :=
  match r with
  | .main => { s with adapter := f s.adapter }
  | .monitoring => { s with monAdapter := f s.monAdapter }
  | .subscriber => s

/-- `self._adapter = self._comm.createObjectAdapter(name)` (or `_mon_adapter`). -/
def createAdapter (b : Broker) (r : Role) (name : String) : Prog Unit := do
  Prog.invoke (.createObjectAdapter r name) (b.createObjectAdapter r)
  Prog.update (Server.withAdapter r fun _ => some ⟨name, [], false⟩)

/-- The `i`-th `adapter.add(value, stringToIdentity(name))` on adapter `r`. -/
def addServant (b : Broker) (r : Role) (i : Nat) (d : Service) : Prog Unit := do
  Prog.invoke (.add r d) (b.add r i)
  Prog.update (Server.withAdapter r (Option.map fun a => { a with servants := a.servants ++ [d] }))

/-- `self.wait_for_service("registry", adapter.activate)`. -/
def activateAdapter (b : Broker) (r : Role) (fuel : Nat) : Prog Unit := do
  waitForService "registry" (.activate r) (b.activate r) fuel
  Prog.update (Server.withAdapter r (Option.map fun a => { a with active := true }))

/-- `for service in self._services: self._adapter.add(...)`, from the `i`-th add on. -/
def bindServices (b : Broker) : Nat → List Service → Prog Unit
  | _, [] => pure ()
  | i, d :: ds => do
    addServant b .main i d
    bindServices b (i + 1) ds

/-- Record entering method `m`, run it, record its return. -/
def Prog.method {α : Type} (m : Method) (p : Prog α) : Prog α := do
  Prog.emit (.enter m)
  let a ← p
  Prog.emit (.leave m)
  pure a

section Method

variable {α β : Type} {m : Method} {p : Prog α} {s s' : Server} {t : List Event}

theorem Prog.method_ok {a : α} (hp : p s = (.ok a, s', t)) :
    Prog.method m p s = (.ok a, s', .enter m :: t ++ [.leave m]) := by
  simp [Prog.method, Prog.bind_apply, Prog.bind, hp]

theorem Prog.method_stop {r : Ends α} (hp : p s = (r, s', t)) (hr : ∀ a, r ≠ .ok a) :
    Prog.method m p s = (r, s', .enter m :: t) := by
  rcases r with a | e | _
  · exact absurd rfl (hr a)
  all_goals simp [Prog.method, Prog.bind_apply, Prog.bind, hp]

theorem Prog.method_returned {a : α} (h : Prog.method m p s = (.ok a, s', t)) :
    ∃ t', p s = (.ok a, s', t') ∧ t = .enter m :: t' ++ [.leave m] := by
  rcases hp : p s with ⟨_ | _ | _, _, t1⟩
  · rw [Prog.method_ok hp] at h; cases h; exact ⟨t1, rfl, rfl⟩
  all_goals rw [Prog.method_stop hp nofun] at h; cases h

/-- A method's trace, and whatever follows it, starts with the entry into the method. -/
theorem Prog.method_bind_head (f : α → Prog β) (s : Server) :
    ∃ t', ((Prog.method m p >>= f) s).2.2 = .enter m :: t' := by
  rcases hp : p s with ⟨a | e | _, s1, t1⟩
  · exact ⟨_, by rw [Prog.bind_ok (Prog.method_ok hp)]; rfl⟩
  · exact ⟨_, by rw [Prog.bind_raise (Prog.method_stop hp nofun)]⟩
  · exact ⟨_, by rw [Prog.bind_pending (Prog.method_stop hp nofun)]⟩

end Method

theorem Prog.Within.method {α : Type} {P : Event → Bool} {m : Method} {p : Prog α}
    (hin : P (.enter m) = true) (hp : Prog.Within P p) (hout : P (.leave m) = true) :
    Prog.Within P (Prog.method m p) :=
  (Prog.Within.emit hin).bind fun _ => hp.bind fun _ =>
    (Prog.Within.emit hout).bind fun _ => Prog.Within.pure _

/-- A trace of `Prog.method m p >>= f` that records the return from `m` is that of a run in which
    `p` returned. -/
theorem Prog.method_bind_of_leave {α β : Type} {m : Method} {p : Prog α} {f : α → Prog β}
    {s : Server} (hp : Prog.Within (· != .leave m) p)
    (h : .leave m ∈ ((Prog.method m p >>= f) s).2.2) :
    ∃ a s1 t1, p s = (.ok a, s1, t1) ∧
      (Prog.method m p >>= f) s =
        ((f a s1).1, (f a s1).2.1, .enter m :: t1 ++ .leave m :: (f a s1).2.2) := by
  rcases hps : p s with ⟨_ | _ | _, s1, t1⟩
  · refine ⟨_, s1, t1, rfl, ?_⟩
    simp [Prog.method, Prog.bind_apply, Prog.bind, hps]
  all_goals
    simp [Prog.method, Prog.bind_apply, Prog.bind, hps] at h
    have := hp s _ (by rw [hps]; exact h)
    simp at this

/-- `self.initialize_services()`: the hook's `add_service` calls land in `_services` whether it
    returns or raises. -/
def initializeServices (hook : Hook) : Prog Unit := fun s =>
  let r := hook.run s
  (r.1, { s with services := s.services ++ r.2.1 }, r.2.2)

/-- The monitoring provider `setup_services` adds when `monitoring` is on. -/
def monitoringService : Service := ⟨"MonitoringService", "MonitoringProviderImpl"⟩

/-- The `if self.monitoring:` block of `setup_services`. -/
def setupMonitoring (b : Broker) (fuel : Nat) (s : Server) : Prog Unit :=
  if s.monitoring then do
    createAdapter b .monitoring (s.className ++ "MonitoringAdapter")
    addServant b .monitoring 0 monitoringService
    activateAdapter b .monitoring fuel
  else pure ()

/-- `setup_services` up to the call of the hook. -/
def setupBeforeHook (env : Env) (b : Broker) (fuel : Nat) : Prog Unit := do
  let s ← Prog.read
  createAdapter b .main (s.className ++ "Adapter")
  Prog.method .getConfig (getConfig env b fuel)
  let s ← Prog.read
  setupMonitoring b fuel s

/-- `setup_services` after the hook: the binding loop and the activation of the main adapter. -/
def bindAndActivate (b : Broker) (fuel : Nat) : Prog Unit := do
  let s ← Prog.read
  bindServices b 0 s.services
  activateAdapter b .main fuel

/-- `Server.setup_services`. -/
def setupServices (env : Env) (b : Broker) (hook : Hook) (fuel : Nat) : Prog Unit := do
  setupBeforeHook env b fuel
  Prog.method .initializeServices (initializeServices hook)
  bindAndActivate b fuel

/-- `Server.run`: set up the services, then `self._comm.waitForShutdown()`. -/
def run (env : Env) (b : Broker) (hook : Hook) (fuel : Nat) : Prog Unit := do
  setupServices env b hook fuel
  Prog.invoke .waitForShutdown (.ok ())

/-- A broker that answers every call: adapters are created, added to and activated, and the
    well-known names resolve to no proxy. -/
def Broker.answering : Broker :=
  ⟨fun _ => .ok (), fun _ => .ok none, fun _ _ => .ok none, fun _ _ _ => .ok [],
    fun _ _ => .ok (), fun _ _ => .ok ()⟩

/-! ### What each step records -/

section Footprints

variable {P : Event → Bool} (b : Broker)

theorem createAdapter_within {r : Role} {name : String}
    (h : P (.call (.createObjectAdapter r name)) = true) : Prog.Within P (createAdapter b r name) :=
  (Prog.Within.invoke _ h).bind fun _ => Prog.Within.update _

theorem addServant_within {r : Role} {i : Nat} {d : Service} (h : P (.call (.add r d)) = true) :
    Prog.Within P (addServant b r i d) :=
  (Prog.Within.invoke _ h).bind fun _ => Prog.Within.update _

theorem activateAdapter_within {r : Role} (fuel : Nat) (h : P (.call (.activate r)) = true)
    (hq : ∀ e, e.quiet = true → P e = true) : Prog.Within P (activateAdapter b r fuel) :=
  (waitForService_within _ _ _ _ h hq).bind fun _ => Prog.Within.update _

theorem bindServices_within (h : ∀ x, P (.call (.add .main x)) = true) :
    ∀ i ds, Prog.Within P (bindServices b i ds)
  | _, [] => Prog.Within.pure _
  | i, _ :: ds => (addServant_within b (h _)).bind fun _ => bindServices_within h (i + 1) ds

theorem setupMonitoring_within (fuel : Nat) (s : Server)
    (hc : ∀ x, P (.call (.createObjectAdapter .monitoring x)) = true)
    (ha : ∀ x, P (.call (.add .monitoring x)) = true) (hact : P (.call (.activate .monitoring)) = true)
    (hq : ∀ e, e.quiet = true → P e = true) : Prog.Within P (setupMonitoring b fuel s) := by
  unfold setupMonitoring
  split
  · exact (createAdapter_within b (hc _)).bind fun _ => (addServant_within b (ha _)).bind fun _ =>
      activateAdapter_within b fuel hact hq
  · exact Prog.Within.pure _

end Footprints

theorem initializeServices_within (hook : Hook) :
    Prog.Within Event.hookable (initializeServices hook) :=
  fun s => hook.hookable s

/-! ### What each step leaves alone -/

section Frames

variable (b : Broker) (fuel : Nat)

/-- The operations on adapter `r` leave alone whatever does not read it. -/
theorem adapterOps_keep {γ : Type} (g : Server → γ) (r : Role)
    (hg : ∀ s f, g (s.withAdapter r f) = g s) (name : String) (i : Nat) (d : Service) :
    Prog.Keeps g (createAdapter b r name) ∧ Prog.Keeps g (addServant b r i d) ∧
      Prog.Keeps g (activateAdapter b r fuel) :=
  ⟨(Prog.Keeps.invoke _ _).bind fun _ => Prog.Keeps.update fun s => hg s _,
   (Prog.Keeps.invoke _ _).bind fun _ => Prog.Keeps.update fun s => hg s _,
   (waitForService_keeps _ _ _ _ _).bind fun _ => Prog.Keeps.update fun s => hg s _⟩

/-- The binding loop leaves alone whatever the main adapter's updates do not change. -/
theorem bindServices_keeps {γ : Type} (g : Server → γ)
    (hg : ∀ s f, g (s.withAdapter .main f) = g s) : ∀ i ds, Prog.Keeps g (bindServices b i ds)
  | _, [] => Prog.Keeps.pure _
  | i, d :: ds => (adapterOps_keep b 0 g .main hg "" i d).2.1.bind fun _ =>
    bindServices_keeps g hg (i + 1) ds

theorem bindAndActivate_keeps {γ : Type} (g : Server → γ)
    (hg : ∀ s f, g (s.withAdapter .main f) = g s) : Prog.Keeps g (bindAndActivate b fuel) :=
  Prog.Keeps.read.bind fun s => (bindServices_keeps b g hg 0 s.services).bind fun _ =>
    (adapterOps_keep b fuel g .main hg "" 0 monitoringService).2.2

theorem setupMonitoring_keeps {γ : Type} (g : Server → γ)
    (hg : ∀ s f, g (s.withAdapter .monitoring f) = g s) (s : Server) :
    Prog.Keeps g (setupMonitoring b fuel s) := by
  unfold setupMonitoring
  split
  · have h := adapterOps_keep b fuel g .monitoring hg (s.className ++ "MonitoringAdapter") 0
      monitoringService
    exact h.1.bind fun _ => h.2.1.bind fun _ => h.2.2
  · exact Prog.Keeps.pure _

theorem method_keeps {α γ : Type} {g : Server → γ} {m : Method} {p : Prog α}
    (hp : Prog.Keeps g p) : Prog.Keeps g (Prog.method m p) :=
  (Prog.Keeps.emit _).bind fun _ => hp.bind fun _ => (Prog.Keeps.emit _).bind fun _ =>
    Prog.Keeps.pure _

section Whole

variable (env : Env) {γ : Type} (g : Server → γ) (hmain : ∀ s f, g (s.withAdapter .main f) = g s)
  (hmon : ∀ s f, g (s.withAdapter .monitoring f) = g s)
  (hpar : ∀ s d, g { s with parameters := some d } = g s)
include hmain hmon hpar

/-- `setup_services` up to the hook leaves alone what neither adapter's updates nor `get_config`
    change. -/
theorem setupBeforeHook_keeps : Prog.Keeps g (setupBeforeHook env b fuel) :=
  Prog.Keeps.read.bind fun s =>
    (adapterOps_keep b fuel g .main hmain (s.className ++ "Adapter") 0 monitoringService).1.bind
    fun _ => (method_keeps (getConfig_keeps env b fuel hpar)).bind fun _ =>
    Prog.Keeps.read.bind fun s => setupMonitoring_keeps b fuel g hmon s

/-- `setup_services` leaves alone what its steps and the hook's `add_service` calls do not
    change. -/
theorem setupServices_keeps (hook : Hook)
    (hsv : ∀ s ds, g { s with services := s.services ++ ds } = g s) :
    Prog.Keeps g (setupServices env b hook fuel) :=
  (setupBeforeHook_keeps b fuel env g hmain hmon hpar).bind fun _ =>
    (method_keeps fun s => hsv s _).bind fun _ => bindAndActivate_keeps b fuel g hmain

end Whole

end Frames

/-- From the hook on, `setup_services` records the hook's boundaries and events, then `add`s and
    activations on the main adapter, printing, logging and sleeping. -/
theorem hookAndBind_within {P : Event → Bool} (b : Broker) (hook : Hook) (fuel : Nat)
    (hq : ∀ e, e.quiet = true → P e = true) (hh : ∀ e, e.hookable = true → P e = true)
    (hm : P (.enter .initializeServices) = true ∧ P (.leave .initializeServices) = true)
    (hadd : ∀ x, P (.call (.add .main x)) = true) (hact : P (.call (.activate .main)) = true) :
    Prog.Within P (Prog.method .initializeServices (initializeServices hook) >>= fun _ =>
      bindAndActivate b fuel) :=
  (Prog.Within.method hm.1 ((initializeServices_within hook).mono hh) hm.2).bind fun _ =>
    Prog.Within.read.bind fun s => (bindServices_within b hadd 0 s.services).bind fun _ =>
      activateAdapter_within b fuel hact hq

end AskapIce

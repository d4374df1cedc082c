import AskapIce.Lifecycle

/-! `self.parameters` over the life of a `Server`. The constructor sets it to `None`; only
    `get_config`, run by `setup_services`, writes it, and only on a configurable server;
    `get_parameter` reads it, and raises `AttributeError` while it is `None`.

        __init__ ──▶ None ──setup_services: get_config returns──▶ the parset (file or FCM)
                     │                                             │
                     └── configurable = False: stays None ─────────┴── kept by every later call

    `get_parameter_lifecycle`: a server built with `configurable = False` answers no
    `get_parameter` after any sequence of method calls; a configurable server whose
    `setup_services` returned answers every one; and a server that answers keeps answering after
    any method call, however that call ends (a failed reconfiguration keeps the old parset).

    Each part is a condition on the configuration carried through `setup_services` by one
    assembly of per-step triples (`setupServices_triple_of`), given a triple for `get_config`. -/

namespace AskapIce

/-- One call of a public method of a server, with any environment, broker, hook and fuel. -/
inductive Step : Server → Server → Prop
  | addService (d : Service) (s : Server) : Step s (addService d s)
  | setRetries (r : Int) (s : Server) : Step s (setRetries r s)
  | setupServices (env : Env) (b : Broker) (hook : Hook) (fuel : Nat) (s : Server) :
      Step s (setupServices env b hook fuel s).2.1
  | run (env : Env) (b : Broker) (hook : Hook) (fuel : Nat) (s : Server) :
      Step s (run env b hook fuel s).2.1

/-- `get_parameter` answers every key: `parameters` is set. -/
def Configured (s : Server) : Prop := s.parameters.isSome = true

theorem getParameter_none {s : Server} (h : s.parameters = none) (key : String)
    (default : Option String) : getParameter s key default = .error (.attribute "get") := by
  simp [getParameter, h]

theorem getParameter_ok_iff (s : Server) (key : String) (default : Option String) :
    (∃ v, getParameter s key default = .ok v) ↔ Configured s := by
  unfold getParameter Configured
  rcases s.parameters with _ | d
  · simp
  · dsimp only
    split <;> simp

/-! ### Rules for triples -/

namespace Prog

variable {α : Type} {P Q R P' Q' R' : Server → Prop}

/-- The rule of consequence. -/
theorem Triple.mono {p : Prog α} (h : Triple P p Q R) (hP : ∀ s, P' s → P s)
    (hQ : ∀ s, Q s → Q' s) (hR : ∀ s, R s → R' s) : Triple P' p Q' R' :=
  ⟨fun s a hs ha => hQ _ (h.returns s a (hP s hs) ha), fun s hs hn => hR _ (h.stops s (hP s hs) hn)⟩

/-- A program that reads the server may assume it is the one it starts from. -/
theorem Triple.read_bind {f : Server → Prog α} (h : ∀ s, Triple (fun s' => P s' ∧ s' = s) (f s) Q R) :
    Triple P (Prog.read >>= f) Q R :=
  ⟨fun s a hs ha => (h s).returns s a ⟨hs, rfl⟩ ha, fun s hs hn => (h s).stops s ⟨hs, rfl⟩ hn⟩

theorem Triple.pure (a : α) : Triple P (Pure.pure a : Prog α) P R :=
  ⟨fun _ _ hs _ => hs, fun _ _ hn => absurd rfl (hn a)⟩

theorem Triple.emit (e : Event) : Triple P (Prog.emit e) P R :=
  ⟨fun _ _ hs _ => hs, fun _ _ hn => absurd rfl (hn ())⟩

theorem Triple.throw (ex : Exn) (hPR : ∀ s, P s → R s) : Triple P (Prog.throw ex : Prog α) Q R :=
  ⟨fun _ _ _ h => (nomatch h), fun s hs _ => hPR s hs⟩

/-- A program that changes nothing keeps every condition. -/
theorem Triple.of_keeps {p : Prog α} (hk : Keeps (fun s => s) p) : Triple P p P P :=
  Triple.frame hk (fun _ _ h hs => h ▸ hs) (fun _ _ h hs => h ▸ hs)

/-- The enter and leave events of a method change nothing. -/
theorem Triple.method {m : Method} {p : Prog α} (h : Triple P p Q R) :
    Triple P (Prog.method m p) Q R :=
  (Triple.emit _).bind fun _ => h.bind fun a => (Triple.emit _).bind fun _ => Triple.pure a

/-- A program that keeps the condition at the start keeps it in every run. -/
theorem Triple.invariant {p : Prog α} (h : Triple P p P P) {s : Server} (hs : P s) :
    P (p s).2.1 := by
  by_cases hok : ∃ a, (p s).1 = .ok a
  · obtain ⟨a, ha⟩ := hok
    exact h.returns s a hs ha
  · exact h.stops s hs fun a ha => hok ⟨a, ha⟩

end Prog

/-! ### What the steps of `setup_services` leave of the configuration -/

/-- What a condition on the configuration reads. -/
def configSide (s : Server) : Option Params × Bool := (s.parameters, s.configurable)

/-- A condition on the configuration alone. -/
def OnConfig (P : Server → Prop) : Prop := ∀ s s', configSide s' = configSide s → P s → P s'

theorem configSide_withAdapter (r : Role) (s : Server) (f : Option Adapter → Option Adapter) :
    configSide (s.withAdapter r f) = configSide s := by
  cases r <;> rfl

/-- A step that leaves the configuration alone keeps every condition on it. -/
theorem Prog.Triple.of_keeps_configSide {α : Type} {Q R : Server → Prop} (hQ : OnConfig Q)
    (hQR : ∀ s, Q s → R s) {p : Prog α} (hk : Prog.Keeps configSide p) : Prog.Triple Q p Q R :=
  Prog.Triple.frame hk (fun s s' h hs => hQ s s' h hs) (fun s s' h hs => hQR _ (hQ s s' h hs))

section Assembly

variable (env : Env) (b : Broker) (hook : Hook) (fuel : Nat) {P Q R : Server → Prop}
  (hP : OnConfig P) (hQ : OnConfig Q) (hPR : ∀ s, P s → R s) (hQR : ∀ s, Q s → R s)
include hP hQ hPR hQR

/-- `setup_services` carries a condition on the configuration as `get_config` does. -/
theorem setupServices_triple_of (hg : Prog.Triple P (getConfig env b fuel) Q R) :
    Prog.Triple P (setupServices env b hook fuel) Q R :=
  (Prog.Triple.read.bind fun s =>
    (Prog.Triple.of_keeps_configSide hP hPR
      (adapterOps_keep b fuel configSide .main (configSide_withAdapter .main)
        (s.className ++ "Adapter") 0 monitoringService).1).bind fun _ =>
    hg.method.bind fun _ => Prog.Triple.read.bind fun s' =>
    Prog.Triple.of_keeps_configSide hQ hQR
      (setupMonitoring_keeps b fuel configSide (configSide_withAdapter .monitoring) s')).bind
    fun _ => (Prog.Triple.of_keeps_configSide hQ hQR (method_keeps fun _ => rfl)).bind fun _ =>
    Prog.Triple.of_keeps_configSide hQ hQR
      (bindAndActivate_keeps b fuel configSide (configSide_withAdapter .main))

theorem run_triple_of (hg : Prog.Triple P (getConfig env b fuel) Q R) :
    Prog.Triple P (run env b hook fuel) Q R :=
  (setupServices_triple_of env b hook fuel hP hQ hPR hQR hg).bind fun _ =>
    Prog.Triple.of_keeps_configSide hQ hQR (Prog.Keeps.invoke _ _)

end Assembly

/-- A condition on the configuration that `get_config` keeps is kept by every method call. -/
theorem Step.keeps {I : Server → Prop} (hI : OnConfig I)
    (hg : ∀ env b fuel, Prog.Triple I (getConfig env b fuel) I I) {s s' : Server} (h : Step s s')
    (hs : I s) : I s' := by
  cases h with
  | addService d => exact hI s _ rfl hs
  | setRetries r => exact hI s _ rfl hs
  | setupServices env b hook fuel =>
    exact (setupServices_triple_of env b hook fuel hI hI (fun _ => id) (fun _ => id)
      (hg env b fuel)).invariant hs
  | run env b hook fuel =>
    exact (run_triple_of env b hook fuel hI hI (fun _ => id) (fun _ => id) (hg env b fuel)).invariant hs

/-! ### `get_config` -/

section GetConfig

variable (env : Env) (b : Broker) (fuel : Nat) {P : Server → Prop}
  (hset : ∀ s d, P s → P { s with parameters := some d })
include hset

theorem setParameters_triple (d : Params) (e : Event) :
    Prog.Triple P (setParameters d >>= fun _ => Prog.emit e)
      (fun s => P s ∧ s.parameters.isSome = true) P :=
  ⟨fun s _ hs _ => ⟨hset s d hs, rfl⟩, fun _ _ hn => absurd rfl (hn ())⟩

theorem configFromFile_triple (arg : String) :
    Prog.Triple P (configFromFile env arg) (fun s => P s ∧ s.parameters.isSome = true) P :=
  (Prog.Triple.of_keeps (Prog.Keeps.lift _)).bind fun ⟨_, _⟩ =>
    (Prog.Triple.emit _).bind fun _ => (Prog.Triple.of_keeps (Prog.Keeps.lift _)).bind fun _ =>
    (Prog.Triple.of_keeps (Prog.Keeps.lift _)).bind fun d => setParameters_triple hset d _

theorem configFromFcm_triple :
    Prog.Triple P (configFromFcm b fuel) (fun s => P s ∧ s.parameters.isSome = true) P := by
  refine (Prog.Triple.of_keeps (Prog.Keeps.invoke _ _)).bind fun prxy => ?_
  cases prxy with
  | none => exact Prog.Triple.throw _ fun _ => id
  | some p =>
    refine (Prog.Triple.of_keeps (waitForService_keeps _ _ _ _ _)).bind fun fcm => ?_
    cases fcm with
    | none => exact Prog.Triple.throw _ fun _ => id
    | some f =>
      exact Prog.Triple.read.bind fun _ => (Prog.Triple.of_keeps (Prog.Keeps.invoke _ _)).bind
        fun d => setParameters_triple hset d _

/-- `get_config` keeps every condition that setting `parameters` keeps, and on a configurable
    server it returns only once `parameters` is set. -/
theorem getConfig_triple :
    Prog.Triple P (getConfig env b fuel)
      (fun s => P s ∧ (s.configurable = true → s.parameters.isSome = true)) P := by
  refine Prog.Triple.read_bind fun s => ?_
  have hQ : ∀ s', P s' ∧ s'.parameters.isSome = true →
      P s' ∧ (s'.configurable = true → s'.parameters.isSome = true) := fun _ h => ⟨h.1, fun _ => h.2⟩
  split
  · split
    · exact (configFromFile_triple env hset _).mono (fun _ h => h.1) hQ fun _ => id
    · exact (configFromFcm_triple b fuel hset).mono (fun _ h => h.1) hQ fun _ => id
  · rename_i hc
    exact (Prog.Triple.pure ()).mono (fun _ => id) (fun s' h => ⟨h.1, fun hc' => absurd (h.2 ▸ hc') hc⟩)
      fun _ => id

end GetConfig

/-- `configurable = False` forces `parameters = None`. -/
def Unconfigured (s : Server) : Prop := s.configurable = false → s.parameters = none

theorem onConfig_unconfigured : OnConfig Unconfigured := fun s s' h hs => by
  simp only [configSide, Prod.mk.injEq] at h
  rw [Unconfigured, h.1, h.2]; exact hs

theorem onConfig_configured : OnConfig Configured := fun s s' h hs => by
  simp only [configSide, Prod.mk.injEq] at h
  rw [Configured, h.1]; exact hs

theorem onConfig_configurable : OnConfig fun s => s.configurable = true := fun s s' h hs => by
  simp only [configSide, Prod.mk.injEq] at h
  rw [h.2]; exact hs

theorem getConfig_unconfigured (env : Env) (b : Broker) (fuel : Nat) :
    Prog.Triple Unconfigured (getConfig env b fuel) Unconfigured Unconfigured := by
  have h : ∀ s, Unconfigured s → Unconfigured (getConfig env b fuel s).2.1 := fun s hs hc => by
    have hc0 : s.configurable = false :=
      (getConfig_keeps env b fuel (g := Server.configurable) (fun _ _ => rfl) s).symm.trans hc
    rw [getConfig_skip env b fuel hc0]
    exact hs hc0
  exact ⟨fun s _ hs _ => h s hs, fun s hs _ => h s hs⟩

/-- On a configurable server, `get_config` returns only once `parameters` is set. -/
theorem getConfig_configures (env : Env) (b : Broker) (fuel : Nat) :
    Prog.Triple (fun s => s.configurable = true) (getConfig env b fuel) Configured fun _ => True :=
  (getConfig_triple env b fuel (P := fun s => s.configurable = true) fun _ _ h => h).mono
    (fun _ => id) (fun _ h => h.2 h.1) fun _ _ => trivial

/-- `get_config` never drops `parameters` once set. -/
theorem getConfig_configured (env : Env) (b : Broker) (fuel : Nat) :
    Prog.Triple Configured (getConfig env b fuel) Configured Configured :=
  (getConfig_triple env b fuel (P := Configured) fun _ _ _ => rfl).mono (fun _ => id)
    (fun _ h => h.1) fun _ => id

/-- `get_parameter` over the life of a server. A server built with `configurable = False` keeps
    `parameters = None` through every sequence of method calls, so `get_parameter` raises
    `AttributeError` for every key; on a configurable server, a `setup_services` that returns
    leaves `get_parameter` answering every key; and once it answers, it answers after any method
    call, whether that call returns, raises or is still waiting. -/
theorem get_parameter_lifecycle :
    (∀ s, Reachable s → s.configurable = false →
      ∀ key default, getParameter s key default = .error (.attribute "get")) ∧
    (∀ env b hook fuel s, s.configurable = true → (setupServices env b hook fuel s).1 = .ok () →
      ∀ key default, ∃ v, getParameter (setupServices env b hook fuel s).2.1 key default = .ok v) ∧
    (∀ s s', Step s s' → (∀ key default, ∃ v, getParameter s key default = .ok v) →
      ∀ key default, ∃ v, getParameter s' key default = .ok v) := by
  refine ⟨fun s hs hc => getParameter_none ?_, fun env b hook fuel s hc hok key default => ?_,
    fun s s' h hs key default => ?_⟩
  · induction hs with
    | new => rfl
    | addService d _ ih =>
      exact Step.keeps onConfig_unconfigured getConfig_unconfigured (.addService d _) ih hc
    | setRetries r _ ih =>
      exact Step.keeps onConfig_unconfigured getConfig_unconfigured (.setRetries r _) ih hc
    | setupServices env b hook fuel _ ih =>
      exact Step.keeps onConfig_unconfigured getConfig_unconfigured
        (.setupServices env b hook fuel _) ih hc
    | run env b hook fuel _ ih =>
      exact Step.keeps onConfig_unconfigured getConfig_unconfigured (.run env b hook fuel _) ih hc
  · exact (getParameter_ok_iff _ key default).mpr
      ((setupServices_triple_of env b hook fuel onConfig_configurable onConfig_configured
        (fun _ _ => trivial) (fun _ _ => trivial) (getConfig_configures env b fuel)).returns
        s () hc hok)
  · exact (getParameter_ok_iff _ key default).mpr (Step.keeps onConfig_configured
      getConfig_configured h ((getParameter_ok_iff s key default).mp (hs key default)))

end AskapIce

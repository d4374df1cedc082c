import AskapIce.Binding

/-! The bootstrap order of `setup_services` as a state machine over its trace.

    `Stage` is the bootstrap sequence the code follows: configuring (main adapter created,
    `get_config` running), configured (`get_config` returned; the monitoring adapter is created,
    populated and activated here), initializing (inside `initialize_services`) and activating
    (binding and activating the main adapter). `Stage.next` says which events each stage allows and
    which event moves it on; the machine never goes back. `setup_services_stage_order` shows that
    every run of `setup_services`, for every flag, environment, hook and broker, is accepted, that
    a run which never returns from the hook attempts no activation of the main adapter, and which
    calls a run that reaches the hook makes between the return of `get_config` and the hook.
    `Moves q p q'` is the Hoare-style reading: `p` is accepted from `q`, and ends in `q'` when it
    returns; it composes along `>>=`. -/

namespace AskapIce

inductive Stage where
  | configuring | configured | initializing | activating
  deriving DecidableEq, Repr

/-- Events each stage allows without moving on; printing, logging and sleeping are allowed
    everywhere. -/
def Stage.admits : Stage → Event → Bool
  | .configuring, .call (.createObjectAdapter .main _) => true
  | .configuring, .enter .getConfig => true
  | .configuring, .openFile _ => true
  | .configuring, .call (.stringToProxy _) => true
  | .configuring, .call (.checkedCast _ _) => true
  | .configuring, .call (.fcmGet _ _) => true
  | .configured, .call (.createObjectAdapter .monitoring _) => true
  | .configured, .call (.add .monitoring _) => true
  | .configured, .call (.activate .monitoring) => true
  | .initializing, e => e.hookable
  | .activating, .call (.add .main _) => true
  | .activating, .call (.activate .main) => true
  | .activating, .call .waitForShutdown => true
  | _, e => e.quiet

/-- One event: the return of `get_config`, the entry into and the return from the hook move the
    machine on; any other event must be allowed where it is. -/
def Stage.next (q : Stage) (e : Event) : Option Stage :=
  match q, e with
  | .configuring, .leave .getConfig => some .configured
  | .configured, .enter .initializeServices => some .initializing
  | .initializing, .leave .initializeServices => some .activating
  | q, e => if q.admits e then some q else none

/-- The machine over a trace; `none` when some event is not allowed where it comes. -/
def Stage.runs : Stage → List Event → Option Stage
  | q, [] => some q
  | q, e :: es => (q.next e).bind (Stage.runs · es)

namespace Stage

theorem runs_append (q : Stage) (a b : List Event) :
    runs q (a ++ b) = (runs q a).bind (runs · b) := by
  induction a generalizing q with
  | nil => rfl
  | cons e a ih => cases h : q.next e <;> simp [runs, h, ih]

/-- Printing, logging and sleeping are allowed in every stage. -/
theorem admits_of_quiet (q : Stage) {e : Event} (h : e.quiet = true) : q.admits e = true := by
  cases e <;> cases q <;> first | rfl | cases h

theorem next_of_admits {q : Stage} {e : Event} (h : q.admits e = true) : q.next e = some q := by
  unfold next
  split
  case h_1 | h_2 | h_3 => exact absurd h (by decide)
  case h_4 => rw [if_pos h]

theorem runs_of_admits {q : Stage} {es : List Event} (h : ∀ e ∈ es, q.admits e = true) :
    runs q es = some q := by
  induction es with
  | nil => rfl
  | cons e es ih =>
    simp [runs, next_of_admits (h e (List.mem_cons_self e es)),
      ih fun e' he' => h e' (List.mem_cons_of_mem e he')]

/-- Only the return from the hook leads into `activating`. -/
theorem eq_leave_of_next_activating {q : Stage} {e : Event} (hq : q ≠ .activating)
    (h : q.next e = some .activating) : e = .leave .initializeServices := by
  unfold next at h; split at h <;> simp_all

/-- The main adapter is activated only in `activating`. -/
theorem activating_of_next_activate_main {q q' : Stage}
    (h : q.next (.call (.activate .main)) = some q') : q = .activating := by
  cases q <;> first | rfl | cases h

/-- An accepted trace that activates the main adapter from before `activating` has returned from
    the hook first. -/
theorem leave_mem_of_activate_main {q : Stage} {t : List Event} (hq : q ≠ .activating)
    (ht : runs q t ≠ none) (he : .call (.activate .main) ∈ t) : .leave .initializeServices ∈ t := by
  induction t generalizing q with
  | nil => simp at he
  | cons e t ih =>
    cases hn : q.next e with
    | none => simp [runs, hn] at ht
    | some q1 =>
      simp only [runs, hn, Option.some_bind] at ht
      rcases List.mem_cons.mp he with rfl | he
      · exact absurd (activating_of_next_activate_main hn) hq
      · by_cases h1 : q1 = .activating
        · subst h1; exact List.mem_cons.mpr (.inl (eq_leave_of_next_activating hq hn).symm)
        · exact List.mem_cons_of_mem e (ih h1 ht he)

end Stage

/-! ### Programs over the machine -/

/-- `p` is accepted from stage `q` from every server, and ends in `q'` whenever it returns. -/
structure Moves {α : Type} (q : Stage) (p : Prog α) (q' : Stage) : Prop where
  accepted : ∀ s, Stage.runs q (p s).2.2 ≠ none
  returns : ∀ s a, (p s).1 = .ok a → Stage.runs q (p s).2.2 = some q'

namespace Moves

variable {α β : Type} {q q' q'' : Stage}

theorem bind {p : Prog α} {f : α → Prog β} (hp : Moves q p q') (hf : ∀ a, Moves q' (f a) q'') :
    Moves q (p >>= f) q'' := by
  constructor
  · intro s
    rcases h : p s with ⟨_ | e | _, s', es⟩
    · have hq := hp.returns s _ (by rw [h])
      rw [h] at hq
      rw [Prog.bind_ok h, Stage.runs_append, hq]
      exact (hf _).accepted s'
    · have := hp.accepted s; rw [h] at this; rwa [Prog.bind_raise h]
    · have := hp.accepted s; rw [h] at this; rwa [Prog.bind_pending h]
  · intro s b hb
    rcases h : p s with ⟨_ | e | _, s', es⟩
    · have hq := hp.returns s _ (by rw [h])
      rw [h] at hq
      rw [Prog.bind_ok h] at hb ⊢
      rw [Stage.runs_append, hq]
      exact (hf _).returns s' b hb
    · rw [Prog.bind_raise h] at hb; cases hb
    · rw [Prog.bind_pending h] at hb; cases hb

theorem stay {p : Prog α} (h : Prog.Within q.admits p) : Moves q p q :=
  ⟨fun s => by rw [Stage.runs_of_admits (h s)]; simp,
   fun s _ _ => Stage.runs_of_admits (h s)⟩

theorem emit {e : Event} (h : q.next e = some q') : Moves q (Prog.emit e) q' :=
  ⟨fun _ => by simp [Stage.runs, h], fun _ _ _ => by simp [Stage.runs, h]⟩

theorem method {m : Method} {p : Prog α} {q1 q2 : Stage} (hin : q.next (.enter m) = some q1)
    (hp : Moves q1 p q2) (hout : q2.next (.leave m) = some q') : Moves q (Prog.method m p) q' :=
  (emit hin).bind fun _ => hp.bind fun _ => (emit hout).bind fun _ => stay (Prog.Within.pure _)

end Moves

/-! ### `setup_services` follows the machine -/

section Setup

variable (env : Env) (b : Broker) (hook : Hook) (fuel : Nat)

theorem getConfig_moves : Moves .configuring (Prog.method .getConfig (getConfig env b fuel))
    .configured :=
  Moves.method rfl (Moves.stay (getConfig_within env b fuel (fun _ => rfl) (fun _ => rfl)
    (fun _ _ => rfl) (fun _ _ => rfl) fun _ => Stage.admits_of_quiet _))
    rfl

theorem monitoring_moves (s : Server) : Moves .configured (setupMonitoring b fuel s) .configured :=
  Moves.stay (setupMonitoring_within b fuel s (fun _ => rfl) (fun _ => rfl) rfl
    fun _ => Stage.admits_of_quiet _)

theorem initializeServices_moves :
    Moves .configured (Prog.method .initializeServices (initializeServices hook)) .activating :=
  Moves.method rfl (Moves.stay ((initializeServices_within hook).mono fun _ h => h)) rfl

theorem setupBeforeHook_moves : Moves .configuring (setupBeforeHook env b fuel) .configured :=
  (Moves.stay Prog.Within.read).bind fun _ =>
    (Moves.stay (createAdapter_within b (by rfl))).bind fun _ =>
    (getConfig_moves env b fuel).bind fun _ =>
    (Moves.stay Prog.Within.read).bind fun s => monitoring_moves b fuel s

theorem bindAndActivate_moves : Moves .activating (bindAndActivate b fuel) .activating :=
  (Moves.stay Prog.Within.read).bind fun s =>
    (Moves.stay (bindServices_within b (fun _ => rfl) 0 s.services)).bind fun _ =>
    Moves.stay (activateAdapter_within b fuel rfl fun _ => Stage.admits_of_quiet _)

/-- Every run of `setup_services` is accepted, and ends in `activating` when it returns. -/
theorem setupServices_moves : Moves .configuring (setupServices env b hook fuel) .activating :=
  (setupBeforeHook_moves env b fuel).bind fun _ =>
    (initializeServices_moves hook).bind fun _ => bindAndActivate_moves b fuel

end Setup

/-! ### What falls between `get_config` and the hook -/

section Returned

variable {env : Env} {b : Broker} {fuel : Nat}

/-- The monitoring block, when it returns: with `monitoring` on it created
    `<ClassName>MonitoringAdapter`, added `MonitoringService` to it and made one or more
    activation attempts, and it left that adapter active holding the service; with `monitoring`
    off it called nothing. -/
theorem setupMonitoring_returned {s s0 : Server} (h : (setupMonitoring b fuel s s0).1 = .ok ()) :
    ∃ k, (setupMonitoring b fuel s s0).2.2.filter Event.isCall = (if s.monitoring then
        [.call (.createObjectAdapter .monitoring (s.className ++ "MonitoringAdapter")),
          .call (.add .monitoring monitoringService)] ++
          List.replicate (k + 1) (.call (.activate .monitoring)) else []) ∧
      (s.monitoring = true → (setupMonitoring b fuel s s0).2.1.monAdapter =
        some ⟨s.className ++ "MonitoringAdapter", [monitoringService], true⟩) := by
  cases hm : s.monitoring
  · exact ⟨0, by simp [setupMonitoring, hm], nofun⟩
  simp only [setupMonitoring, hm, if_true] at h ⊢
  cases hc : b.createObjectAdapter .monitoring with
  | error e => simp [createAdapter, Prog.bind_apply, Prog.bind, hc] at h
  | ok =>
  cases ha : b.add .monitoring 0 with
  | error e =>
    rw [Prog.bind_ok (createAdapter_ok b _ hc s0), Prog.bind_raise (addServant_error b _ ha _)] at h
    cases h
  | ok =>
  rw [Prog.bind_ok (createAdapter_ok b _ hc s0), Prog.bind_ok (addServant_ok b _ ha _)] at h ⊢
  obtain ⟨k, hk, hs⟩ := activateAdapter_returned (P := Event.isCall) rfl
    (fun e he => by cases e <;> first | rfl | cases he) h
  exact ⟨k, by simp [hk, Event.isCall], fun _ => by rw [hs]; simp [Server.withAdapter]⟩

/-- The part before the hook, when it returns: the main adapter's creation and `get_config`,
    then the monitoring block run from the server `get_config` left, which has the flags and the
    class name it started with. -/
theorem setupBeforeHook_returned {s : Server} (h : (setupBeforeHook env b fuel s).1 = .ok ()) :
    ∃ pre s2, setupBeforeHook env b fuel s = ((setupMonitoring b fuel s2 s2).1,
        (setupMonitoring b fuel s2 s2).2.1, pre ++ .leave .getConfig :: (setupMonitoring b fuel s2 s2).2.2) ∧
      s2.monitoring = s.monitoring ∧ s2.className = s.className := by
  unfold setupBeforeHook at h ⊢
  rw [Prog.read_bind_apply] at h ⊢
  obtain ⟨_, s1, t1, hc, hrun⟩ := Prog.bind_returned h
  rw [hrun] at h ⊢
  obtain ⟨_, s2, t2, hm, hrun⟩ := Prog.bind_returned h
  obtain ⟨t2, hg, rfl⟩ := Prog.method_returned hm
  have hkeep {γ : Type} (g : Server → γ) (hmain : ∀ s f, g (s.withAdapter .main f) = g s)
      (hpar : ∀ s d, g { s with parameters := some d } = g s) : g s2 = g s :=
    calc g s2 = g s1 := by rw [← getConfig_keeps env b fuel hpar s1, hg]
      _ = g s := by
        rw [← (adapterOps_keep b fuel g .main hmain _ 0 monitoringService).1 s, hc]
  rw [hrun, Prog.read_bind_apply]
  exact ⟨t1 ++ .enter .getConfig :: t2, s2, by simp, hkeep _ (fun _ _ => rfl) (fun _ _ => rfl),
    hkeep _ (fun _ _ => rfl) (fun _ _ => rfl)⟩

end Returned

/-- For every value of the `monitoring` and `configurable` flags, every command line and
    environment, every hook and every answer of the broker, the trace of `setup_services` follows
    the bootstrap machine, and the main adapter is bound and activated only after the hook has
    returned: a run that never returns from the hook attempts no activation of the main adapter.
    In a run that reaches the hook, the calls between the return of `get_config` and the entry
    into the hook are, with `monitoring` on, the creation of `<ClassName>MonitoringAdapter`, the
    add of `MonitoringService` and one or more activation attempts, in that order, and the
    monitoring adapter is then active holding that service; with `monitoring` off there are
    none. -/
theorem setup_services_stage_order (env : Env) (b : Broker) (hook : Hook) (fuel : Nat)
    (s : Server) :
    Stage.runs .configuring (setupServices env b hook fuel s).2.2 ≠ none ∧
      (.leave .initializeServices ∉ (setupServices env b hook fuel s).2.2 →
        .call (.activate .main) ∉ (setupServices env b hook fuel s).2.2) ∧
      (.enter .initializeServices ∈ (setupServices env b hook fuel s).2.2 →
        ∃ pre mid post k, (setupServices env b hook fuel s).2.2 =
            pre ++ .leave .getConfig :: (mid ++ .enter .initializeServices :: post) ∧
          mid.filter Event.isCall = (if s.monitoring then
            [.call (.createObjectAdapter .monitoring (s.className ++ "MonitoringAdapter")),
              .call (.add .monitoring monitoringService)] ++
              List.replicate (k + 1) (.call (.activate .monitoring)) else []) ∧
          (s.monitoring = true → (setupServices env b hook fuel s).2.1.monAdapter =
            some ⟨s.className ++ "MonitoringAdapter", [monitoringService], true⟩)) := by
  refine ⟨(setupServices_moves env b hook fuel).accepted s, fun hl ha =>
    hl (Stage.leave_mem_of_activate_main (by decide)
      ((setupServices_moves env b hook fuel).accepted s) ha), fun he => ?_⟩
  unfold setupServices at he ⊢
  obtain ⟨_, s1, t1, h1, hrun⟩ := (setupBeforeHook_events env b fuel).bind_returned
    (e := .enter .initializeServices) rfl he
  obtain ⟨pre, s2, hb, hmon, hcls⟩ := setupBeforeHook_returned (by rw [h1])
  rw [h1, Prod.mk.injEq, Prod.mk.injEq] at hb
  obtain ⟨hok, rfl, rfl⟩ := hb
  obtain ⟨k, hk, hadapter⟩ := setupMonitoring_returned hok.symm
  obtain ⟨post, hpost⟩ := Prog.method_bind_head (m := .initializeServices)
    (p := initializeServices hook) (fun _ => bindAndActivate b fuel) (setupMonitoring b fuel s2 s2).2.1
  have hkeep : Prog.Keeps Server.monAdapter (Prog.method .initializeServices
      (initializeServices hook) >>= fun _ => bindAndActivate b fuel) :=
    (method_keeps fun _ => rfl).bind fun _ => bindAndActivate_keeps b fuel _ fun _ _ => rfl
  rw [hrun, hpost]
  exact ⟨pre, (setupMonitoring b fuel s2 s2).2.2, post, k, by simp, by rw [hk, hmon, hcls],
    fun hm => by rw [hkeep, hadapter (hmon ▸ hm), hcls]⟩

/-- A `TestServer` with monitoring on and a hook that raises at once, against a broker that
    answers every call: the monitoring adapter is activated before the hook starts, and it is
    still active when the hook's exception ends `setup_services`. -/
theorem monitoring_active_when_hook_raises :
    let w := setupServices ⟨[], id, id, fun _ => .ok "", fun _ => .ok []⟩ Broker.answering
      ⟨fun _ => (.raise (.other "RuntimeError"), [], []), fun _ _ h => by simp at h⟩ 1
      { Server.new "TestServer" "" (-1) with monitoring := true, configurable := false }
    w.1 = .raise (.other "RuntimeError") ∧ w.2.1.monAdapter.map Adapter.active = some true ∧
      w.2.2 = [.call (.createObjectAdapter .main "TestServerAdapter"), .enter .getConfig,
        .leave .getConfig, .call (.createObjectAdapter .monitoring "TestServerMonitoringAdapter"),
        .call (.add .monitoring monitoringService), .call (.activate .monitoring),
        .log .info "Connected to registry", .stderr "registry found", .enter .initializeServices] := by
  decide

end AskapIce

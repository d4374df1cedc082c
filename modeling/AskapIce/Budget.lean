import AskapIce.Bootstrap
import AskapIce.Lifecycle

/-! The retry budget of `Server.run` against a registry that never answers.

    `wait_for_service` reads its budget from `self._retries`, which only the constructor's
    `retries` argument and `set_retries` write: `get_config` stores the parset in
    `self.parameters` and nothing reads a `retries` key from it. So when the first activation of
    `run` (the monitoring adapter's when `monitoring` is on, otherwise the main adapter's) meets a
    registry that refuses every attempt, `run` makes `N + 1` attempts and raises `TimeoutError` for
    a budget `N ≥ 0` held by the server when `run` starts, keeps trying for as long as it runs for a
    negative budget, and never reaches `waitForShutdown` (`run_retry_budget`); whatever the
    configuration says about retries does not change this. -/

namespace AskapIce

/-- The adapter whose activation `run` attempts first. -/
def firstActivated (s : Server) : Role := if s.monitoring then .monitoring else .main

theorem Server.withAdapter_retries (r : Role) (s : Server) (f : Option Adapter → Option Adapter) :
    (s.withAdapter r f).retries = s.retries := by
  cases r <;> rfl

/-- A registry that refuses every activation with `ConnectionRefusedException` and answers every
    other call. -/
def Broker.refusing : Broker :=
  { Broker.answering with activate := fun _ _ => .error (.ice .connectionRefused) }

/-- An `initialize_services` that does nothing. -/
def Hook.idle : Hook := ⟨fun _ => (.ok (), [], []), fun _ _ h => by simp at h⟩

/-- `--config=service.cfg`, a file whose parset sets `myservice.retries=3`. -/
def serviceCfg : Env :=
  ⟨["server.py", "--config=service.cfg"], id, id, fun _ => .ok "myservice.retries=3",
    fun _ => .ok [("myservice.retries", "3")]⟩

/-! ### The activation against a refusing registry -/

section Refused

variable (b : Broker) (r : Role) (fuel : Nat)

theorem activateAdapter_not_ok (hun : ∀ n, failsRetryably (b.activate r n)) (s : Server) (a : Unit) :
    (activateAdapter b r fuel s).1 ≠ .ok a := by
  have h := waitLoop_not_ok "registry" (.activate r) s.retries hun fuel 0
  cases hw : (waitLoop "registry" (.activate r) s.retries (b.activate r) fuel 0).1 <;>
    simp_all [activateAdapter, Prog.bind_apply, Prog.bind]

/-- With budget `N ≥ 0` and fuel for `N + 1` passes the activation makes `N + 1` attempts and
    times out; with a negative budget it is still trying when the fuel runs out. -/
theorem activateAdapter_refused (hun : ∀ n, failsRetryably (b.activate r n)) (s : Server) :
    (∀ N : Nat, s.retries = N → N < fuel →
      (activateAdapter b r fuel s).1 = .raise (.timeout (timeoutMsg "registry")) ∧
      (activateAdapter b r fuel s).2.2.count (.call (.activate r)) = N + 1) ∧
    (s.retries < 0 → (activateAdapter b r fuel s).1 = .pending ∧
      (activateAdapter b r fuel s).2.2.count (.call (.activate r)) = fuel) := by
  constructor
  · intro N hN hfuel
    obtain ⟨e, h⟩ :=
      waitLoop_gives_up "registry" (.activate r) (b.activate r) (fun i _ => hun i) hfuel
    have hw : waitForService "registry" (.activate r) (b.activate r) fuel s =
        (.raise (.timeout (timeoutMsg "registry")), s,
          retryTrace "registry" (.activate r) 0 N ++
            [.call (.activate r), .logError (timeoutMsg "registry") e]) := by
      simp [hN, h]
    simp [activateAdapter, Prog.bind_raise hw, retryTrace_count]
  · intro hneg
    have hw : waitForService "registry" (.activate r) (b.activate r) fuel s =
        (.pending, s, retryTrace "registry" (.activate r) 0 fuel) := by
      simp [waitLoop_forever "registry" (.activate r) (b.activate r) hneg fuel fun i _ => hun i]
    simp [activateAdapter, Prog.bind_pending hw, retryTrace_count]

end Refused

/-! ### `setup_services` up to its first activation -/

section Prefix

variable (env : Env) (b : Broker) (hook : Hook) (fuel : Nat)

/-- `setup_services` never calls `waitForShutdown`. -/
theorem setupServices_never_waits :
    Prog.Within (· != .call .waitForShutdown) (setupServices env b hook fuel) :=
  Prog.Within.bind ((setupBeforeHook_events env b fuel).mono fun _ h => Event.bne_of_pred h rfl)
    fun _ => hookAndBind_within b hook fuel (fun _ h => Event.bne_of_pred h rfl)
      (fun _ h => Event.bne_of_pred h rfl) ⟨rfl, rfl⟩ (fun _ => rfl) rfl

/-- Once the monitoring adapter's activation is attempted and never succeeds, `setup_services`
    ends as that activation does. -/
theorem setupServices_at_monitoring {s : Server}
    (hstop : ∀ s' a, (activateAdapter b .monitoring fuel s').1 ≠ .ok a)
    (he : .call (.activate .monitoring) ∈ (setupServices env b hook fuel s).2.2) :
    ∃ s' t, .call (.activate .monitoring) ∉ t ∧ setupServices env b hook fuel s =
      ((activateAdapter b .monitoring fuel s').1, (activateAdapter b .monitoring fuel s').2.1,
        t ++ (activateAdapter b .monitoring fuel s').2.2) := by
  have hq : ∀ e : Event, e.quiet = true → (e != .call (.activate .monitoring)) = true :=
    fun _ h => Event.bne_of_pred h rfl
  have hpre := Prog.Within.mem_of_bind (fun _ => hookAndBind_within b hook fuel hq
    (fun _ h => Event.bne_of_pred h rfl) ⟨rfl, rfl⟩ (fun _ => rfl) rfl) he
  unfold setupBeforeHook at hpre
  rw [Prog.read_bind_apply] at hpre
  obtain ⟨_, s1, t1, -, hn1, he1, h1⟩ := (createAdapter_within b rfl).bind_step hpre
  obtain ⟨_, s2, t2, -, hn2, he2, h2⟩ := (Prog.Within.method rfl (getConfig_within env b fuel
    (fun _ => rfl) (fun _ => rfl) (fun _ _ => rfl) (fun _ _ => rfl) hq) rfl).bind_step he1
  rw [Prog.read_bind_apply, setupMonitoring] at he2
  split at he2
  · rename_i hm
    obtain ⟨_, s3, t3, -, hn3, he3, h3⟩ := (createAdapter_within b rfl).bind_step he2
    obtain ⟨_, s4, t4, -, hn4, -, h4⟩ := (addServant_within b rfl).bind_step he3
    refine ⟨s4, t1 ++ (t2 ++ (t3 ++ t4)), by simp [hn1, hn2, hn3, hn4], ?_⟩
    have hbh : setupBeforeHook env b fuel s = ((activateAdapter b .monitoring fuel s4).1,
        (activateAdapter b .monitoring fuel s4).2.1,
        t1 ++ (t2 ++ (t3 ++ t4)) ++ (activateAdapter b .monitoring fuel s4).2.2) := by
      rw [setupBeforeHook, Prog.read_bind_apply, h1, h2, Prog.read_bind_apply, setupMonitoring,
        if_pos hm, h3, h4]
      simp
    unfold setupServices
    rw [Prog.bind_of_not_ok (by rw [hbh]; exact hstop s4), hbh]
  · simp at he2

/-- Once the main adapter's activation is attempted, `setup_services` ends as it does. -/
theorem setupServices_at_main {s : Server}
    (he : .call (.activate .main) ∈ (setupServices env b hook fuel s).2.2) :
    ∃ s' t, .call (.activate .main) ∉ t ∧ setupServices env b hook fuel s =
      ((activateAdapter b .main fuel s').1, (activateAdapter b .main fuel s').2.1,
        t ++ (activateAdapter b .main fuel s').2.2) := by
  have hl := Stage.leave_mem_of_activate_main (by decide)
    ((setupServices_moves env b hook fuel).accepted s) he
  obtain ⟨s2, t, h, ht, -⟩ := setupServices_of_leave hl
  have hnt : .call (.activate .main) ∉ t := fun hm => by
    simpa [Event.onMain] using List.filter_eq_nil_iff.mp ht _ hm
  rw [h] at he
  unfold bindAndActivate at h he
  rw [Prog.read_bind_apply] at h he
  obtain ⟨_, s3, t3, -, hn3, -, h3⟩ :=
    (bindServices_within b (fun _ => rfl) 0 s2.services).bind_step (List.mem_append.mp he
      |>.resolve_left hnt)
  refine ⟨s3, t ++ t3, by simp [hnt, hn3], ?_⟩
  rw [h, h3]
  simp

end Prefix

/-- `Server.run`, from a server whose budget is `s.retries`, for every command line and
    configuration source, every hook (which records services and changes nothing else of the
    server, so never calls `set_retries`) and every broker whose registry refuses every activation of
    the first adapter `run` activates: once that activation is attempted, `run` makes `N + 1`
    attempts and raises `TimeoutError` when the budget is `N ≥ 0` (given fuel for them), is still
    trying when the fuel runs out when the budget is negative, and never calls
    `waitForShutdown`. -/
theorem run_retry_budget (env : Env) (b : Broker) (hook : Hook) (fuel : Nat) (s : Server)
    (hun : ∀ n, failsRetryably (b.activate (firstActivated s) n))
    (hreach : .call (.activate (firstActivated s)) ∈ (run env b hook fuel s).2.2) :
    (∀ N : Nat, s.retries = N → N < fuel →
      (run env b hook fuel s).1 = .raise (.timeout (timeoutMsg "registry")) ∧
      (run env b hook fuel s).2.2.count (.call (.activate (firstActivated s))) = N + 1) ∧
    (s.retries < 0 → (run env b hook fuel s).1 = .pending ∧
      (run env b hook fuel s).2.2.count (.call (.activate (firstActivated s))) = fuel) ∧
    .call .waitForShutdown ∉ (run env b hook fuel s).2.2 := by
  have he : .call (.activate (firstActivated s)) ∈ (setupServices env b hook fuel s).2.2 :=
    Prog.Within.mem_of_bind (fun _ _ e he => by simp_all) hreach
  obtain ⟨s', t, hnt, heq⟩ : ∃ s' t, .call (.activate (firstActivated s)) ∉ t ∧
      setupServices env b hook fuel s = ((activateAdapter b (firstActivated s) fuel s').1,
        (activateAdapter b (firstActivated s) fuel s').2.1,
        t ++ (activateAdapter b (firstActivated s) fuel s').2.2) := by
    unfold firstActivated at hun he ⊢
    split
    · exact setupServices_at_monitoring env b hook fuel
        (activateAdapter_not_ok b .monitoring fuel (by simpa [*] using hun)) (by simpa [*] using he)
    · exact setupServices_at_main env b hook fuel (by simpa [*] using he)
  have hr : s'.retries = s.retries := by
    have hk := setupServices_keeps b fuel env Server.retries (Server.withAdapter_retries .main)
      (Server.withAdapter_retries .monitoring) (fun _ _ => rfl) hook (fun _ _ => rfl) s
    rw [heq] at hk
    rw [← hk]
    exact ((adapterOps_keep b fuel Server.retries (firstActivated s)
      (Server.withAdapter_retries _) "" 0 monitoringService).2.2 s').symm
  have hrun : run env b hook fuel s = setupServices env b hook fuel s :=
    Prog.bind_of_not_ok (by rw [heq]; exact activateAdapter_not_ok b _ fuel hun s') _
  have hwait := setupServices_never_waits env b hook fuel s
  rw [hrun]
  obtain ⟨hbounded, hunbounded⟩ := activateAdapter_refused b (firstActivated s) fuel hun s'
  refine ⟨fun N hN hf => ?_, fun hneg => ?_, fun hw => by simpa using hwait _ hw⟩
  · obtain ⟨h1, h2⟩ := hbounded N (hr.trans hN) hf
    rw [heq]
    simp [h1, h2, List.count_eq_zero_of_not_mem hnt]
  · obtain ⟨h1, h2⟩ := hunbounded (hr ▸ hneg)
    rw [heq]
    simp [h1, h2, List.count_eq_zero_of_not_mem hnt]

/-- A server built with `retries=3`, configured from `service.cfg`, against a refusing
    registry: four activation attempts, then `TimeoutError`. -/
theorem run_gives_up_after_four_attempts :
    (∀ n, failsRetryably (Broker.refusing.activate .main n)) ∧
      .call (.activate .main) ∈
        (run serviceCfg Broker.refusing Hook.idle 5 (Server.new "MyService" "myservice" 3)).2.2 ∧
      (run serviceCfg Broker.refusing Hook.idle 5 (Server.new "MyService" "myservice" 3)).1 =
        .raise (.timeout (timeoutMsg "registry")) ∧
      (run serviceCfg Broker.refusing Hook.idle 5
        (Server.new "MyService" "myservice" 3)).2.2.count (.call (.activate .main)) = 4 := by
  have h1 : ∀ n, failsRetryably
      (Broker.refusing.activate (firstActivated (Server.new "MyService" "myservice" 3)) n) :=
    fun _ => rfl
  have h2 : .call (.activate (firstActivated (Server.new "MyService" "myservice" 3))) ∈
      (run serviceCfg Broker.refusing Hook.idle 5 (Server.new "MyService" "myservice" 3)).2.2 := by
    decide
  exact ⟨h1, h2, (run_retry_budget _ _ _ _ _ h1 h2).1 3 rfl (by decide)⟩

/-- The same configuration run by a server built with the default `retries=-1`: the parset sets
    `myservice.retries` to `3` and `get_parameter("retries")` reads it back, yet after five passes
    the activation of the main adapter is still being retried. -/
theorem configured_retries_not_used :
    let w := run serviceCfg Broker.refusing Hook.idle 5 (Server.new "MyService" "myservice" (-1))
    (getParameter w.2.1 "retries" none).toOption = some (some "3") ∧ w.1 = .pending ∧
      w.2.2.count (.call (.activate .main)) = 5 := by
  decide

end AskapIce

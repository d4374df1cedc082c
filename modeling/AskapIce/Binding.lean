import AskapIce.Setup

/-! The binding loop of `setup_services`: every service recorded with `add_service` before the
    loop (in the constructor or in the hook) is added to the main adapter, in order, each once,
    stopping at the first `add` that raises; the main adapter is activated only after the last
    `add`. `bindServices_ok` and `bindServices_error` are the loop's two outcomes, by induction over
    the recorded list; `setup_services_binds_in_order` lifts them to the whole run, whose earlier
    parts make no call on the main adapter. -/

namespace AskapIce

/-- A call on the main adapter: an `add` or an activation attempt. -/
def Event.onMain : Event → Bool
  | .call (.add .main _) | .call (.activate .main) => true
  | _ => false

/-- The events on the main adapter are its `add`s and its activations. -/
theorem Event.onMain_cases {e : Event} (h : e.onMain = true) :
    (∃ d, e = .call (.add .main d)) ∨ e = .call (.activate .main) := by
  rcases e with c | _ | _ | _ | _ | _ | _ | _
  · rcases c with _ | _ | _ | _ | ⟨r, d⟩ | _ | r | _ | _ | _ | _ | _
    case add => cases r <;> first | exact .inl ⟨d, rfl⟩ | cases h
    case activate => cases r <;> first | exact .inr rfl | cases h
    all_goals cases h
  all_goals cases h

/-- A hook makes no call on the main adapter. -/
theorem Event.onMain_of_hookable {e : Event} (h : e.hookable = true) : e.onMain = false :=
  Bool.eq_false_iff.mpr fun ho => by rcases Event.onMain_cases ho with ⟨_, rfl⟩ | rfl <;> cases h

/-- The calls `adapter.add(d.value, stringToIdentity(d.name))` for each of `ds`, in order. -/
def addCalls (ds : List Service) : List Event := ds.map fun d => .call (.add .main d)

@[simp] theorem Server.withAdapter_services (r : Role) (f : Option Adapter → Option Adapter)
    (s : Server) : (s.withAdapter r f).services = s.services := by
  cases r <;> rfl

/-! ### The loop -/

section Loop

variable (b : Broker)

theorem createAdapter_ok {r : Role} (name : String) (h : b.createObjectAdapter r = .ok ())
    (s : Server) : createAdapter b r name s =
      (.ok (), s.withAdapter r (fun _ => some ⟨name, [], false⟩),
        [.call (.createObjectAdapter r name)]) := by
  simp [createAdapter, Prog.bind_apply, Prog.bind, h]

theorem addServant_ok {r : Role} {i : Nat} (d : Service) (h : b.add r i = .ok ()) (s : Server) :
    addServant b r i d s = (.ok (),
      s.withAdapter r (Option.map fun a => { a with servants := a.servants ++ [d] }),
      [.call (.add r d)]) := by
  simp [addServant, Prog.bind_apply, Prog.bind, h]

theorem addServant_error {r : Role} {i : Nat} (d : Service) {e : Exn} (h : b.add r i = .error e)
    (s : Server) : addServant b r i d s = (.raise e, s, [.call (.add r d)]) := by
  simp [addServant, Prog.bind_apply, Prog.bind, h]

/-- When every `add` succeeds, the loop issues one `add` per service, in order. -/
theorem bindServices_ok : ∀ (ds : List Service) (i : Nat),
    (∀ k < ds.length, b.add .main (i + k) = .ok ()) → ∀ s : Server,
    (bindServices b i ds s).1 = .ok () ∧ (bindServices b i ds s).2.2 = addCalls ds
  | [], _, _, _ => ⟨rfl, rfl⟩
  | d :: ds, i, h, s => by
    have hd := addServant_ok b d (by simpa using h 0 (by simp)) s
    have ih := bindServices_ok ds (i + 1) fun k hk => by
      rw [Nat.add_right_comm]; exact h (k + 1) (by simp [hk])
    simp [bindServices, Prog.bind_ok hd, (ih _).1, (ih _).2, addCalls]

/-- When the `j`-th `add` is the first to raise, the loop stops there with its exception. -/
theorem bindServices_error : ∀ (ds : List Service) (i j : Nat) (e : Exn),
    j < ds.length → (∀ k < j, b.add .main (i + k) = .ok ()) → b.add .main (i + j) = .error e →
    ∀ s : Server,
    (bindServices b i ds s).1 = .raise e ∧ (bindServices b i ds s).2.2 = addCalls (ds.take (j + 1))
  | [], _, _, _, hj, _, _, _ => absurd hj (by simp)
  | d :: ds, i, 0, e, _, _, he, s => by
    simp [bindServices, Prog.bind_raise (addServant_error b d (by simpa using he) s), addCalls]
  | d :: ds, i, j + 1, e, hj, hok, he, s => by
    have hd := addServant_ok b d (by simpa using hok 0 (by omega)) s
    have ih := bindServices_error ds (i + 1) j e (by simpa using hj)
      (fun k hk => by rw [Nat.add_right_comm]; exact hok (k + 1) (by omega))
      (by rw [Nat.add_right_comm]; exact he)
    simp [bindServices, Prog.bind_ok hd, (ih _).1, (ih _).2, addCalls]

end Loop

/-! ### Activation of the main adapter -/

theorem waitLoop_head (svc : String) (cb : Call) (r : Int) {α : Type} (o : Nat → Except Exn α)
    (fuel c : Nat) : ∃ es, (waitLoop svc cb r o (fuel + 1) c).2 = .call cb :: es := by
  simp only [waitLoop]; split <;> exact ⟨_, rfl⟩

/-- Among the events `P` keeps, the activation of adapter `r` records only its attempts: at
    least one when there is fuel for one pass. -/
theorem activateAdapter_filter (b : Broker) (r : Role) (fuel : Nat) (s : Server) {P : Event → Bool}
    (hP : P (.call (.activate r)) = true) (hq : ∀ e, e.quiet = true → P e = false) :
    ∃ k, (activateAdapter b r fuel s).2.2.filter P =
      List.replicate k (.call (.activate r)) ∧ (0 < fuel → 0 < k) := by
  have ht : (activateAdapter b r fuel s).2.2 = (waitLoop "registry" (.activate r) s.retries
      (b.activate r) fuel 0).2 := by
    rcases h : waitLoop "registry" (.activate r) s.retries (b.activate r) fuel 0 with
      ⟨_ | _ | _, t⟩ <;> simp [activateAdapter, Prog.bind_apply, Prog.bind, h]
  refine ⟨_, List.eq_replicate_iff.mpr ⟨rfl, fun e he => ?_⟩, fun hf => ?_⟩
  · rw [ht, List.mem_filter] at he
    rcases waitLoop_events _ _ _ _ _ _ e he.1 with h | h
    · exact h
    · rw [hq e h] at he; cases he.2
  · obtain ⟨f, rfl⟩ : ∃ f, fuel = f + 1 := ⟨fuel - 1, by omega⟩
    obtain ⟨es, hes⟩ := waitLoop_head "registry" (.activate r) s.retries (b.activate r) f 0
    simp [ht, hes, hP]

/-- An activation that returned made one or more attempts, and left its adapter active. -/
theorem activateAdapter_returned {b : Broker} {r : Role} {fuel : Nat} {s : Server}
    {P : Event → Bool} (hP : P (.call (.activate r)) = true)
    (hq : ∀ e, e.quiet = true → P e = false) (h : (activateAdapter b r fuel s).1 = .ok ()) :
    ∃ k, (activateAdapter b r fuel s).2.2.filter P = List.replicate (k + 1) (.call (.activate r)) ∧
      (activateAdapter b r fuel s).2.1 = s.withAdapter r (Option.map fun a => { a with active := true }) := by
  have hfuel : 0 < fuel ∧ (activateAdapter b r fuel s).2.1 =
      s.withAdapter r (Option.map fun a => { a with active := true }) := by
    rcases hw : waitLoop "registry" (.activate r) s.retries (b.activate r) fuel 0 with ⟨_ | _ | _, t⟩
    all_goals simp [activateAdapter, Prog.bind_apply, Prog.bind, hw, Ends.ofExcept] at h ⊢
    cases fuel
    · simp at hw
    · omega
  obtain ⟨k, hk, hpos⟩ := activateAdapter_filter b r fuel s hP hq
  have hk1 : k - 1 + 1 = k := Nat.sub_add_cancel (hpos hfuel.1)
  exact ⟨k - 1, hk1 ▸ hk, hfuel.2⟩

/-! ### The whole run -/

section Run

variable (b : Broker) (fuel : Nat)

theorem filter_addCalls (ds : List Service) : (addCalls ds).filter Event.onMain = addCalls ds :=
  List.filter_eq_self.mpr fun e he => by
    simp only [addCalls, List.mem_map] at he; obtain ⟨d, -, rfl⟩ := he; rfl

theorem bindAndActivate_ok {s : Server} (h : ∀ i < s.services.length, b.add .main i = .ok ()) :
    ∃ k, (bindAndActivate b fuel s).2.2.filter Event.onMain =
      addCalls s.services ++ List.replicate k (.call (.activate .main)) ∧ (0 < fuel → 0 < k) := by
  obtain ⟨h1, h2⟩ := bindServices_ok b s.services 0 (by simpa using h) s
  obtain ⟨s1, hb⟩ : ∃ s1, bindServices b 0 s.services s = (.ok (), s1, addCalls s.services) :=
    ⟨_, by rw [← h1, ← h2]⟩
  obtain ⟨k, hk, hpos⟩ := activateAdapter_filter b .main fuel s1 (P := Event.onMain) rfl
    fun e he => by cases e <;> first | rfl | cases he
  refine ⟨k, ?_, hpos⟩
  simp only [bindAndActivate, Prog.bind_apply, Prog.bind, Prog.read_apply, hb,
    List.filter_append, filter_addCalls, List.nil_append]
  rw [← hk]

theorem bindAndActivate_error {s : Server} {j : Nat} {e : Exn} (hj : j < s.services.length)
    (hok : ∀ i < j, b.add .main i = .ok ()) (he : b.add .main j = .error e) :
    (bindAndActivate b fuel s).1 = .raise e ∧
      (bindAndActivate b fuel s).2.2.filter Event.onMain = addCalls (s.services.take (j + 1)) := by
  obtain ⟨h1, h2⟩ := bindServices_error b s.services 0 j e hj (by simpa using hok)
    (by simpa using he) s
  obtain ⟨s1, hb⟩ : ∃ s1, bindServices b 0 s.services s =
      (.raise e, s1, addCalls (s.services.take (j + 1))) := ⟨_, by rw [← h1, ← h2]⟩
  simp [bindAndActivate, Prog.bind_apply, Prog.bind, hb, filter_addCalls]

end Run

/-- The events of `setup_services` before its hook: creating the adapters, `get_config`, and
    populating and activating the monitoring adapter. -/
def Event.beforeHook : Event → Bool
  | .call (.createObjectAdapter _ _) | .enter .getConfig | .leave .getConfig | .openFile _
  | .call (.stringToProxy _) | .call (.checkedCast _ _) | .call (.fcmGet _ _)
  | .call (.add .monitoring _) | .call (.activate .monitoring) => true
  | e => e.quiet

theorem setupBeforeHook_events (env : Env) (b : Broker) (fuel : Nat) :
    Prog.Within Event.beforeHook (setupBeforeHook env b fuel) := by
  have hq : ∀ e : Event, e.quiet = true → e.beforeHook = true :=
    fun e he => by cases e <;> first | rfl | cases he
  exact Prog.Within.read.bind fun _ => (createAdapter_within b (by rfl)).bind fun _ =>
    (Prog.Within.method (by rfl) (getConfig_within env b fuel (fun _ => rfl) (fun _ => rfl)
      (fun _ _ => rfl) (fun _ _ => rfl) hq) (by rfl)).bind fun _ => Prog.Within.read.bind fun s =>
    setupMonitoring_within b fuel s (fun _ => rfl) (fun _ => rfl) rfl hq

/-- An event before the hook is no call on the main adapter, no boundary of the hook and no
    subscription to a topic. -/
theorem Event.beforeHook_excludes {e : Event} (h : e.beforeHook = true) :
    e.onMain = false ∧ e ≠ .enter .initializeServices ∧ e ≠ .leave .initializeServices ∧
      ∀ t f, e ≠ .call (.subscribeAndGetPublisher t f) := by
  refine ⟨?_, bne_iff_ne.mp (Event.bne_of_pred h rfl), bne_iff_ne.mp (Event.bne_of_pred h rfl),
    fun _ _ => bne_iff_ne.mp (Event.bne_of_pred h rfl)⟩
  exact Bool.eq_false_iff.mpr fun ho => by
    rcases Event.onMain_cases ho with ⟨_, rfl⟩ | rfl <;> cases h

/-- What `setup_services` does before the hook calls nothing on the main adapter and never
    returns from the hook. -/
theorem setupBeforeHook_within (env : Env) (b : Broker) (fuel : Nat) :
    Prog.Within (fun e => !e.onMain && e != .leave .initializeServices)
      (setupBeforeHook env b fuel) :=
  (setupBeforeHook_events env b fuel).mono fun _ h => by
    obtain ⟨h1, -, h2, -⟩ := Event.beforeHook_excludes h
    simp [h1, h2]

/-- A run of `setup_services` that returned from the hook is the part before the hook, the
    hook, and `bindAndActivate` from the state the hook left: the server after the part before
    the hook, with the services the hook recorded appended. -/
theorem setupServices_of_leave {env : Env} {b : Broker} {hook : Hook} {fuel : Nat} {s : Server}
    (hl : .leave .initializeServices ∈ (setupServices env b hook fuel s).2.2) :
    ∃ s2 t, (setupServices env b hook fuel s) = ((bindAndActivate b fuel s2).1,
      (bindAndActivate b fuel s2).2.1, t ++ (bindAndActivate b fuel s2).2.2) ∧
      t.filter Event.onMain = [] ∧
      s2.services = (setupBeforeHook env b fuel s).2.1.services ++
        (hook.run (setupBeforeHook env b fuel s).2.1).2.1 := by
  unfold setupServices at hl ⊢
  obtain ⟨_, s1, t1, h1, hrun⟩ := (setupBeforeHook_within env b fuel).bind_returned (by rfl) hl
  have hpre : t1.filter Event.onMain = [] := List.filter_eq_nil_iff.mpr fun e he => by
    have := setupBeforeHook_within env b fuel s e (by rw [h1]; exact he)
    simp_all
  rw [hrun] at hl ⊢
  have hl' : .leave .initializeServices ∈
      ((Prog.method .initializeServices (initializeServices hook) >>= fun _ =>
        bindAndActivate b fuel) s1).2.2 := by
    rcases List.mem_append.mp hl with h | h
    · have := setupBeforeHook_within env b fuel s _ (by rw [h1]; exact h); simp at this
    · exact h
  obtain ⟨_, s2, t2, h2, hrun2⟩ := Prog.method_bind_of_leave
    ((initializeServices_within hook).mono fun _ he => Event.bne_of_pred he rfl) hl'
  have hhook : t2.filter Event.onMain = [] := List.filter_eq_nil_iff.mpr fun e he => by
    simp [Event.onMain_of_hookable (initializeServices_within hook s1 e (by rw [h2]; exact he))]
  refine ⟨s2, t1 ++ .enter .initializeServices :: t2 ++ [.leave .initializeServices], ?_, ?_, ?_⟩
  · rw [hrun2]; simp
  · simp [hpre, hhook, Event.onMain]
  · have hs2 : (initializeServices hook s1).2.1 = s2 := by rw [h2]
    rw [h1, ← hs2]; rfl

/-- The services recorded by `add_service` calls on a server. -/
theorem addServices_services (pre : List Service) :
    ∀ s0 : Server, (pre.foldl (fun s d => addService d s) s0).services = s0.services ++ pre := by
  induction pre with
  | nil => intro s0; simp
  | cons d pre ih => intro s0; rw [List.foldl_cons, ih]; simp [addService]

/-- For every server `s0` (with the services its constructor recorded), every list `pre` of
    services then recorded with `add_service`, every hook and every answer of the broker, in a run
    of `setup_services` that reaches its binding loop (the hook returned), let `ds` be `s0`'s
    services, then `pre`, then the services the hook records. If every `add` succeeds, the calls
    on the main adapter are `add(d, stringToIdentity(d.name))` for each `d` of `ds` in order, then
    only activation attempts (at least one when there is fuel); if the `j`-th `add` is the first to
    raise, the run raises its exception and the calls on the main adapter are the first `j + 1`
    adds, with no activation. -/
theorem setup_services_binds_in_order (env : Env) (b : Broker) (hook : Hook) (fuel : Nat)
    (s0 : Server) (pre : List Service)
    (hl : .leave .initializeServices ∈
      (setupServices env b hook fuel (pre.foldl (fun s d => addService d s) s0)).2.2) :
    let s := pre.foldl (fun s d => addService d s) s0
    let w := setupServices env b hook fuel s
    let ds := s0.services ++ pre ++ (hook.run (setupBeforeHook env b fuel s).2.1).2.1
    ((∀ i < ds.length, b.add .main i = .ok ()) →
      ∃ k, w.2.2.filter Event.onMain =
        addCalls ds ++ List.replicate k (.call (.activate .main)) ∧ (0 < fuel → 0 < k)) ∧
    (∀ j e, j < ds.length → (∀ i < j, b.add .main i = .ok ()) → b.add .main j = .error e →
      w.1 = .raise e ∧ w.2.2.filter Event.onMain = addCalls (ds.take (j + 1))) := by
  obtain ⟨s2, t, hw, ht, hs2⟩ := setupServices_of_leave hl
  have hds : s2.services = s0.services ++ pre ++
      (hook.run (setupBeforeHook env b fuel (pre.foldl (fun s d => addService d s) s0)).2.1).2.1 := by
    rw [hs2, setupBeforeHook_keeps b fuel env Server.services (fun _ _ => rfl) (fun _ _ => rfl)
      (fun _ _ => rfl), addServices_services]
  simp only [hw, List.filter_append, ht, List.nil_append, ← hds]
  exact ⟨bindAndActivate_ok b fuel, fun j e hj hok he => bindAndActivate_error b fuel hj hok he⟩

/-- A `TestServer` with one service recorded by `add_service` before `setup_services` and one
    recorded by its hook, and a broker that answers every call: the run reaches the binding loop. -/
theorem setup_services_binds_two_services :
    let s0 := { Server.new "TestServer" "" (-1) with configurable := false }
    let pre : List Service := [⟨"A", "AImpl"⟩]
    let hook : Hook := ⟨fun _ => (.ok (), [⟨"B", "BImpl"⟩], []), fun _ _ h => by simp at h⟩
    let env : Env := ⟨[], id, id, fun _ => .ok "", fun _ => .ok []⟩
    .leave .initializeServices ∈
      (setupServices env Broker.answering hook 1 (pre.foldl (fun s d => addService d s) s0)).2.2 ∧
    let s := pre.foldl (fun s d => addService d s) s0
    let w := setupServices env Broker.answering hook 1 s
    let ds := s0.services ++ pre ++ (hook.run (setupBeforeHook env Broker.answering 1 s).2.1).2.1
    ((∀ i < ds.length, Broker.answering.add .main i = .ok ()) →
      ∃ k, w.2.2.filter Event.onMain =
        addCalls ds ++ List.replicate k (.call (.activate .main)) ∧ (0 < 1 → 0 < k)) ∧
    (∀ j e, j < ds.length → (∀ i < j, Broker.answering.add .main i = .ok ()) →
      Broker.answering.add .main j = .error e →
      w.1 = .raise e ∧ w.2.2.filter Event.onMain = addCalls (ds.take (j + 1))) :=
  ⟨by decide, setup_services_binds_in_order _ _ _ _ _ _ (by decide)⟩

end AskapIce

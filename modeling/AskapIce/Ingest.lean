import AskapIce.Binding

/-! `askap.ingest.server.IngestManager`, the central-processor manager built on `Server`.

    Its constructor sets `fcmkey='cp.ingest'` and turns `monitoring` on; its
    `initialize_services` hook builds the observation servant from `self.fcm`, records it as
    `CentralProcessorService`, looks up the IceStorm topic manager through `wait_for_service`,
    gets or creates the topic `sbstatechange` and subscribes a state-change monitor to it. The
    get-or-create block sits outside the `try` whose bare `except:` turns every failure of the
    subscription into `RuntimeError("ICE adapter initialisation failed")`.

    `Server` never sets an attribute `fcm` (the FCM proxy is a local of `_config_from_fcm`), so
    the hook's first read raises `AttributeError` and nothing after it runs: `setup_services` of an
    `IngestManager` never returns, and never binds or activates its main adapter
    (`ingest_initialize_services_raises_attribute_error`). `ingest_subscription_errors` says how
    the code after that read maps every failure of the topic manager and of the subscription. -/

namespace AskapIce

variable {α : Type}

/-- `try: p except <the exceptions h catches> as e: h e`; exceptions `h` does not catch, and
    running out of fuel, pass through. -/
def Prog.catchOnly (p : Prog α) (h : Exn → Option (Prog α)) : Prog α := fun s =>
  match p s with
  | (.raise e, s1, t1) =>
    match h e with
    | some q => let r := q s1; (r.1, r.2.1, t1 ++ r.2.2)
    | none => (.raise e, s1, t1)
  | r => r

theorem Prog.catchOnly_ok {p : Prog α} {s s1 : Server} {a : α} {t1 : List Event}
    (h : p s = (.ok a, s1, t1)) (k : Exn → Option (Prog α)) :
    Prog.catchOnly p k s = (.ok a, s1, t1) := by
  simp [Prog.catchOnly, h]

theorem Prog.catchOnly_uncaught {p : Prog α} {s s1 : Server} {e : Exn} {t1 : List Event}
    {k : Exn → Option (Prog α)} (h : p s = (.raise e, s1, t1)) (hk : k e = none) :
    Prog.catchOnly p k s = (.raise e, s1, t1) := by
  simp [Prog.catchOnly, h, hk]

theorem Prog.catchOnly_caught {p : Prog α} {s s1 : Server} {e : Exn} {t1 : List Event}
    {k : Exn → Option (Prog α)} {q : Prog α} (h : p s = (.raise e, s1, t1)) (hk : k e = some q) :
    Prog.catchOnly p k s = ((q s1).1, (q s1).2.1, t1 ++ (q s1).2.2) := by
  simp [Prog.catchOnly, h, hk]

theorem Prog.Within.catchOnly {P : Event → Bool} {p : Prog α} {k : Exn → Option (Prog α)}
    (hp : Prog.Within P p) (hk : ∀ e q, k e = some q → Prog.Within P q) :
    Prog.Within P (Prog.catchOnly p k) := by
  intro s e he
  unfold Prog.catchOnly at he
  rcases h : p s with ⟨_ | ex | _, s1, t1⟩ <;> rw [h] at he
  · exact hp s e (by rw [h]; exact he)
  · cases hq : k ex with
    | none => simp only [hq] at he; exact hp s e (by rw [h]; exact he)
    | some q =>
      simp only [hq, List.mem_append] at he
      rcases he with he | he
      · exact hp s e (by rw [h]; exact he)
      · exact hk ex q hq s1 e he
  · exact hp s e (by rw [h]; exact he)

/-! ### What the hook talks to -/

/-- What IceStorm answers one `IngestManager` process: its first and second `retrieve`, its
    `create`, and the topic's `subscribeAndGetPublisher`. Topics are told apart by a number. -/
structure TopicManager where
  retrieve : Nat → Except Exn Nat
  create : Except Exn Nat
  subscribeAndGetPublisher : Except Exn Unit

/-- The well-known proxy of the IceStorm topic manager. -/
def topicManagerProxy : String := "IceStorm/TopicManager@IceStorm.TopicManager"

/-- The topic the manager subscribes to. -/
def topicname : String := "sbstatechange"

/-- The servant `initialize_services` records, a `CPObsServiceImp`. -/
def cpObsService : Service := ⟨"CentralProcessorService", "CPObsServiceImp"⟩

/-- The single error the subscription's bare `except:` raises. -/
def adapterInitialisationFailed : Exn := .runtime "ICE adapter initialisation failed"

/-- `IceStorm.TopicManagerPrx.checkedCast(prx)`, the `n`-th attempt: `None` casts to `None`
    without asking the runtime. -/
def castTopicManager (b : Broker) (prx : Option String) (n : Nat) : Except Exn (Option String) :=
  match prx with
  | none => .ok none
  | some _ => b.checkedCast "TopicManagerPrx" n

/-! ### The hook -/

/-- The get-or-create block: `retrieve`; on `NoSuchTopic`, `create`; on `TopicExists`, `retrieve`
    again. -/
def getOrCreate (tm : TopicManager) (name : String) : Prog Nat :=
  Prog.catchOnly (Prog.invoke (.retrieve name) (tm.retrieve 0)) fun
    | .noSuchTopic _ => some <| Prog.catchOnly (Prog.invoke (.create name) tm.create) fun
      | .topicExists _ => some (Prog.invoke (.retrieve name) (tm.retrieve 1))
      | _ => none
    | _ => none

/-- The `try:` block that subscribes a `JIRAStateChangeMonitor` to the topic, whose bare
    `except:` raises `RuntimeError("ICE adapter initialisation failed")`. -/
def subscribeMonitor (b : Broker) (tm : TopicManager) (name : String) : Prog Unit :=
  Prog.catchOnly (do
      Prog.invoke (.createObjectAdapterWithEndpoints .subscriber "SBStateMonitorAdapter" "tcp")
        (b.createObjectAdapter .subscriber)
      Prog.invoke (.addWithUUID .subscriber) (b.add .subscriber 0)
      Prog.invoke (.activate .subscriber) (b.activate .subscriber 0)
      Prog.invoke (.subscribeAndGetPublisher name []) tm.subscribeAndGetPublisher)
    fun _ => some (Prog.throw adapterInitialisationFailed)

/-- The subscription once the topic manager is found: get or create `sbstatechange`, subscribe
    to it, log the end of the hook. -/
def subscribeStateChanges (b : Broker) (tm : TopicManager) : Prog Unit := do
  let _ ← getOrCreate tm topicname
  subscribeMonitor b tm topicname
  Prog.emit (.log .debug "initialize_services finished")

/-- The hook from the topic-manager lookup on. -/
def connectTopicManager (b : Broker) (tm : TopicManager) (fuel : Nat) : Prog Unit := do
  let prx ← Prog.invoke (.stringToProxy topicManagerProxy) (b.stringToProxy topicManagerProxy)
  Prog.emit (.log .debug "Connected to topic manager")
  let manager ← waitForService "IceStorm" (.checkedCast "TopicManagerPrx" (prx.getD "None"))
    (castTopicManager b prx) fuel
  match manager with
  | none => Prog.throw (.attribute "retrieve")
  | some _ => subscribeStateChanges b tm

/-- `IngestManager.initialize_services`. `self.fcm` is not an attribute of the server, so reading
    it raises `AttributeError`. -/
def ingestInitializeServices (b : Broker) (tm : TopicManager) (fuel : Nat) : Prog Unit := do
  Prog.emit (.log .debug "initialize_services")
  let _fcm ← (Prog.throw (.attribute "fcm") : Prog String)
  Prog.update (addService cpObsService)
  connectTopicManager b tm fuel

/-- Whatever the broker and the topic manager would answer, the hook logs its start and raises
    `AttributeError` on `self.fcm`, leaving the server as it was. -/
theorem ingestInitializeServices_apply (b : Broker) (tm : TopicManager) (fuel : Nat) (s : Server) :
    ingestInitializeServices b tm fuel s =
      (.raise (.attribute "fcm"), s, [.log .debug "initialize_services"]) := rfl

theorem ingestInitializeServices_within (b : Broker) (tm : TopicManager) (fuel : Nat) :
    Prog.Within Event.hookable (ingestInitializeServices b tm fuel) := fun s e he => by
  rw [ingestInitializeServices_apply] at he
  simp only [List.mem_singleton] at he
  subst he; rfl

/-- A hook given as a program that only appends to `_services`: it records what it appended. -/
def Hook.ofProg (p : Prog Unit) (hp : Prog.Within Event.hookable p) : Hook :=
  ⟨fun s => ((p s).1, (p s).2.1.services.drop s.services.length, (p s).2.2), fun s => hp s⟩

/-- `IngestManager.initialize_services` as the hook of `setup_services`. -/
def ingestHook (b : Broker) (tm : TopicManager) (fuel : Nat) : Hook :=
  Hook.ofProg (ingestInitializeServices b tm fuel) (ingestInitializeServices_within b tm fuel)

/-- `IngestManager.__init__`: `fcmkey='cp.ingest'`, `monitoring = True`. -/
def ingestManager : Server := { Server.new "IngestManager" "cp.ingest" (-1) with monitoring := true }

/-! ### `setup_services` of an `IngestManager` -/

/-- For every command line and configuration, every broker, every topic manager and every fuel,
    `setup_services` of an `IngestManager` never returns: it calls nothing on the main adapter
    (so `CentralProcessorService` is never bound and the adapter never activated), never
    subscribes to a topic, and once it reaches the hook it raises `AttributeError` on
    `self.fcm`. -/
theorem ingest_initialize_services_raises_attribute_error (env : Env) (b : Broker)
    (tm : TopicManager) (fuel : Nat) :
    let w := setupServices env b (ingestHook b tm fuel) fuel ingestManager
    (∀ a, w.1 ≠ .ok a) ∧ w.2.2.filter Event.onMain = [] ∧
      (∀ t f, .call (.subscribeAndGetPublisher t f) ∉ w.2.2) ∧
      (.enter .initializeServices ∈ w.2.2 → w.1 = .raise (.attribute "fcm")) := by
  have hev := setupBeforeHook_events env b fuel ingestManager
  dsimp only
  rcases hb : setupBeforeHook env b fuel ingestManager with ⟨_ | e | _, s1, t1⟩ <;> rw [hb] at hev
  · have hw : setupServices env b (ingestHook b tm fuel) fuel ingestManager =
        (.raise (.attribute "fcm"), { s1 with services := s1.services ++ [] },
          t1 ++ [.enter .initializeServices, .log .debug "initialize_services"]) := by
      simp only [setupServices, Prog.method, ingestHook, Hook.ofProg, ingestInitializeServices_apply,
        List.drop_length, Prog.bind_ok hb, Prog.bind_apply, Prog.bind, Prog.emit_apply,
        initializeServices, List.append_nil, List.singleton_append]
    rw [hw]
    refine ⟨fun a h => (by cases h), ?_, fun t f h => ?_, fun _ => rfl⟩
    · simp [List.filter_eq_nil_iff, Event.onMain]
      exact fun e he => (Event.beforeHook_excludes (hev e he)).1
    · simp only [List.mem_append, List.mem_cons, List.mem_singleton] at h
      rcases h with h | h | h
      · exact (Event.beforeHook_excludes (hev _ h)).2.2.2 t f rfl
      all_goals simp at h
  all_goals
    obtain ⟨r, hw, hr⟩ : ∃ r : Ends Unit,
        setupServices env b (ingestHook b tm fuel) fuel ingestManager = (r, s1, t1) ∧
          ∀ a, r ≠ .ok a :=
      ⟨_, by first | exact Prog.bind_raise hb _ | exact Prog.bind_pending hb _, fun a h => by cases h⟩
    rw [hw]
    exact ⟨hr,
      List.filter_eq_nil_iff.mpr fun e he => by simp [(Event.beforeHook_excludes (hev e he)).1],
      fun t f h => (Event.beforeHook_excludes (hev _ h)).2.2.2 t f rfl,
      fun h => absurd rfl (Event.beforeHook_excludes (hev _ h)).2.1⟩

/-! ### How the subscription maps failures -/

/-- The exceptions the get-or-create block catches. -/
def Exn.isNoSuchTopic : Exn → Bool
  | .noSuchTopic _ => true
  | _ => false

def Exn.isTopicExists : Exn → Bool
  | .topicExists _ => true
  | _ => false

@[simp] theorem Exn.isNoSuchTopic_noSuchTopic (n : String) : (Exn.noSuchTopic n).isNoSuchTopic := rfl

@[simp] theorem Exn.isTopicExists_topicExists (n : String) : (Exn.topicExists n).isTopicExists := rfl

/-- Every exception the get-or-create block raises is one a topic-manager call raised, unchanged:
    the first `retrieve`'s unless it is `NoSuchTopic`, then `create`'s unless it is
    `TopicExists`, then the second `retrieve`'s. -/
theorem getOrCreate_raise (tm : TopicManager) (name : String) (s : Server) (e : Exn) :
    (getOrCreate tm name s).1 = .raise e ↔
      (tm.retrieve 0 = .error e ∧ e.isNoSuchTopic = false) ∨
      (∃ n, tm.retrieve 0 = .error (.noSuchTopic n) ∧ tm.create = .error e ∧
        e.isTopicExists = false) ∨
      (∃ n n', tm.retrieve 0 = .error (.noSuchTopic n) ∧ tm.create = .error (.topicExists n') ∧
        tm.retrieve 1 = .error e) := by
  rcases h0 : tm.retrieve 0 with e0 | t0
  case ok => simp [getOrCreate, Prog.catchOnly, h0]
  have hr0 : Prog.invoke (.retrieve name) (tm.retrieve 0) s =
      (.raise e0, s, [.call (.retrieve name)]) := by simp [h0]
  by_cases hn : e0.isNoSuchTopic
  case neg =>
    -- an exception other than `NoSuchTopic` escapes the block
    have hrun : (getOrCreate tm name s).1 = .raise e0 := by
      rw [getOrCreate, Prog.catchOnly_uncaught hr0 (by cases e0 <;> first | rfl | simp at hn)]
    rw [hrun]; aesop
  obtain ⟨n, rfl⟩ : ∃ n, e0 = .noSuchTopic n := by cases e0 <;> first | exact ⟨_, rfl⟩ | cases hn
  cases hc : tm.create with
  | ok t1 => simp [getOrCreate, Prog.catchOnly, h0, hc]; rintro rfl; rfl
  | error e1 =>
    by_cases ht : e1.isTopicExists
    case neg =>
      -- `create`'s exception escapes unless it is `TopicExists`
      have hc1 : Prog.invoke (.create name) tm.create s = (.raise e1, s, [.call (.create name)]) := by
        simp [hc]
      have hrun : (getOrCreate tm name s).1 = .raise e1 := by
        rw [getOrCreate, Prog.catchOnly_caught hr0 rfl,
          Prog.catchOnly_uncaught hc1 (by cases e1 <;> first | rfl | simp at ht)]
      rw [hrun]; aesop
    obtain ⟨n', rfl⟩ : ∃ n', e1 = .topicExists n' := by
      cases e1 <;> first | exact ⟨_, rfl⟩ | cases ht
    cases h1 : tm.retrieve 1 <;> simp [getOrCreate, Prog.catchOnly, h0, hc, h1] <;> aesop

/-- The four calls inside the `try:` all answer. -/
def subscriptionAnswers (b : Broker) (tm : TopicManager) : Bool :=
  (b.createObjectAdapter .subscriber).isOk && (b.add .subscriber 0).isOk &&
    (b.activate .subscriber 0).isOk && tm.subscribeAndGetPublisher.isOk

/-- The subscription returns when its four calls answer, and otherwise raises
    `RuntimeError("ICE adapter initialisation failed")`, whichever call failed and however. -/
theorem subscribeMonitor_ends (b : Broker) (tm : TopicManager) (name : String) (s : Server) :
    (subscribeMonitor b tm name s).1 =
      if subscriptionAnswers b tm then .ok () else .raise adapterInitialisationFailed := by
  unfold subscriptionAnswers
  -- the `try` block stops at the first call that fails
  cases h1 : b.createObjectAdapter .subscriber
  case' ok =>
    cases h2 : b.add .subscriber 0
    case' ok =>
      cases h3 : b.activate .subscriber 0
      case' ok => cases h4 : tm.subscribeAndGetPublisher
  all_goals simp [subscribeMonitor, Prog.catchOnly, Prog.bind_apply, Prog.bind, Except.isOk,
    Except.toBool, *]

/-- `IngestManager.initialize_services` raises `AttributeError` on `self.fcm` before any call into
    the broker, for every broker, topic manager and server. The subscription code after that read
    lets every failure of the topic manager through unchanged, apart from the `NoSuchTopic` of
    the first `retrieve` and the `TopicExists` of `create` that the get-or-create block consumes,
    and turns every failure of the four subscription calls into
    `RuntimeError("ICE adapter initialisation failed")`. -/
theorem ingest_subscription_errors (b : Broker) (tm : TopicManager) (fuel : Nat) :
    (∀ s, (ingestInitializeServices b tm fuel s).1 = .raise (.attribute "fcm") ∧
      (ingestInitializeServices b tm fuel s).2.2.filter Event.isCall = []) ∧
    (∀ s e, (subscribeStateChanges b tm s).1 = .raise e ↔
      ((tm.retrieve 0 = .error e ∧ e.isNoSuchTopic = false) ∨
        (∃ n, tm.retrieve 0 = .error (.noSuchTopic n) ∧ tm.create = .error e ∧
          e.isTopicExists = false) ∨
        (∃ n n', tm.retrieve 0 = .error (.noSuchTopic n) ∧ tm.create = .error (.topicExists n') ∧
          tm.retrieve 1 = .error e)) ∨
      ((∃ t, (getOrCreate tm topicname s).1 = .ok t) ∧ subscriptionAnswers b tm = false ∧
        e = adapterInitialisationFailed)) := by
  refine ⟨fun s => by simp [ingestInitializeServices_apply, Event.isCall], fun s e => ?_⟩
  rw [← getOrCreate_raise tm topicname s e]
  rcases hg : getOrCreate tm topicname s with ⟨t | e' | _, s1, t1⟩
  · have hrun : (subscribeStateChanges b tm s).1 = (subscribeMonitor b tm topicname s1).1 := by
      rcases hsm : subscribeMonitor b tm topicname s1 with ⟨_ | _ | _, s2, t2⟩ <;>
        simp [subscribeStateChanges, Prog.bind_apply, Prog.bind, hg, hsm]
    rw [hrun, subscribeMonitor_ends]
    cases subscriptionAnswers b tm <;> simp [eq_comm]
  all_goals simp [subscribeStateChanges, Prog.bind_apply, Prog.bind, hg]

/-- A topic manager whose first `retrieve` fails with a lost connection. -/
def lostTopicManager : TopicManager :=
  ⟨fun _ => .error (.other "ConnectionLostException"), .ok 0, .ok ()⟩

/-- With that topic manager the subscription code raises the broker's exception unchanged, not
    `RuntimeError`; and `initialize_services` itself raises `AttributeError` before it. -/
theorem retrieve_failure_not_wrapped :
    (subscribeStateChanges Broker.answering lostTopicManager ingestManager).1 =
        .raise (.other "ConnectionLostException") ∧
      (ingestInitializeServices Broker.answering lostTopicManager 1 ingestManager).1 =
        .raise (.attribute "fcm") := by
  decide

/-! ### A topic-manager cast that yields `None` -/

/-- The topic-manager lookup after `self.fcm`, were the hook to reach it: when the wait ends with
    the cast yielding `None` (a name that resolves to nothing, which `checkedCast` passes through,
    or to an object that is not a topic manager), `manager.retrieve` raises `AttributeError`, and
    neither `retrieve` nor `create` is called. Unlike `_config_from_fcm`, the hook does not even
    test the result of `stringToProxy`. -/
theorem connect_topic_manager_uses_none_proxy (b : Broker) (tm : TopicManager) (fuel : Nat)
    (s : Server) {prx : Option String} {k : Nat}
    (hprx : b.stringToProxy topicManagerProxy = .ok prx)
    (hpre : ∀ i < k, failsRetryably (castTopicManager b prx i))
    (hk : castTopicManager b prx k = .ok none) (hr : s.retries < 0 ∨ k ≤ s.retries)
    (hfuel : k < fuel) :
    connectTopicManager b tm fuel s =
      (.raise (.attribute "retrieve"), s, .call (.stringToProxy topicManagerProxy) ::
        .log .debug "Connected to topic manager" ::
          (retryTrace "IceStorm" (.checkedCast "TopicManagerPrx" (prx.getD "None")) 0 k ++
            [.call (.checkedCast "TopicManagerPrx" (prx.getD "None")),
              .log .info "Connected to IceStorm", .stderr "IceStorm found"])) := by
  have hwait := waitLoop_first_final "IceStorm" (.checkedCast "TopicManagerPrx" (prx.getD "None"))
    _ hpre (by rw [hk]; rfl) hr hfuel
  rw [hk] at hwait
  simp [connectTopicManager, Prog.bind_apply, Prog.bind, hprx, hwait, Ends.ofExcept, finalEvents]

/-- A registry whose topic-manager name is an object of another type: the first cast yields
    `None` and the lookup raises `AttributeError` on `retrieve`. -/
theorem topic_manager_of_wrong_type_raises_attribute_error :
    let b : Broker := { Broker.answering with stringToProxy := fun _ => .ok (some "tm") }
    b.stringToProxy topicManagerProxy = .ok (some "tm") ∧
      castTopicManager b (some "tm") 0 = .ok none ∧
      connectTopicManager b lostTopicManager 1 ingestManager =
        (.raise (.attribute "retrieve"), ingestManager,
          [.call (.stringToProxy topicManagerProxy), .log .debug "Connected to topic manager",
            .call (.checkedCast "TopicManagerPrx" "tm"), .log .info "Connected to IceStorm",
            .stderr "IceStorm found"]) := by
  intro b
  have hprx : b.stringToProxy topicManagerProxy = .ok (some "tm") := rfl
  exact ⟨hprx, rfl, connect_topic_manager_uses_none_proxy b lostTopicManager 1 ingestManager hprx
    (fun _ h => absurd h (Nat.not_lt_zero _)) rfl (.inl (by decide)) Nat.zero_lt_one⟩

end AskapIce

import AskapIce.WaitForService

/-! `Server.get_config`, `Server._config_from_fcm` and `Server.get_parameter`.

    The configuration comes from the first command-line argument that starts with `--config=`
    (a parset file, after expanding environment variables and `~`), or else from the FCM service
    behind the well-known proxy `FCMService@FCMAdapter`, reached through `wait_for_service`.
    The process environment the code reads (`sys.argv`, the two expansions of `os.path`, the file
    system, `parset_to_dict`) is `Env`; each is an arbitrary function, so the results hold for
    every environment. -/

namespace AskapIce

/-- What `get_config` reads from the process: its command line, `os.path.expandvars`,
    `os.path.expanduser`, `open(p).read()` and `askap.parset.parset_to_dict`. -/
structure Env where
  argv : List String
  expandvars : String → String
  expanduser : String → String
  readFile : String → Except Exn String
  parsetToDict : String → Except Exn Params

/-- The command-line flag `get_config` looks for. -/
def configKey : String := "--config="

/-- The well-known proxy of the FCM service. -/
def fcmProxy : String := "FCMService@FCMAdapter"

/-- Python's `s.startswith(pre)`. -/
def startswith (s pre : String) : Bool := pre.data.isPrefixOf s.data

/-- Python's `s.split(sep)` for a one-character separator. -/
def split (s : String) (sep : Char) : List String := (s.data.splitOn sep).map String.mk

/-- Python 2's `k, v = parts`. -/
def unpack2 : List String → Except Exn (String × String)
  | [k, v] => .ok (k, v)
  | [] => .error (.value "need more than 0 values to unpack")
  | [_] => .error (.value "need more than 1 value to unpack")
  | _ :: _ :: _ :: _ => .error (.value "too many values to unpack")

/-- Return the value of a runtime answer, or raise its exception (no event recorded). -/
def Prog.lift {α : Type} : Except Exn α → Prog α
  | .ok a => pure a
  | .error e => Prog.throw e

@[simp] theorem Prog.lift_ok {α : Type} (a : α) (s : Server) :
    Prog.lift (.ok a) s = (.ok a, s, []) := rfl

@[simp] theorem Prog.lift_error {α : Type} (e : Exn) (s : Server) :
    (Prog.lift (.error e) : Prog α) s = (.raise e, s, []) := rfl

/-- `self.parameters = d`. -/
def setParameters (d : Params) : Prog Unit :=
  Prog.update fun s => { s with parameters := some d }

/-- `_config_from_fcm`: resolve the FCM proxy, wait for the FCM service, fetch the parameters of
    `service_key`. A cast that yields `None` makes `fcm.get` raise `AttributeError`. -/
def configFromFcm (b : Broker) (fuel : Nat) : Prog Unit := do
  let prxy ← Prog.invoke (.stringToProxy fcmProxy) (b.stringToProxy fcmProxy)
  match prxy with
  | none => Prog.throw (.runtime "Invalid Proxy for FCMService")
  | some p =>
    let fcm ← waitForService "FCM" (.checkedCast "IFCMServicePrx" p)
      (b.checkedCast "IFCMServicePrx") fuel
    match fcm with
    | none => Prog.throw (.attribute "get")
    | some f =>
      let s ← Prog.read
      let d ← Prog.invoke (.fcmGet (-1) s.serviceKey) (b.fcmGet f (-1) s.serviceKey)
      setParameters d
      Prog.emit (.log .info "Initialized from fcm")

/-- `os.path.expanduser(os.path.expandvars(v))`. -/
def expandPath (env : Env) (v : String) : String := env.expanduser (env.expandvars v)

/-- The local-file branch of `get_config` for the argument `arg`. -/
def configFromFile (env : Env) (arg : String) : Prog Unit := do
  let (_, v) ← Prog.lift (unpack2 (split arg '='))
  let p := expandPath env v
  Prog.emit (.openFile p)
  let text ← Prog.lift (env.readFile p)
  let d ← Prog.lift (env.parsetToDict text)
  setParameters d
  Prog.emit (.log .info ("Initialized from local config '" ++ p ++ "'"))

/-- `get_config`: nothing unless `configurable`; else the first `--config=` argument, or the
    FCM. -/
def getConfig (env : Env) (b : Broker) (fuel : Nat) : Prog Unit := do
  let s ← Prog.read
  if s.configurable then
    match env.argv.find? (startswith · configKey) with
    | some arg => configFromFile env arg
    | none => configFromFcm b fuel
  else pure ()

/-- `get_parameter(key, default)`: the value of `<service_key>.<key>`, or `default`; it raises
    `AttributeError` while `parameters` is still `None`. -/
def getParameter (s : Server) (key : String) (default : Option String) :
    Except Exn (Option String) :=
  match s.parameters with
  | none => .error (.attribute "get")
  | some d =>
    match d.lookup (s.serviceKey ++ "." ++ key) with
    | some v => .ok (some v)
    | none => .ok default

/-! ### What `get_config` records -/

theorem Prog.Within.lift {α : Type} {P : Event → Bool} (o : Except Exn α) :
    Prog.Within P (Prog.lift o) := by
  cases o <;> exact fun _ _ he => by simp at he

/-- `get_config` reads a file, or calls `stringToProxy`, `checkedCast` and `get` on the FCM;
    otherwise it only prints, logs and sleeps. -/
theorem getConfig_within {P : Event → Bool} (env : Env) (b : Broker) (fuel : Nat)
    (hfile : ∀ p, P (.openFile p) = true) (hprx : ∀ x, P (.call (.stringToProxy x)) = true)
    (hcast : ∀ i x, P (.call (.checkedCast i x)) = true)
    (hget : ∀ v k, P (.call (.fcmGet v k)) = true) (hq : ∀ e, e.quiet = true → P e = true) :
    Prog.Within P (getConfig env b fuel) := by
  refine Prog.Within.read.bind fun s => ?_
  split
  · split
    · refine (Prog.Within.lift _).bind fun ⟨_, v⟩ => (Prog.Within.emit (hfile _)).bind fun _ =>
        (Prog.Within.lift _).bind fun _ => (Prog.Within.lift _).bind fun _ =>
        (Prog.Within.update _).bind fun _ => Prog.Within.emit (hq _ rfl)
    · refine (Prog.Within.invoke _ (hprx _)).bind fun prxy => ?_
      split
      · exact Prog.Within.throw _
      · refine (waitForService_within _ _ _ _ (hcast _ _) hq).bind fun fcm => ?_
        split
        · exact Prog.Within.throw _
        · exact Prog.Within.read.bind fun _ => (Prog.Within.invoke _ (hget _ _)).bind fun _ =>
            (Prog.Within.update _).bind fun _ => Prog.Within.emit (hq _ rfl)
  · exact Prog.Within.pure _

theorem Prog.Keeps.lift {α γ : Type} {g : Server → γ} (o : Except Exn α) :
    Prog.Keeps g (Prog.lift o) := by
  cases o <;> exact fun _ => rfl

/-- `get_config` changes nothing but `parameters`. -/
theorem getConfig_keeps {γ : Type} {g : Server → γ} (env : Env) (b : Broker) (fuel : Nat)
    (hg : ∀ s d, g { s with parameters := some d } = g s) : Prog.Keeps g (getConfig env b fuel) := by
  refine Prog.Keeps.read.bind fun s => ?_
  split
  · split
    · exact (Prog.Keeps.lift _).bind fun ⟨_, _⟩ => (Prog.Keeps.emit _).bind fun _ =>
        (Prog.Keeps.lift _).bind fun _ => (Prog.Keeps.lift _).bind fun _ =>
        (Prog.Keeps.update (hg · _)).bind fun _ => Prog.Keeps.emit _
    · refine (Prog.Keeps.invoke _ _).bind fun prxy => ?_
      split
      · exact Prog.Keeps.throw _
      · refine (waitForService_keeps _ _ _ _ _).bind fun fcm => ?_
        split
        · exact Prog.Keeps.throw _
        · exact Prog.Keeps.read.bind fun _ => (Prog.Keeps.invoke _ _).bind fun _ =>
            (Prog.Keeps.update (hg · _)).bind fun _ => Prog.Keeps.emit _
  · exact Prog.Keeps.pure _

/-! ### Which branch `get_config` takes -/

section Branches

variable (env : Env) (b : Broker) (fuel : Nat) {s : Server}

theorem getConfig_skip (hc : s.configurable = false) : getConfig env b fuel s = (.ok (), s, []) := by
  simp [getConfig, Prog.bind_apply, Prog.bind, hc]

theorem getConfig_file {arg : String} (hc : s.configurable = true)
    (hf : env.argv.find? (startswith · configKey) = some arg) :
    getConfig env b fuel s = configFromFile env arg s := by
  simp [getConfig, Prog.bind_apply, Prog.bind, hc, hf]

theorem getConfig_fcm (hc : s.configurable = true)
    (hf : env.argv.find? (startswith · configKey) = none) :
    getConfig env b fuel s = configFromFcm b fuel s := by
  simp [getConfig, Prog.bind_apply, Prog.bind, hc, hf]

end Branches

/-! ### The local configuration file -/

/-- An argument that starts with `--config=` is the flag followed by the rest of its text. -/
theorem startswith_configKey {arg : String} (h : startswith arg configKey = true) :
    arg.data = "--config".data ++ '=' :: arg.data.drop 9 := by
  have hp : configKey.data = arg.data.take 9 :=
    List.prefix_iff_eq_take.mp (List.isPrefixOf_iff_prefix.mp h)
  conv_lhs => rw [← List.take_append_drop 9 arg.data, ← hp]
  rfl

/-- Python's `arg.split("=")` of such an argument: the flag, then the rest split at each `=`. -/
theorem split_configArg {arg : String} (h : startswith arg configKey = true) :
    split arg '=' = "--config" :: ((arg.data.drop 9).splitOn '=').map String.mk := by
  unfold split List.splitOn
  rw [startswith_configKey h, List.splitOnP_first _ _ (by decide) '=' (by decide)]
  rfl

theorem unpack2_configArg {arg : String} (h : startswith arg configKey = true)
    (hv : '=' ∉ arg.data.drop 9) :
    unpack2 (split arg '=') = .ok ("--config", String.mk (arg.data.drop 9)) := by
  rw [split_configArg h, List.splitOn,
    List.splitOnP_eq_single _ _ fun x hx he => hv (by rwa [beq_iff_eq.mp he] at hx)]
  rfl

/-- With the first `--config=<path>` argument, `get_config` opens exactly the expanded path,
    sets `parameters` to what `parset_to_dict` makes of its contents and calls nothing in the Ice
    runtime; it fails only when reading or parsing fails, leaving the server unchanged. -/
theorem get_config_from_file (env : Env) (b : Broker) (fuel : Nat) (s : Server) (arg : String)
    (hc : s.configurable = true) (hf : env.argv.find? (startswith · configKey) = some arg)
    (hv : '=' ∉ arg.data.drop 9) :
    let p := expandPath env (String.mk (arg.data.drop 9))
    getConfig env b fuel s =
      match env.readFile p >>= env.parsetToDict with
      | .ok d => (.ok (), { s with parameters := some d },
          [.openFile p, .log .info ("Initialized from local config '" ++ p ++ "'")])
      | .error e => (.raise e, s, [.openFile p]) := by
  have hpre : startswith arg configKey = true := by simpa using List.find?_some hf
  rw [getConfig_file env b fuel hc hf]
  cases hr : env.readFile (expandPath env (String.mk (arg.data.drop 9))) with
  | error e =>
    simp [configFromFile, Prog.bind_apply, Prog.bind, unpack2_configArg hpre hv, hr, bind,
      Except.bind]
  | ok text =>
    cases hd : env.parsetToDict text <;>
      simp [configFromFile, Prog.bind_apply, Prog.bind, unpack2_configArg hpre hv, hr, hd,
        setParameters, bind, Except.bind]

/-- `server.py --config=service.cfg` on a configurable server: `get_config` opens `service.cfg`
    and logs it. -/
theorem get_config_opens_service_cfg :
    let env : Env := ⟨["server.py", "--config=service.cfg"], id, id, fun _ => .ok "a.b=1",
      fun _ => .ok [("a.b", "1")]⟩
    (Server.new "S" "a" (-1)).configurable = true ∧
      env.argv.find? (startswith · configKey) = some "--config=service.cfg" ∧
      '=' ∉ "--config=service.cfg".data.drop 9 ∧
      (getConfig env ⟨fun _ => .ok (), fun _ => .ok none, fun _ _ => .ok none, fun _ _ _ => .ok [],
        fun _ _ => .ok (), fun _ _ => .ok ()⟩ 0 (Server.new "S" "a" (-1))).2.2 =
        [.openFile "service.cfg", .log .info "Initialized from local config 'service.cfg'"] := by
  intro env
  have h1 : (Server.new "S" "a" (-1)).configurable = true := rfl
  have h2 : env.argv.find? (startswith · configKey) = some "--config=service.cfg" := by decide
  have h3 : '=' ∉ "--config=service.cfg".data.drop 9 := by decide
  refine ⟨h1, h2, h3, ?_⟩
  rw [get_config_from_file env _ 0 _ _ h1 h2 h3]
  rfl

/-- Splitting at a separator that occurs gives at least two parts. -/
theorem length_splitOn_of_mem {xs : List Char} (h : '=' ∈ xs) : 2 ≤ (xs.splitOn '=').length := by
  induction xs with
  | nil => simp at h
  | cons x xs ih =>
    simp only [List.splitOn, List.splitOnP_cons] at ih ⊢
    by_cases hx : x = '='
    · have := List.length_pos.mpr (List.splitOnP_ne_nil (· == '=') xs)
      simp [hx]; omega
    · have hmem : '=' ∈ xs := (List.mem_cons.mp h).resolve_left (Ne.symm hx)
      simpa [hx] using ih hmem

/-- A `--config=` path that itself contains `=` makes `arg.split("=")` yield three or more
    parts, so `k, v = ...` raises `ValueError` before any file is opened. -/
theorem getConfig_path_with_equals (env : Env) (b : Broker) (fuel : Nat) {s : Server}
    {arg : String} (hc : s.configurable = true)
    (hf : env.argv.find? (startswith · configKey) = some arg) (hv : '=' ∈ arg.data.drop 9) :
    getConfig env b fuel s = (.raise (.value "too many values to unpack"), s, []) := by
  have hpre : startswith arg configKey = true := by simpa using List.find?_some hf
  have hlen := length_splitOn_of_mem hv
  rw [getConfig_file env b fuel hc hf]
  obtain ⟨p1, p2, ps, hps⟩ : ∃ p1 p2 ps, (arg.data.drop 9).splitOn '=' = p1 :: p2 :: ps := by
    match h : (arg.data.drop 9).splitOn '=', hlen with
    | p1 :: p2 :: ps, _ => exact ⟨p1, p2, ps, rfl⟩
  simp [configFromFile, Prog.bind_apply, Prog.bind, split_configArg hpre, hps, unpack2]

/-- `get_config` on the command line `server.py --config=a=b.cfg`: it raises `ValueError` and
    never opens `a=b.cfg`, whatever the file system holds. -/
theorem get_config_splits_path_at_equals (ev eu : String → String)
    (rf : String → Except Exn String) (pd : String → Except Exn Params) (b : Broker) (fuel : Nat) :
    getConfig ⟨["server.py", "--config=a=b.cfg"], ev, eu, rf, pd⟩ b fuel (Server.new "Server" "" (-1)) =
      (.raise (.value "too many values to unpack"), Server.new "Server" "" (-1), []) :=
  getConfig_path_with_equals _ b fuel rfl
    (show ["server.py", "--config=a=b.cfg"].find? (startswith · configKey) = some "--config=a=b.cfg"
      by decide)
    (show '=' ∈ "--config=a=b.cfg".data.drop 9 by decide)

/-! ### A cast that yields `None` -/

/-- When `FCMService@FCMAdapter` resolves to a proxy but the answer that ends the wait (the cast's
    first answer that is not a retryable failure, within the budget) is `None`, `_config_from_fcm`
    reports the FCM found and then raises `AttributeError` on `fcm.get`: `get` is never called and
    the server keeps its parameters. -/
theorem config_from_fcm_uses_none_proxy (b : Broker) (fuel : Nat) (s : Server) {p : String}
    {k : Nat} (hprx : b.stringToProxy fcmProxy = .ok (some p))
    (hpre : ∀ i < k, failsRetryably (b.checkedCast "IFCMServicePrx" i))
    (hk : b.checkedCast "IFCMServicePrx" k = .ok none) (hr : s.retries < 0 ∨ k ≤ s.retries)
    (hfuel : k < fuel) :
    configFromFcm b fuel s =
      (.raise (.attribute "get"), s, .call (.stringToProxy fcmProxy) ::
        retryTrace "FCM" (.checkedCast "IFCMServicePrx" p) 0 k ++
          [.call (.checkedCast "IFCMServicePrx" p), .log .info "Connected to FCM",
            .stderr "FCM found"]) := by
  have hwait := waitLoop_first_final "FCM" (.checkedCast "IFCMServicePrx" p) _ hpre
    (by rw [hk]; rfl) hr hfuel
  rw [hk] at hwait
  simp [configFromFcm, Prog.bind_apply, Prog.bind, hprx, hwait, Ends.ofExcept, finalEvents]

/-- A registry whose `FCMService@FCMAdapter` is an object that is not an FCM service: the first
    cast yields `None` and `_config_from_fcm` raises `AttributeError`. -/
theorem fcm_of_wrong_type_raises_attribute_error :
    let b : Broker := ⟨fun _ => .ok (), fun _ => .ok (some "fcm"), fun _ _ => .ok none,
      fun _ _ _ => .ok [], fun _ _ => .ok (), fun _ _ => .ok ()⟩
    b.stringToProxy fcmProxy = .ok (some "fcm") ∧ b.checkedCast "IFCMServicePrx" 0 = .ok none ∧
      configFromFcm b 1 (Server.new "Server" "" (-1)) =
        (.raise (.attribute "get"), Server.new "Server" "" (-1),
          [.call (.stringToProxy fcmProxy), .call (.checkedCast "IFCMServicePrx" "fcm"),
            .log .info "Connected to FCM", .stderr "FCM found"]) :=
  ⟨rfl, rfl, config_from_fcm_uses_none_proxy _ 1 _ rfl (fun _ h => absurd h (Nat.not_lt_zero _))
    rfl (.inl (by decide)) Nat.zero_lt_one⟩

end AskapIce

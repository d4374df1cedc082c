import Mathlib.Data.List.Basic

/-! Data model of `askap.iceutils.server` (the `Server` base class of the ASKAP Ice services) and
    of the Ice runtime it talks to.

    A run of the Python code is modelled by `Prog`: from the server's attributes it returns how the
    code ended (a value, a raised exception, or still looping when the fuel ran out), the new
    attributes, and the list of events it caused, in order. Every call into the Ice runtime is an
    `Event.call`; what the runtime answers is an oracle (`Broker`), so a theorem quantified over
    every `Broker` holds for every outcome sequence of the broker. -/

namespace AskapIce

/-! ### Exceptions -/

/-- The five Ice exceptions `wait_for_service` catches and retries on. -/
inductive IceError where
  | connectionRefused | noEndpoint | notRegistered | connectFailed | dns
  deriving DecidableEq, Repr

/-- Python exceptions the modelled code raises or lets through. -/
inductive Exn where
  /-- `Ice.ConnectionRefusedException`, `NoEndpointException`, ... -/
  | ice (e : IceError)
  /-- The module's own `TimeoutError`. -/
  | timeout (msg : String)
  | runtime (msg : String)
  /-- `AttributeError` on reading attribute `name`. -/
  | attribute (name : String)
  | value (msg : String)
  /-- `IOError` from `open(path)`. -/
  | io (path : String)
  | noSuchTopic (name : String)
  | topicExists (name : String)
  /-- Any other exception, by class name. -/
  | other (name : String)
  deriving DecidableEq, Repr

/-- The `except` clause of `wait_for_service`: only the five connectivity errors are retried. -/
def Exn.retryable : Exn → Bool
  | .ice _ => true
  | _ => false

/-- Configuration as `parset_to_dict` and `IFCMService.get` return it: dotted key to value. -/
abbrev Params := List (String × String)

/-! ### Events -/

/-- A servant registered under a name (`{'name': name, 'value': value}` of `add_service`);
    a servant is named by its class. -/
structure Service where
  name : String
  value : String
  deriving DecidableEq, Repr

/-- The object adapters of a process: the main one, the monitoring one, the subscriber one. -/
inductive Role where
  | main | monitoring | subscriber
  deriving DecidableEq, Repr

/-- Calls into the Ice runtime made by the modelled code. -/
inductive Call where
  | createObjectAdapter (r : Role) (name : String)
  | createObjectAdapterWithEndpoints (r : Role) (name endpoints : String)
  | stringToProxy (s : String)
  | checkedCast (iface proxy : String)
  /-- `adapter.add(d.value, comm.stringToIdentity(d.name))`. -/
  | add (r : Role) (d : Service)
  | addWithUUID (r : Role)
  | activate (r : Role)
  | fcmGet (version : Int) (key : String)
  | retrieve (topic : String)
  | create (topic : String)
  | subscribeAndGetPublisher (topic : String) (filter : Params)
  | waitForShutdown
  deriving DecidableEq, Repr

/-- Methods whose entry and return are recorded in a trace. -/
inductive Method where
  | getConfig | initializeServices
  deriving DecidableEq, Repr

inductive Level where
  | debug | info | warn | error
  deriving DecidableEq, Repr

/-- What a run of the modelled code does, one event at a time. -/
inductive Event where
  | call (c : Call)
  | enter (m : Method)
  | leave (m : Method)
  | openFile (path : String)
  | sleep (secs : Nat)
  /-- A line printed with `print >> sys.stderr`. -/
  | stderr (text : String)
  | log (level : Level) (text : String)
  /-- `logger.error(msg + str(ex))`. -/
  | logError (msg : String) (ex : Exn)
  deriving DecidableEq, Repr

/-! ### The server object -/

/-- An object adapter as the process sees it: its name, what was added to it, whether it is
    active. -/
structure Adapter where
  name : String
  servants : List Service
  active : Bool
  deriving DecidableEq, Repr

/-- The attributes of a `Server` instance that the modelled methods read or write. -/
structure Server where
  /-- `self.__class__.__name__` -/
  className : String
  parameters : Option Params
  adapter : Option Adapter
  monAdapter : Option Adapter
  services : List Service
  retries : Int
  serviceKey : String
  monitoring : Bool
  configurable : Bool
  deriving DecidableEq, Repr

/-- `Server.__init__(self, comm, fcmkey, retries)` for an instance of class `className`. -/
def Server.new (className fcmkey : String) (retries : Int) : Server where
  className := className
  parameters := none
  adapter := none
  monAdapter := none
  services := []
  retries := retries
  serviceKey := fcmkey
  monitoring := false
  configurable := true

/-- What the Ice runtime answers. Each call is keyed by what identifies it in one run of
    `setup_services`; `activate r n` answers the `n`-th activation attempt of adapter `r`. -/
structure Broker where
  createObjectAdapter : Role → Except Exn Unit
  stringToProxy : String → Except Exn (Option String)
  checkedCast : String → Nat → Except Exn (Option String)
  fcmGet : String → Int → String → Except Exn Params
  add : Role → Nat → Except Exn Unit
  activate : Role → Nat → Except Exn Unit

/-! ### Programs -/

/-- How a run of modelled code ends: a value, a raised exception, or still looping when the
    fuel ran out. -/
inductive Ends (α : Type) where
  | ok (a : α)
  | raise (e : Exn)
  | pending
  deriving DecidableEq, Repr

/-- A piece of the server's code: how it ended, the server's new attributes, the events. -/
def Prog (α : Type) : Type := Server → Ends α × Server × List Event

namespace Prog

variable {α β : Type}

protected def pure (a : α) : Prog α := fun s => (.ok a, s, [])

/-- Run `p`, then `f` on its value; an exception or a pending loop stops the run. -/
protected def bind (p : Prog α) (f : α → Prog β) : Prog β := fun s =>
  match p s with
  | (.ok a, s', es) => let r := f a s'; (r.1, r.2.1, es ++ r.2.2)
  | (.raise e, s', es) => (.raise e, s', es)
  | (.pending, s', es) => (.pending, s', es)

instance : Monad Prog where
  pure := Prog.pure
  bind := Prog.bind

/-- Record one event. -/
def emit (e : Event) : Prog Unit := fun s => (.ok (), s, [e])

def read : Prog Server := fun s => (.ok s, s, [])

def update (f : Server → Server) : Prog Unit := fun s => (.ok (), f s, [])

def throw (e : Exn) : Prog α := fun s => (.raise e, s, [])

/-- A call into the runtime: record it, then return its answer or raise its exception. -/
def invoke (c : Call) (o : Except Exn α) : Prog α := fun s =>
  match o with
  | .ok a => (.ok a, s, [.call c])
  | .error e => (.raise e, s, [.call c])

@[simp] theorem pure_apply (a : α) (s : Server) : (pure a : Prog α) s = (.ok a, s, []) := rfl

theorem bind_apply (p : Prog α) (f : α → Prog β) (s : Server) :
    (p >>= f) s = Prog.bind p f s := rfl

@[simp] theorem bind_ok {p : Prog α} {s s' : Server} {a : α} {es : List Event}
    (h : p s = (.ok a, s', es)) (f : α → Prog β) :
    (p >>= f) s = ((f a s').1, (f a s').2.1, es ++ (f a s').2.2) := by
  simp only [bind_apply, Prog.bind, h]

@[simp] theorem bind_raise {p : Prog α} {s s' : Server} {e : Exn} {es : List Event}
    (h : p s = (.raise e, s', es)) (f : α → Prog β) : (p >>= f) s = (.raise e, s', es) := by
  simp only [bind_apply, Prog.bind, h]

@[simp] theorem bind_pending {p : Prog α} {s s' : Server} {es : List Event}
    (h : p s = (.pending, s', es)) (f : α → Prog β) : (p >>= f) s = (.pending, s', es) := by
  simp only [bind_apply, Prog.bind, h]

theorem bind_assoc {γ : Type} (p : Prog α) (f : α → Prog β) (g : β → Prog γ) :
    (p >>= f) >>= g = p >>= fun a => f a >>= g := by
  funext s
  simp only [bind_apply, Prog.bind]
  rcases p s with ⟨a | _ | _, s1, t1⟩
  · rcases h : f a s1 with ⟨_ | _ | _, s2, t2⟩ <;> simp only [h, List.append_assoc]
  all_goals rfl

/-- A program that does not return passes its outcome through `>>=`. -/
theorem bind_of_not_ok {p : Prog α} {s : Server} (h : ∀ a, (p s).1 ≠ .ok a) (f : α → Prog α) :
    (p >>= f) s = p s := by
  rcases hp : p s with ⟨_ | _ | _, s1, t1⟩
  · exact absurd (by rw [hp]) (h _)
  · exact bind_raise hp f
  · exact bind_pending hp f

/-- A program that returned through `>>=` returned from its first part. -/
theorem bind_returned {p : Prog α} {f : α → Prog β} {s : Server} {b : β}
    (h : ((p >>= f) s).1 = .ok b) : ∃ a s1 t1, p s = (.ok a, s1, t1) ∧
      (p >>= f) s = ((f a s1).1, (f a s1).2.1, t1 ++ (f a s1).2.2) := by
  rcases hp : p s with ⟨a | _ | _, s1, t1⟩
  · exact ⟨a, s1, t1, rfl, bind_ok hp f⟩
  · rw [bind_raise hp] at h; cases h
  · rw [bind_pending hp] at h; cases h

/-- What a program reads is the server it runs from. -/
@[simp] theorem read_bind_apply (f : Server → Prog β) (s : Server) : (read >>= f) s = f s s := rfl

@[simp] theorem emit_apply (e : Event) (s : Server) : emit e s = (.ok (), s, [e]) := rfl
@[simp] theorem read_apply (s : Server) : read s = (.ok s, s, []) := rfl
@[simp] theorem update_apply (f : Server → Server) (s : Server) :
    update f s = (.ok (), f s, []) := rfl
@[simp] theorem throw_apply (e : Exn) (s : Server) : (throw e : Prog α) s = (.raise e, s, []) :=
  rfl
@[simp] theorem invoke_ok (c : Call) (a : α) (s : Server) :
    invoke c (.ok a) s = (.ok a, s, [.call c]) := rfl
@[simp] theorem invoke_error (c : Call) (e : Exn) (s : Server) :
    (invoke c (.error e) : Prog α) s = (.raise e, s, [.call c]) := rfl

/-! ### What a program can record -/

/-- Every event `p` records, from every server, satisfies `P`. -/
def Within (P : Event → Bool) (p : Prog α) : Prop := ∀ s, ∀ e ∈ (p s).2.2, P e = true

section Within

variable {P : Event → Bool}

theorem Within.bind {p : Prog α} {f : α → Prog β} (hp : Within P p) (hf : ∀ a, Within P (f a)) :
    Within P (p >>= f) := by
  intro s e he
  rcases h : p s with ⟨_ | _ | _, s', es⟩
  all_goals simp only [bind_apply, Prog.bind, h, List.mem_append] at he
  · rcases he with he | he
    · exact hp s e (by rw [h]; exact he)
    · exact hf _ s' e he
  all_goals exact hp s e (by rw [h]; exact he)

theorem Within.pure (a : α) : Within P (Pure.pure a : Prog α) := fun _ _ he => by simp at he
theorem Within.read : Within P read := fun _ _ he => by simp at he
theorem Within.update (f : Server → Server) : Within P (update f) := fun _ _ he => by simp at he
theorem Within.throw (ex : Exn) : Within P (throw ex : Prog α) := fun _ _ he => by simp at he
theorem Within.emit {e : Event} (h : P e = true) : Within P (emit e) := fun _ _ he => by
  simp only [emit_apply, List.mem_singleton] at he; exact he ▸ h
theorem Within.invoke {c : Call} (o : Except Exn α) (h : P (.call c) = true) :
    Within P (invoke c o) := fun _ _ he => by
  cases o <;> simp only [invoke_ok, invoke_error, List.mem_singleton] at he <;> exact he ▸ h

/-- An event `p` never records, found in the trace of `p >>= f`, comes from `f`: `p` returned. -/
theorem Within.bind_returned {p : Prog α} {f : α → Prog β} {s : Server} {e : Event}
    (hp : Within P p) (he : P e = false) (hmem : e ∈ ((p >>= f) s).2.2) :
    ∃ a s1 t1, p s = (.ok a, s1, t1) ∧
      (p >>= f) s = ((f a s1).1, (f a s1).2.1, t1 ++ (f a s1).2.2) := by
  rcases h : p s with ⟨_ | _ | _, s1, t1⟩
  · exact ⟨_, s1, t1, rfl, bind_ok h f⟩
  all_goals
    first | rw [bind_raise h] at hmem | rw [bind_pending h] at hmem
    have := hp s e (by rw [h]; exact hmem)
    simp_all

/-- Peel the first step off a run that records `e`, when that step never does. -/
theorem Within.bind_step {p : Prog α} {f : α → Prog β} {s : Server} {e : Event}
    (hp : Within (· != e) p) (hmem : e ∈ ((p >>= f) s).2.2) :
    ∃ a s1 t1, p s = (.ok a, s1, t1) ∧ e ∉ t1 ∧ e ∈ (f a s1).2.2 ∧
      (p >>= f) s = ((f a s1).1, (f a s1).2.1, t1 ++ (f a s1).2.2) := by
  obtain ⟨a, s1, t1, h, hrun⟩ := hp.bind_returned (by simp) hmem
  have ht1 : e ∉ t1 := fun he => by simpa using hp s e (by rw [h]; exact he)
  rw [hrun] at hmem
  exact ⟨a, s1, t1, h, ht1, (List.mem_append.mp hmem).resolve_left ht1, hrun⟩

/-- An event the continuation never records comes from the first step. -/
theorem Within.mem_of_bind {p : Prog α} {f : α → Prog β} {s : Server} {e : Event}
    (hf : ∀ a, Within (· != e) (f a)) (hmem : e ∈ ((p >>= f) s).2.2) : e ∈ (p s).2.2 := by
  rcases hp : p s with ⟨a | _ | _, s1, t1⟩ <;> simp only [bind_apply, Prog.bind, hp] at hmem
  · exact (List.mem_append.mp hmem).resolve_right fun he => by simpa using hf a s1 e he
  all_goals exact hmem

theorem Within.mono {Q : Event → Bool} {p : Prog α} (hp : Within P p)
    (h : ∀ e, P e = true → Q e = true) : Within Q p := fun s e he => h e (hp s e he)

end Within

/-! ### What a program leaves alone -/

/-- `p` leaves the attribute `f` of the server as it found it. -/
def Keeps {γ : Type} (f : Server → γ) (p : Prog α) : Prop := ∀ s, f (p s).2.1 = f s

section Keeps

variable {γ : Type} {f : Server → γ}

theorem Keeps.bind {p : Prog α} {g : α → Prog β} (hp : Keeps f p) (hg : ∀ a, Keeps f (g a)) :
    Keeps f (p >>= g) := by
  intro s
  rcases h : p s with ⟨_ | _ | _, s1, t1⟩
  · rw [bind_ok h, hg _ s1, ← hp s, h]
  · rw [bind_raise h, ← hp s, h]
  · rw [bind_pending h, ← hp s, h]

theorem Keeps.pure (a : α) : Keeps f (Pure.pure a : Prog α) := fun _ => rfl
theorem Keeps.read : Keeps f read := fun _ => rfl
theorem Keeps.emit (e : Event) : Keeps f (emit e) := fun _ => rfl
theorem Keeps.throw (ex : Exn) : Keeps f (throw ex : Prog α) := fun _ => rfl
theorem Keeps.invoke (c : Call) (o : Except Exn α) : Keeps f (invoke c o) := by
  intro s; cases o <;> rfl
theorem Keeps.update {g : Server → Server} (h : ∀ s, f (g s) = f s) : Keeps f (update g) := h

end Keeps

/-! ### Pre- and postconditions -/

/-- From a server satisfying `P`, `p` returns in a server satisfying `Q`, and stops (raises or
    runs out of fuel) in one satisfying `R`. -/
structure Triple (P : Server → Prop) (p : Prog α) (Q R : Server → Prop) : Prop where
  returns : ∀ s a, P s → (p s).1 = .ok a → Q (p s).2.1
  stops : ∀ s, P s → (∀ a, (p s).1 ≠ .ok a) → R (p s).2.1

section Triple

variable {P Q Q' R : Server → Prop}

theorem Triple.bind {p : Prog α} {f : α → Prog β} (hp : Triple P p Q R)
    (hf : ∀ a, Triple Q (f a) Q' R) : Triple P (p >>= f) Q' R := by
  constructor
  · intro s b hs hb
    rcases h : p s with ⟨_ | _ | _, s1, t1⟩
    · have hq := hp.returns s _ hs (by rw [h]); rw [h] at hq
      rw [bind_ok h] at hb ⊢; exact (hf _).returns s1 b hq hb
    · rw [bind_raise h] at hb; cases hb
    · rw [bind_pending h] at hb; cases hb
  · intro s hs hn
    rcases h : p s with ⟨_ | _ | _, s1, t1⟩
    · have hq := hp.returns s _ hs (by rw [h]); rw [h] at hq
      rw [bind_ok h] at hn ⊢; exact (hf _).stops s1 hq hn
    all_goals
      first | rw [bind_raise h] | rw [bind_pending h]
      have := hp.stops s hs (by rw [h]; simp)
      rwa [h] at this

theorem Triple.read : Triple P read P R :=
  ⟨fun _ _ hs _ => hs, fun s _ hn => absurd rfl (hn s)⟩

/-- A program that leaves `g` alone carries every condition on `g` through. -/
theorem Triple.frame {γ : Type} {g : Server → γ} {p : Prog α} (hk : Keeps g p)
    (hQ : ∀ s s', g s' = g s → P s → Q s') (hR : ∀ s s', g s' = g s → P s → R s') :
    Triple P p Q R :=
  ⟨fun s _ hs _ => hQ s _ (hk s) hs, fun s hs _ => hR s _ (hk s) hs⟩

end Triple

end Prog

/-- Printing, logging and sleeping: what the code does besides calling the runtime. -/
def Event.quiet : Event → Bool
  | .sleep _ | .stderr _ | .log _ _ | .logError _ _ => true
  | _ => false

/-- Two events that a predicate on events tells apart are different. -/
theorem Event.bne_of_pred {Q : Event → Bool} {e e' : Event} (h : Q e = true) (h' : Q e' = false) :
    (e != e') = true :=
  bne_iff_ne.mpr fun heq => by simp_all

end AskapIce

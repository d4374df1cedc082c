import AskapIce.Binding

/-! The life of one `Server` instance: construction, then `add_service`, `set_retries`,
    `setup_services` and `run` in any order and any number of times, each run meeting any
    environment, hook, broker and fuel (`Reachable`).

    `add_service` only appends to `_services`; it neither binds nor refuses. So the services bound
    into the main adapter are always a prefix of the recorded ones (`bound_services_prefix`), all of
    them right after a `setup_services` that returned, and a service recorded after that is left
    unbound in the active adapter. The invariant goes through runs that stop part-way, so it is
    proved with `Prog.Triple`: `setup_services` first makes a fresh main adapter (or stops leaving
    the server as it was), then binds the recorded services in order. -/

namespace AskapIce

/-- `Server.set_retries(retries)`. -/
def setRetries (r : Int) (s : Server) : Server := { s with retries := r }

/-- Servers reachable from construction through the public methods. -/
inductive Reachable : Server → Prop
  | new (className fcmkey : String) (retries : Int) (monitoring configurable : Bool) :
      Reachable { Server.new className fcmkey retries with
        monitoring := monitoring, configurable := configurable }
  | addService {s : Server} (d : Service) : Reachable s → Reachable (addService d s)
  | setRetries {s : Server} (r : Int) : Reachable s → Reachable (setRetries r s)
  | setupServices {s : Server} (env : Env) (b : Broker) (hook : Hook) (fuel : Nat) :
      Reachable s → Reachable (setupServices env b hook fuel s).2.1
  | run {s : Server} (env : Env) (b : Broker) (hook : Hook) (fuel : Nat) :
      Reachable s → Reachable (run env b hook fuel s).2.1

/-- The services added to the main adapter, once it exists. -/
def boundServants (s : Server) : Option (List Service) := s.adapter.map Adapter.servants

/-- Every service bound into the main adapter was recorded, in the same order. -/
def BoundPrefix (s : Server) : Prop := ∀ xs, boundServants s = some xs → xs <+: s.services

/-- The main adapter and the recorded services: what the invariant reads. -/
def mainSide (s : Server) : Option Adapter × List Service := (s.adapter, s.services)

theorem boundPrefix_of_fresh {s : Server} (h : boundServants s = some []) : BoundPrefix s :=
  fun xs hx => by rw [h] at hx; cases hx; exact List.nil_prefix

theorem boundPrefix_of_all {s : Server} (h : boundServants s = some s.services) :
    BoundPrefix s :=
  fun xs hx => by rw [h] at hx; cases hx; exact List.prefix_refl _

/-! ### Steps that leave the main side alone -/

/-- How the binding loop changes what is bound: it appends the first `m` services of `ds`, all
    of them when it returns. -/
theorem bindServices_bound (b : Broker) : ∀ (ds : List Service) (i : Nat) (s : Server),
    ∃ m ≤ ds.length, boundServants (bindServices b i ds s).2.1 =
      (boundServants s).map (· ++ ds.take m) ∧
      ((bindServices b i ds s).1 = .ok () → m = ds.length)
  | [], _, s => ⟨0, le_rfl, by simp [bindServices], fun _ => rfl⟩
  | d :: ds, i, s => by
    cases h : b.add .main i with
    | error e =>
      refine ⟨0, Nat.zero_le _, ?_, fun hok => ?_⟩
      · simp [bindServices, Prog.bind_raise (addServant_error b d h s)]
      · simp [bindServices, Prog.bind_raise (addServant_error b d h s)] at hok
    | ok =>
      obtain ⟨m, hm, hb, hlen⟩ := bindServices_bound b ds (i + 1)
        (s.withAdapter .main (Option.map fun a => { a with servants := a.servants ++ [d] }))
      refine ⟨m + 1, by simpa using hm, ?_, fun hok => ?_⟩
      · simp only [bindServices, Prog.bind_ok (addServant_ok b d h s), hb]
        cases ha : s.adapter <;> simp [boundServants, Server.withAdapter, ha]
      · simp only [bindServices, Prog.bind_ok (addServant_ok b d h s)] at hok
        simp [hlen hok]

/-- Activating the main adapter changes neither what is bound nor what is recorded. -/
theorem activateAdapter_keeps_bound (b : Broker) (fuel : Nat) :
    Prog.Keeps (fun s => (boundServants s, s.services)) (activateAdapter b .main fuel) :=
  (waitForService_keeps _ _ _ _ _).bind fun _ => Prog.Keeps.update fun s => by
    cases ha : s.adapter <;> simp [boundServants, Server.withAdapter, ha]

/-! ### `setup_services` keeps the bound services a prefix of the recorded ones -/

/-- The main adapter exists and nothing is bound to it yet. -/
def FreshMain (s : Server) : Prop := boundServants s = some []

/-- Every recorded service is bound, in order. -/
def AllBound (s : Server) : Prop := boundServants s = some s.services

theorem freshMain_of_adapter {s s' : Server} (h : s'.adapter = s.adapter) (hs : FreshMain s) :
    FreshMain s' := by
  rwa [FreshMain, boundServants, h]

section Triples

variable (env : Env) (b : Broker) (fuel : Nat)

theorem createAdapter_main_triple (name : String) :
    Prog.Triple BoundPrefix (createAdapter b .main name) FreshMain BoundPrefix := by
  constructor <;> intro s <;> cases hc : b.createObjectAdapter .main <;>
    simp_all [createAdapter, Prog.bind_apply, Prog.bind, FreshMain, boundServants,
      Server.withAdapter]

/-- The binding loop over the recorded list `ds`, from a fresh main adapter, binds a prefix of
    `ds`, and all of it when it returns. -/
theorem bindServices_triple (ds : List Service) :
    Prog.Triple (fun s => FreshMain s ∧ s.services = ds) (bindServices b 0 ds) AllBound
      BoundPrefix := by
  constructor
  · intro s a ⟨hf, hds⟩ hok
    obtain ⟨m, -, hm, hlen⟩ := bindServices_bound b ds 0 s
    rw [AllBound, hm, hf, bindServices_keeps b Server.services (fun _ _ => rfl), hds,
      hlen (by cases a; exact hok)]
    simp
  · intro s ⟨hf, hds⟩ _
    obtain ⟨m, -, hm, -⟩ := bindServices_bound b ds 0 s
    intro xs hxs
    rw [hm, hf] at hxs
    cases hxs
    rw [bindServices_keeps b Server.services (fun _ _ => rfl), hds]
    exact List.take_prefix m ds

theorem bindAndActivate_triple :
    Prog.Triple FreshMain (bindAndActivate b fuel) AllBound BoundPrefix := by
  have hact : Prog.Triple AllBound (activateAdapter b .main fuel) AllBound BoundPrefix :=
    Prog.Triple.frame (activateAdapter_keeps_bound b fuel)
      (fun _ _ h hs => by simp only [Prod.mk.injEq] at h; rw [AllBound, h.1, h.2]; exact hs)
      (fun _ _ h hs => boundPrefix_of_all (by
        simp only [Prod.mk.injEq] at h; rw [h.1, h.2]; exact hs))
  exact ⟨fun s a hs h => ((bindServices_triple b s.services).bind fun _ => hact).returns s a
      ⟨hs, rfl⟩ h,
    fun s hs hn => ((bindServices_triple b s.services).bind fun _ => hact).stops s ⟨hs, rfl⟩ hn⟩

theorem setupBeforeHook_triple :
    Prog.Triple BoundPrefix (setupBeforeHook env b fuel) FreshMain BoundPrefix := by
  have hframe : ∀ {p : Prog Unit}, Prog.Keeps mainSide p →
      Prog.Triple FreshMain p FreshMain BoundPrefix := fun hk =>
    Prog.Triple.frame hk (fun s s' h hs => freshMain_of_adapter (congrArg Prod.fst h) hs)
      (fun s s' h hs => boundPrefix_of_fresh (freshMain_of_adapter (congrArg Prod.fst h) hs))
  exact Prog.Triple.read.bind fun s => (createAdapter_main_triple b _).bind fun _ =>
    (hframe (method_keeps (getConfig_keeps env b fuel fun _ _ => rfl))).bind fun _ =>
    Prog.Triple.read.bind fun s' => hframe (setupMonitoring_keeps b fuel mainSide (fun _ _ => rfl) s')

/-- From a server whose bound services are a prefix of its recorded ones, `setup_services`
    leaves one where they still are, and binds all of them when it returns. -/
theorem setupServices_triple (hook : Hook) :
    Prog.Triple BoundPrefix (setupServices env b hook fuel) AllBound BoundPrefix :=
  (setupBeforeHook_triple env b fuel).bind fun _ =>
    (Prog.Triple.frame (method_keeps (fun _ => rfl : Prog.Keeps Server.adapter
      (initializeServices hook)))
      (fun _ _ h hs => freshMain_of_adapter h hs)
      (fun _ _ h hs => boundPrefix_of_fresh (freshMain_of_adapter h hs))).bind fun _ =>
    bindAndActivate_triple b fuel

theorem run_triple (hook : Hook) :
    Prog.Triple BoundPrefix (run env b hook fuel) AllBound BoundPrefix :=
  (setupServices_triple env b fuel hook).bind fun _ =>
    Prog.Triple.frame (Prog.Keeps.invoke _ _ : Prog.Keeps (fun s : Server => s) _)
      (fun _ _ h hs => by rw [h]; exact hs) (fun _ _ h hs => by rw [h]; exact boundPrefix_of_all hs)

end Triples

/-- A program that binds everything when it returns, and keeps the prefix when it stops, keeps
    the prefix in every run. -/
theorem Prog.Triple.keeps_boundPrefix {p : Prog Unit}
    (ht : Prog.Triple BoundPrefix p AllBound BoundPrefix) {s : Server} (hs : BoundPrefix s) :
    BoundPrefix (p s).2.1 := by
  by_cases hok : (p s).1 = .ok ()
  · exact boundPrefix_of_all (ht.returns _ () hs hok)
  · exact ht.stops _ hs fun a h => hok (by cases a; exact h)

/-- `add_service` records a service and binds nothing. In every server reachable from
    construction, the services bound into the main adapter are a prefix of the recorded ones, and
    right after a `setup_services` that returned they are all of them; so a service recorded after
    that is left unbound in the adapter, and no error is raised. -/
theorem bound_services_prefix :
    (∀ s, Reachable s → BoundPrefix s) ∧
    (∀ env b hook fuel s, Reachable s → (setupServices env b hook fuel s).1 = .ok () →
      AllBound (setupServices env b hook fuel s).2.1) ∧
    (∀ d s, (addService d s).adapter = s.adapter ∧ (addService d s).services = s.services ++ [d]) := by
  have hreach : ∀ s, Reachable s → BoundPrefix s := by
    intro s hs
    induction hs with
    | new => intro xs h; simp [boundServants, Server.new] at h
    | addService d _ ih =>
      exact fun xs h => (ih xs h).trans (List.prefix_append _ _)
    | setRetries r _ ih => exact ih
    | setupServices env b hook fuel _ ih =>
      exact (setupServices_triple env b fuel hook).keeps_boundPrefix ih
    | run env b hook fuel _ ih => exact (run_triple env b fuel hook).keeps_boundPrefix ih
  exact ⟨hreach, fun env b hook fuel s hs hok =>
    (setupServices_triple env b fuel hook).returns s () (hreach s hs) hok, fun _ _ => ⟨rfl, rfl⟩⟩

/-- A `TestServer` whose `setup_services` returned (every call answered, no service), then one
    `add_service`: the service is recorded, the active main adapter holds nothing, and nothing was
    raised. -/
theorem add_service_after_setup_left_unbound :
    let w := setupServices ⟨[], id, id, fun _ => .ok "", fun _ => .ok []⟩ Broker.answering
      ⟨fun _ => (.ok (), [], []), fun _ _ h => by simp at h⟩ 1
      { Server.new "TestServer" "" (-1) with monitoring := false, configurable := false }
    let s := addService ⟨"Late", "LateImpl"⟩ w.2.1
    w.1 = .ok () ∧ Reachable s ∧ s.services = [⟨"Late", "LateImpl"⟩] ∧
      s.adapter = some ⟨"TestServerAdapter", [], true⟩ :=
  ⟨by decide, .addService _ (.setupServices _ _ _ _ (.new _ _ _ _ _)), by decide, by decide⟩

end AskapIce

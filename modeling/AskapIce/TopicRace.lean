import AskapIce.Ingest

/-! Several `IngestManager` processes racing through the get-or-create block of
    `initialize_services` on one IceStorm topic manager.

    `Goc` is the block as a machine: each state is waiting for the answer of one call, and
    `Goc.react` is what the code does with that answer (`getOrCreate_refines_react` ties it to
    `getOrCreate`). The topic manager is an atomic store of named topics, in which nothing is ever
    destroyed: `retrieve` answers the topic or `NoSuchTopic`, `create` makes a fresh topic or
    answers `TopicExists`. `Starters` holds the store, the place of every process and, as a record
    kept by the model only, every `create` that succeeded; a schedule is any list of process
    numbers, each making one call. `Starters.Agree` is the invariant every schedule keeps: at most
    one `create` has succeeded and only if the topic did not exist, every process that holds a
    topic holds the one in the store, and a process about to `retrieve` after `TopicExists` will
    find it. `get_or_create_agree` draws the consequences for every schedule, and every process
    is done after three of its own calls. -/

namespace AskapIce

/-- Where one process is in the get-or-create block. -/
inductive Goc where
  /-- waiting for `manager.retrieve(topicname)` -/
  | retrieving
  /-- in `except IceStorm.NoSuchTopic:`, waiting for `manager.create(topicname)` -/
  | creating
  /-- in `except IceStorm.TopicExists:`, waiting for `manager.retrieve(topicname)` -/
  | retrievingAgain
  | holds (topic : Nat)
  | raised (e : Exn)
  deriving DecidableEq, Repr

/-- What the block does once its pending call answered `a`. -/
def Goc.react : Goc → Except Exn Nat → Goc
  | .retrieving, .ok t | .creating, .ok t | .retrievingAgain, .ok t => .holds t
  | .retrieving, .error (.noSuchTopic _) => .creating
  | .creating, .error (.topicExists _) => .retrievingAgain
  | .retrieving, .error e | .creating, .error e | .retrievingAgain, .error e => .raised e
  | q, _ => q

/-- How the block has ended so far. -/
def Goc.ends : Goc → Ends Nat
  | .holds t => .ok t
  | .raised e => .raise e
  | _ => .pending

/-- The answer one process's topic manager gives at each place of the block. -/
def Goc.answer (tm : TopicManager) : Goc → Except Exn Nat
  | .retrieving => tm.retrieve 0
  | .creating => tm.create
  | .retrievingAgain => tm.retrieve 1
  | _ => .ok 0

/-- The nested `try` blocks of `getOrCreate` end where three reactions to the topic manager's
    answers do. -/
theorem getOrCreate_refines_react (tm : TopicManager) (name : String) (s : Server) :
    (getOrCreate tm name s).1 =
      ((fun q : Goc => q.react (q.answer tm))^[3] .retrieving).ends := by
  simp only [getOrCreate, Goc.answer, Function.iterate_succ, Function.iterate_zero,
    Function.comp_apply, id_eq]
  -- each answer either ends the block or moves it to the next call
  cases tm.retrieve 0 with
  | ok t0 => rfl
  | error e0 =>
    cases e0 <;> try rfl
    cases tm.create with
    | ok t1 => rfl
    | error e1 =>
      cases e1 <;> try rfl
      cases tm.retrieve 1 <;> rfl

/-! ### The topic manager as an atomic store -/

/-- IceStorm's topics by name, and the number the next created topic gets. -/
structure TopicStore where
  topics : String → Option Nat
  next : Nat

/-- `manager.retrieve(name)`. -/
def TopicStore.retrieve (st : TopicStore) (name : String) : Except Exn Nat :=
  match st.topics name with
  | some t => .ok t
  | none => .error (.noSuchTopic name)

/-- `manager.create(name)`: the answer, and the store after it. -/
def TopicStore.create (st : TopicStore) (name : String) : Except Exn Nat × TopicStore :=
  match st.topics name with
  | some _ => (.error (.topicExists name), st)
  | none => (.ok st.next, ⟨Function.update st.topics name (some st.next), st.next + 1⟩)

/-- The store, where every process is, and every `create` that succeeded with the process that
    made it. -/
structure Starters where
  store : TopicStore
  procs : Nat → Goc
  wins : List (Nat × Nat)

/-- Every process at the start of the block, before any `create`. -/
def Starters.init (st : TopicStore) : Starters := ⟨st, fun _ => .retrieving, []⟩

/-- Process `i` makes its pending call on topic `name`, atomically, and reacts to the answer. A
    process that is done stays as it is. -/
def Starters.exec (name : String) (sys : Starters) (i : Nat) : Starters :=
  match sys.procs i with
  | .retrieving | .retrievingAgain =>
    { sys with procs := Function.update sys.procs i ((sys.procs i).react (sys.store.retrieve name)) }
  | .creating =>
    match sys.store.create name with
    | (.ok t, st) => ⟨st, Function.update sys.procs i (.holds t), sys.wins ++ [(i, t)]⟩
    | (.error e, st) => ⟨st, Function.update sys.procs i (Goc.creating.react (.error e)), sys.wins⟩
  | .holds _ | .raised _ => sys

/-- A schedule: each entry is one call of that process. -/
def Starters.run (name : String) (sys : Starters) (sched : List Nat) : Starters :=
  sched.foldl (Starters.exec name) sys

/-! ### What every schedule keeps -/

/-- The invariant of the race on `name`, from a store in which `name` was `t0`. -/
structure Starters.Agree (name : String) (t0 : Option Nat) (sys : Starters) : Prop where
  store : (sys.wins = [] ∧ sys.store.topics name = t0) ∨
    (t0 = none ∧ ∃ j t, sys.wins = [(j, t)] ∧ sys.store.topics name = some t)
  holds : ∀ i t, sys.procs i = .holds t → sys.store.topics name = some t
  again : ∀ i, sys.procs i = .retrievingAgain → sys.store.topics name ≠ none
  noRaise : ∀ i e, sys.procs i ≠ .raised e

theorem Starters.agree_init (st : TopicStore) (name : String) :
    (Starters.init st).Agree name (st.topics name) :=
  ⟨.inl ⟨rfl, rfl⟩, fun _ _ h => (nomatch h), fun _ h => (nomatch h), fun _ _ h => (nomatch h)⟩

/-- Steps left to the process, at most. -/
def Goc.left : Goc → Nat
  | .retrieving => 3
  | .creating => 2
  | .retrievingAgain => 1
  | .holds _ | .raised _ => 0

/-- A process with no step left that has not raised holds a topic. -/
theorem Goc.holds_of_left_eq_zero {q : Goc} (h : q.left = 0) (hr : ∀ e, q ≠ .raised e) :
    ∃ t, q = .holds t := by
  cases q with
  | holds t => exact ⟨t, rfl⟩
  | raised e => exact absurd rfl (hr e)
  | _ => simp [Goc.left] at h

theorem Starters.exec_other {name : String} {sys : Starters} {i j : Nat} (h : i ≠ j) :
    (sys.exec name j).procs i = sys.procs i := by
  unfold Starters.exec
  split
  all_goals first
    | rfl
    | (split <;> simp [Function.update_noteq h])
    | simp [Function.update_noteq h]

section Step

variable {name : String} {t0 : Option Nat} {sys : Starters}

/-- Moving process `i` to a place that agrees with the store, the store left alone, keeps the
    invariant. -/
theorem Starters.Agree.update (ha : sys.Agree name t0) (i : Nat) {q : Goc}
    (hq : ∀ t, q = .holds t → sys.store.topics name = some t)
    (hq' : q = .retrievingAgain → sys.store.topics name ≠ none) (hr : ∀ e, q ≠ .raised e) :
    { sys with procs := Function.update sys.procs i q }.Agree name t0 := by
  refine ⟨ha.store, fun j t h => ?_, fun j h => ?_, fun j e h => ?_⟩ <;> by_cases hj : j = i
  · subst hj; simp at h; exact hq t h
  · simp only [Function.update_noteq hj] at h; exact ha.holds j t h
  · subst hj; simp at h; exact hq' h
  · simp only [Function.update_noteq hj] at h; exact ha.again j h
  · subst hj; simp at h; exact hr e h
  · simp only [Function.update_noteq hj] at h; exact ha.noRaise j e h

variable (ha : sys.Agree name t0) (i : Nat)

include ha

/-- One call by process `i` keeps the invariant, and brings it one step nearer to holding the
    topic. -/
theorem Starters.Agree.exec :
    (sys.exec name i).Agree name t0 ∧
      ((sys.exec name i).procs i).left ≤ (sys.procs i).left - 1 := by
  rcases hp : sys.procs i with _ | _ | _ | t | e
  case retrieving =>
    cases hs : sys.store.topics name with
    | none =>
      have hx : sys.exec name i = { sys with procs := Function.update sys.procs i .creating } := by
        simp [Starters.exec, hp, TopicStore.retrieve, hs, Goc.react]
      rw [hx]
      exact ⟨ha.update i (fun _ h => (nomatch h)) (fun h => (nomatch h)) fun _ h => (nomatch h),
        by simp [Goc.left]⟩
    | some t =>
      have hx : sys.exec name i = { sys with procs := Function.update sys.procs i (.holds t) } := by
        simp [Starters.exec, hp, TopicStore.retrieve, hs, Goc.react]
      rw [hx]
      exact ⟨ha.update i (fun _ h => Goc.holds.inj h ▸ hs) (fun h => (nomatch h))
        fun _ h => (nomatch h), by simp [Goc.left]⟩
  case creating =>
    cases hs : sys.store.topics name with
    | none =>
      let won : Starters := ⟨⟨Function.update sys.store.topics name (some sys.store.next),
        sys.store.next + 1⟩, sys.procs, sys.wins ++ [(i, sys.store.next)]⟩
      have hx : sys.exec name i =
          { won with procs := Function.update sys.procs i (.holds sys.store.next) } := by
        simp [Starters.exec, hp, TopicStore.create, hs, won]
      -- the store gets the topic while no process holds one or is about to retrieve it again
      have hw : won.Agree name t0 := by
        refine ⟨?_, fun j t h => by simpa [hs] using ha.holds j t h,
          fun j h => absurd hs (ha.again j h), ha.noRaise⟩
        rcases ha.store with ⟨hw, ht⟩ | ⟨_, _, _, _, ht⟩
        · exact .inr ⟨ht ▸ hs, i, sys.store.next, by simp [won, hw], by simp [won]⟩
        · simp [hs] at ht
      rw [hx]
      exact ⟨hw.update i (fun _ h => by simp [won, Goc.holds.inj h]) (fun h => (nomatch h))
        fun _ h => (nomatch h), by simp [Goc.left]⟩
    | some t =>
      have hx : sys.exec name i =
          { sys with procs := Function.update sys.procs i .retrievingAgain } := by
        simp [Starters.exec, hp, TopicStore.create, hs, Goc.react]
      rw [hx]
      exact ⟨ha.update i (fun _ h => (nomatch h)) (fun _ => by simp [hs]) fun _ h => (nomatch h),
        by simp [Goc.left]⟩
  case retrievingAgain =>
    obtain ⟨t, hs⟩ := Option.ne_none_iff_exists'.mp (ha.again i hp)
    have hx : sys.exec name i = { sys with procs := Function.update sys.procs i (.holds t) } := by
      simp [Starters.exec, hp, TopicStore.retrieve, hs, Goc.react]
    rw [hx]
    exact ⟨ha.update i (fun _ h => Goc.holds.inj h ▸ hs) (fun h => (nomatch h))
      fun _ h => (nomatch h), by simp [Goc.left]⟩
  case holds =>
    have hx : sys.exec name i = sys := by simp [Starters.exec, hp]
    rw [hx, hp]
    exact ⟨ha, Nat.zero_le _⟩
  case raised => exact absurd hp (ha.noRaise i e)

end Step

theorem Starters.run_cons (name : String) (sys : Starters) (j : Nat) (sched : List Nat) :
    sys.run name (j :: sched) = (sys.exec name j).run name sched := rfl

/-- Every schedule keeps the invariant, and a process that made `k` calls of its own is at most
    `left - k` calls from done. -/
theorem Starters.Agree.run {name : String} {t0 : Option Nat} (i : Nat) :
    ∀ (sched : List Nat) (sys : Starters), sys.Agree name t0 →
      (sys.run name sched).Agree name t0 ∧
        ((sys.run name sched).procs i).left ≤ (sys.procs i).left - sched.count i
  | [], _, ha => ⟨ha, by simp [Starters.run]⟩
  | j :: sched, sys, ha => by
    obtain ⟨ha', hl⟩ := ha.exec j
    obtain ⟨hr, hrl⟩ := Starters.Agree.run i sched _ ha'
    rw [Starters.run_cons, List.count_cons]
    refine ⟨hr, ?_⟩
    by_cases hj : j = i
    · subst hj; simp only [beq_self_eq_true, if_true]; omega
    · rw [Starters.exec_other (Ne.symm hj)] at hrl
      simp only [beq_iff_eq, hj, if_false]; omega

/-- Any number of processes run the get-or-create block on topic `name` against one atomic
    store in which no topic is ever destroyed, in any interleaving of their calls. At most one
    `create` succeeds; no process raises (in particular not `NoSuchTopic` or `TopicExists`);
    every process holding a topic holds the same one, which is the topic that already existed or
    the one made by the single successful `create`; and every process that made three calls holds
    it. -/
theorem get_or_create_agree (st : TopicStore) (name : String) (sched : List Nat) :
    let sys := (Starters.init st).run name sched
    sys.wins.length ≤ 1 ∧ (∀ i e, sys.procs i ≠ .raised e) ∧
      (∀ i j t t', sys.procs i = .holds t → sys.procs j = .holds t' → t = t') ∧
      (∀ i t, sys.procs i = .holds t →
        st.topics name = some t ∨ (st.topics name = none ∧ ∃ j, sys.wins = [(j, t)])) ∧
      (∀ i, 3 ≤ sched.count i → ∃ t, sys.procs i = .holds t) := by
  intro sys
  have ha : sys.Agree name (st.topics name) := ((Starters.agree_init st name).run 0 sched _).1
  refine ⟨?_, ha.noRaise, fun i j t t' hi hj => ?_, fun i t hi => ?_, fun i hc => ?_⟩
  · rcases ha.store with ⟨hw, _⟩ | ⟨_, _, _, hw, _⟩ <;> simp [hw]
  · simpa [ha.holds i t hi] using ha.holds j t' hj
  · rcases ha.store with ⟨_, ht⟩ | ⟨h0, j, t', hw, ht⟩
    · exact .inl (ht ▸ ha.holds i t hi)
    · rw [ha.holds i t hi] at ht
      exact .inr ⟨h0, j, by rw [hw, Option.some.inj ht]⟩
  · have hl := ((Starters.agree_init st name).run i sched _).2
    change (sys.procs i).left ≤ 3 - sched.count i at hl
    exact Goc.holds_of_left_eq_zero (by omega) (ha.noRaise i)

end AskapIce

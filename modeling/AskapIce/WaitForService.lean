import AskapIce.Basic

/-! `Server.wait_for_service`: call `callback` until it answers, retrying on the five Ice
    connectivity errors with a fixed pause, and giving up with `TimeoutError` when the budget
    `self._retries` (if not `-1`) equals the number of failed attempts so far.

    The callback is an arbitrary, possibly infinite, sequence of answers `o 0, o 1, ...`. One pass
    of the loop is `waitStep`; the budget is an argument of it because the code reads
    `self._retries` afresh on every pass (`Retries` interleaves other threads there). `waitLoop`
    runs passes with explicit fuel, and `pending` means the loop had not ended when the fuel ran
    out. `wait_for_service_outcomes` is the full input/output behaviour for a budget that stays
    put during the call. -/

namespace AskapIce

variable {α : Type}

/-- The fixed pause between attempts (`delay = 5.0` seconds). -/
def delay : Nat := 5

/-- The budget test `self._retries > -1 and self._retries == count`. -/
def exhausted (retries : Int) (count : Nat) : Bool := decide (-1 < retries ∧ retries = count)

/-- The message of the `TimeoutError` (`"Couldn't connect to {0}: ".format(servicename)`). -/
def timeoutMsg (servicename : String) : String := "Couldn't connect to " ++ servicename ++ ": "

/-- What is printed and logged after the `count`-th failed attempt, before sleeping. -/
def waitNotices (servicename : String) (count : Nat) : List Event :=
  (if count < 10 then [.stderr ("Waiting for " ++ servicename)] else []) ++
  (if count = 10 then [.stderr "Repeated 10+ times", .log .warn ("Waiting for " ++ servicename)]
   else [])

/-- State of one `wait_for_service` call: still trying with `count` failed attempts, or ended. -/
inductive Loop (α : Type) where
  | waiting (count : Nat)
  | returned (v : α)
  | raised (e : Exn)
  deriving DecidableEq, Repr

/-- An answer of the callback that the `except` clause catches. -/
def failsRetryably : Except Exn α → Bool
  | .error e => e.retryable
  | .ok _ => false

/-- How a call ends when the callback's answer is not caught: its value, or its exception. -/
def Ends.ofExcept : Except Exn α → Ends α
  | .ok v => .ok v
  | .error e => .raise e

/-- One pass of the `while not registry` loop once the callback answered `o`, with the budget
    `retries` read at that moment: the call's next state, and what it prints, logs and sleeps. -/
def waitStep (servicename : String) (retries : Int) (count : Nat) :
    Except Exn α → Loop α × List Event
  | .ok v =>
    (.returned v, [.log .info ("Connected to " ++ servicename), .stderr (servicename ++ " found")])
  | .error ex =>
    if ex.retryable then
      if exhausted retries count then
        (.raised (.timeout (timeoutMsg servicename)), [.logError (timeoutMsg servicename) ex])
      else (.waiting (count + 1), waitNotices servicename count ++ [.sleep delay])
    else (.raised ex, [])

/-- The loop of `wait_for_service` from `count` failed attempts, for at most `fuel` passes. Each
    pass records the callback's invocation `.call cb`. -/
def waitLoop (servicename : String) (cb : Call) (retries : Int) (callback : Nat → Except Exn α) :
    Nat → Nat → Ends α × List Event
  | 0, _ => (.pending, [])
  | fuel + 1, count =>
    match waitStep servicename retries count (callback count) with
    | (.waiting c, es) =>
      let r := waitLoop servicename cb retries callback fuel c
      (r.1, .call cb :: es ++ r.2)
    | (.returned v, es) => (.ok v, .call cb :: es)
    | (.raised e, es) => (.raise e, .call cb :: es)

/-- `wait_for_service(servicename, callback)`; the server is left unchanged. -/
def waitForService (servicename : String) (cb : Call) (callback : Nat → Except Exn α)
    (fuel : Nat) : Prog α := fun s =>
  let r := waitLoop servicename cb s.retries callback fuel 0
  (r.1, s, r.2)

@[simp] theorem waitForService_apply (servicename : String) (cb : Call)
    (callback : Nat → Except Exn α) (fuel : Nat) (s : Server) :
    waitForService servicename cb callback fuel s =
      ((waitLoop servicename cb s.retries callback fuel 0).1, s,
        (waitLoop servicename cb s.retries callback fuel 0).2) := rfl

theorem waitForService_keeps {γ : Type} (f : Server → γ) (servicename : String) (cb : Call)
    (callback : Nat → Except Exn α) (fuel : Nat) :
    Prog.Keeps f (waitForService servicename cb callback fuel) := fun _ => rfl

/-! ### One pass -/

section Passes

variable (svc : String) (cb : Call) (r : Int) (o : Nat → Except Exn α)

@[simp] theorem waitLoop_zero (c : Nat) : waitLoop svc cb r o 0 c = (.pending, []) := rfl

/-- A retryable failure within the budget: notices, one pause, and the next pass. -/
theorem waitLoop_retry {fuel c : Nat} (hf : failsRetryably (o c)) (hb : exhausted r c = false) :
    waitLoop svc cb r o (fuel + 1) c =
      ((waitLoop svc cb r o fuel (c + 1)).1,
        .call cb :: waitNotices svc c ++ [.sleep delay] ++ (waitLoop svc cb r o fuel (c + 1)).2) := by
  cases h : o c with
  | ok v => simp [h, failsRetryably] at hf
  | error e =>
    simp only [h, failsRetryably] at hf
    simp [waitLoop, waitStep, h, hf, hb]

/-- A retryable failure when the budget is used up: log and raise `TimeoutError`. -/
theorem waitLoop_timeout {fuel c : Nat} {e : Exn} (h : o c = .error e) (hf : e.retryable)
    (hb : exhausted r c = true) :
    waitLoop svc cb r o (fuel + 1) c =
      (.raise (.timeout (timeoutMsg svc)), [.call cb, .logError (timeoutMsg svc) e]) := by
  simp [waitLoop, waitStep, h, hf, hb]

/-- What a call prints and logs after the answer that ends it (none after an exception). -/
def finalEvents (svc : String) : Except Exn α → List Event
  | .ok _ => [.log .info ("Connected to " ++ svc), .stderr (svc ++ " found")]
  | .error _ => []

/-- An answer the `except` clause does not catch ends the call with it, with no pause. -/
theorem waitLoop_final {fuel c : Nat} (hf : failsRetryably (o c) = false) :
    waitLoop svc cb r o (fuel + 1) c = (Ends.ofExcept (o c), .call cb :: finalEvents svc (o c)) := by
  cases h : o c with
  | ok v => simp [waitLoop, waitStep, h, Ends.ofExcept, finalEvents]
  | error e =>
    simp only [h, failsRetryably] at hf
    simp [waitLoop, waitStep, h, hf, Ends.ofExcept, finalEvents]

end Passes

/-! ### Runs of retryable failures -/

/-- The events of `j` retried passes from `c` failed attempts on. -/
def retryTrace (svc : String) (cb : Call) (c : Nat) : Nat → List Event
  | 0 => []
  | j + 1 => .call cb :: waitNotices svc c ++ [.sleep delay] ++ retryTrace svc cb (c + 1) j

/-- A `time.sleep(delay)` between two passes of the loop. -/
def Event.isSleep (e : Event) : Bool := e matches .sleep _

/-- A call into the Ice runtime, such as an invocation of the callback. -/
def Event.isCall (e : Event) : Bool := e matches .call _

theorem waitNotices_sleeps (svc : String) (c : Nat) :
    (waitNotices svc c).filter Event.isSleep = [] := by
  simp only [waitNotices]; split_ifs <;> rfl

theorem waitNotices_calls (svc : String) (c : Nat) :
    (waitNotices svc c).filter Event.isCall = [] := by
  simp only [waitNotices]; split_ifs <;> rfl

theorem finalEvents_sleeps (svc : String) (o : Except Exn α) :
    (finalEvents svc o).filter Event.isSleep = [] := by
  cases o <;> rfl

theorem finalEvents_calls (svc : String) (o : Except Exn α) :
    (finalEvents svc o).filter Event.isCall = [] := by
  cases o <;> rfl

theorem retryTrace_sleeps (svc : String) (cb : Call) (c j : Nat) :
    (retryTrace svc cb c j).filter Event.isSleep = List.replicate j (.sleep delay) := by
  induction j generalizing c with
  | zero => rfl
  | succ j ih =>
    simp [retryTrace, List.filter_append, waitNotices_sleeps, ih, Event.isSleep,
      List.replicate_succ]

theorem retryTrace_calls (svc : String) (cb : Call) (c j : Nat) :
    (retryTrace svc cb c j).filter Event.isCall = List.replicate j (.call cb) := by
  induction j generalizing c with
  | zero => rfl
  | succ j ih =>
    simp [retryTrace, List.filter_append, waitNotices_calls, ih, Event.isCall,
      List.replicate_succ]

/-- `j` retryable failures within the budget: the loop records `retryTrace` and goes on. -/
theorem waitLoop_retries (svc : String) (cb : Call) (r : Int) (o : Nat → Except Exn α)
    (fuel j c : Nat) (h : ∀ i, c ≤ i → i < c + j → failsRetryably (o i) ∧ exhausted r i = false) :
    waitLoop svc cb r o (fuel + j) c =
      ((waitLoop svc cb r o fuel (c + j)).1,
        retryTrace svc cb c j ++ (waitLoop svc cb r o fuel (c + j)).2) := by
  induction j generalizing c with
  | zero => rfl
  | succ j ih =>
    obtain ⟨hf, hb⟩ := h c le_rfl (by omega)
    rw [show fuel + (j + 1) = fuel + j + 1 by omega, waitLoop_retry svc cb r o hf hb,
      ih (c + 1) (fun i h1 h2 => h i (by omega) (by omega))]
    simp [retryTrace, Nat.add_right_comm c 1 j, Nat.add_assoc]

theorem exhausted_of_lt {r : Int} {i : Nat} (h : r < 0 ∨ i < r) : exhausted r i = false := by
  simp only [exhausted, decide_eq_false_iff_not, not_and]; omega

theorem exhausted_self (n : Nat) : exhausted n n = true := by
  simp [exhausted]; omega

/-- Answers `0 … k-1` fail retryably within the budget and answer `k` does not: the loop ends
    with answer `k` after `k` retried passes. -/
theorem waitLoop_first_final (svc : String) (cb : Call) {r : Int} (o : Nat → Except Exn α)
    {k fuel : Nat} (hpre : ∀ i < k, failsRetryably (o i)) (hk : failsRetryably (o k) = false)
    (hr : r < 0 ∨ k ≤ r) (hfuel : k < fuel) :
    waitLoop svc cb r o fuel 0 =
      (Ends.ofExcept (o k), retryTrace svc cb 0 k ++ .call cb :: finalEvents svc (o k)) := by
  obtain ⟨f, rfl⟩ : ∃ f, fuel = f + 1 + k := ⟨fuel - k - 1, by omega⟩
  have hrun := waitLoop_retries svc cb r o (f + 1) k 0
    (fun i _ hi => ⟨hpre i (by omega), exhausted_of_lt (by omega)⟩)
  rwa [Nat.zero_add, waitLoop_final svc cb _ o hk] at hrun

theorem failsRetryably_error {o : Except Exn α} (h : failsRetryably o) :
    ∃ e, o = .error e ∧ e.retryable := by
  cases o with
  | ok v => simp [failsRetryably] at h
  | error e => exact ⟨e, rfl, h⟩

/-! ### What a call records -/

theorem waitNotices_quiet (svc : String) (c : Nat) : ∀ e ∈ waitNotices svc c, e.quiet = true :=
  List.all_eq_true.mp (by unfold waitNotices; split_ifs <;> rfl)

theorem finalEvents_quiet (svc : String) (o : Except Exn α) :
    ∀ e ∈ finalEvents svc o, e.quiet = true :=
  List.all_eq_true.mp (by cases o <;> rfl)

/-- Each pass records the callback's invocation and otherwise only prints, logs or sleeps. -/
theorem waitLoop_events (svc : String) (cb : Call) (r : Int) (o : Nat → Except Exn α) (fuel c : Nat) :
    ∀ e ∈ (waitLoop svc cb r o fuel c).2, e = .call cb ∨ e.quiet = true := by
  induction fuel generalizing c with
  | zero => simp
  | succ fuel ih =>
    cases hf : failsRetryably (o c) with
    | false =>
      rw [waitLoop_final svc cb r o hf]
      intro e he
      rcases List.mem_cons.mp he with rfl | he
      · exact .inl rfl
      · exact .inr (finalEvents_quiet svc (o c) e he)
    | true =>
      cases hb : exhausted r c with
      | false =>
        rw [waitLoop_retry svc cb r o hf hb]
        intro e he
        simp only [List.cons_append, List.append_assoc, List.mem_cons, List.mem_append,
          List.mem_singleton, List.not_mem_nil, false_or] at he
        rcases he with rfl | he | rfl | he
        · exact .inl rfl
        · exact .inr (waitNotices_quiet svc c e he)
        · exact .inr rfl
        · exact ih (c + 1) e he
      | true =>
        obtain ⟨ex, hex, hre⟩ := failsRetryably_error hf
        rw [waitLoop_timeout svc cb r o hex hre hb]
        intro e he
        simp only [List.mem_cons, List.mem_singleton, List.not_mem_nil, or_false] at he
        rcases he with rfl | rfl
        · exact .inl rfl
        · exact .inr rfl

theorem waitForService_within {P : Event → Bool} (svc : String) (cb : Call)
    (o : Nat → Except Exn α) (fuel : Nat) (hcb : P (.call cb) = true)
    (hq : ∀ e, e.quiet = true → P e = true) : Prog.Within P (waitForService svc cb o fuel) := by
  intro s e he
  rcases waitLoop_events svc cb s.retries o fuel 0 e he with rfl | h
  · exact hcb
  · exact hq e h

/-! ### The behaviour of one call -/

/-- With budget `n ≥ 0` and answers `0..n` all retryable failures, the loop gives up with
    `TimeoutError` after `n + 1` attempts and `n` pauses. -/
theorem waitLoop_gives_up (svc : String) (cb : Call) {n : Nat} (o : Nat → Except Exn α)
    (hall : ∀ i ≤ n, failsRetryably (o i)) {fuel : Nat} (hfuel : n < fuel) :
    ∃ e, waitLoop svc cb n o fuel 0 = (.raise (.timeout (timeoutMsg svc)),
      retryTrace svc cb 0 n ++ [.call cb, .logError (timeoutMsg svc) e]) := by
  obtain ⟨f, rfl⟩ : ∃ f, fuel = f + 1 + n := ⟨fuel - n - 1, by omega⟩
  obtain ⟨e, he, hre⟩ := failsRetryably_error (hall n le_rfl)
  have hrun := waitLoop_retries svc cb n o (f + 1) n 0
    (fun i _ hi => ⟨hall i (by omega), exhausted_of_lt (.inr (by omega))⟩)
  rw [Nat.zero_add, waitLoop_timeout svc cb _ o he hre (exhausted_self n)] at hrun
  exact ⟨e, hrun⟩

/-- With a negative budget and only retryable failures, the loop is still trying after `fuel`
    passes, one attempt and one pause each. -/
theorem waitLoop_forever (svc : String) (cb : Call) {r : Int} (o : Nat → Except Exn α)
    (hr : r < 0) (fuel : Nat) (hall : ∀ i < fuel, failsRetryably (o i)) :
    waitLoop svc cb r o fuel 0 = (.pending, retryTrace svc cb 0 fuel) := by
  have h := waitLoop_retries svc cb r o 0 fuel 0
    (fun i _ hi => ⟨hall i (by omega), exhausted_of_lt (.inl hr)⟩)
  simpa using h

/-- When every answer is a retryable failure the loop never returns a value. -/
theorem waitLoop_not_ok (svc : String) (cb : Call) (r : Int) {o : Nat → Except Exn α}
    (hall : ∀ i, failsRetryably (o i)) : ∀ fuel c a, (waitLoop svc cb r o fuel c).1 ≠ .ok a
  | 0, _, _ => by simp
  | fuel + 1, c, a => by
    obtain ⟨e, he, hre⟩ := failsRetryably_error (hall c)
    cases hb : exhausted r c
    · rw [waitLoop_retry svc cb r o (hall c) hb]; exact waitLoop_not_ok svc cb r hall fuel (c + 1) a
    · rw [waitLoop_timeout svc cb r o he hre hb]; simp

theorem retryTrace_count (svc : String) (cb : Call) (c j : Nat) :
    (retryTrace svc cb c j).count (.call cb) = j := by
  rw [← List.count_filter (show Event.isCall (.call cb) = true from rfl), retryTrace_calls,
    List.count_replicate_self]

/-- With a negative budget the loop never gives up by itself: it is still trying, or it ended
    with the first answer that is not a retryable failure. -/
theorem waitLoop_unbounded (svc : String) (cb : Call) {r : Int} (o : Nat → Except Exn α)
    (hr : r < 0) (fuel c : Nat) :
    (waitLoop svc cb r o fuel c).1 = .pending ∨
      ∃ k, c ≤ k ∧ (∀ i, c ≤ i → i < k → failsRetryably (o i)) ∧ failsRetryably (o k) = false ∧
        (waitLoop svc cb r o fuel c).1 = Ends.ofExcept (o k) := by
  induction fuel generalizing c with
  | zero => exact .inl rfl
  | succ fuel ih =>
    cases hf : failsRetryably (o c) with
    | false => exact .inr ⟨c, le_rfl, fun i h1 h2 => by omega, hf,
        by rw [waitLoop_final svc cb r o hf]⟩
    | true =>
      rw [waitLoop_retry svc cb r o hf (exhausted_of_lt (.inl hr))]
      rcases ih (c + 1) with h | ⟨k, hk, hpre, hfk, hend⟩
      · exact .inl h
      · refine .inr ⟨k, by omega, fun i h1 h2 => ?_, hfk, hend⟩
        rcases Nat.eq_or_lt_of_le h1 with rfl | h1
        · exact hf
        · exact hpre i h1 h2

/-- The behaviour of `wait_for_service` on a server whose budget `r = self._retries` stays put
    during the call, for every answer sequence `o` of the callback:
    when `r = n ≥ 0` and answers `0..n` are all retryable failures, the callback is invoked `n + 1`
    times, the call sleeps `n` times and raises `TimeoutError`; when answer `k` is the first that is
    not a retryable failure and `r < 0` or `k ≤ r`, the callback is invoked `k + 1` times, the call
    sleeps `k` times and returns or re-raises answer `k`; and when `r < 0` the call is still trying
    or has ended with the first answer that is not a retryable failure, never with a
    `TimeoutError` of its own. The server is left unchanged. -/
theorem wait_for_service_outcomes (svc : String) (cb : Call) (o : Nat → Except Exn α)
    (s : Server) :
    (∀ n : Nat, s.retries = n → (∀ i ≤ n, failsRetryably (o i)) → ∀ fuel, n < fuel →
      let w := waitForService svc cb o fuel s
      w.1 = .raise (.timeout (timeoutMsg svc)) ∧ w.2.1 = s ∧
      w.2.2.filter Event.isCall = List.replicate (n + 1) (.call cb) ∧
      w.2.2.filter Event.isSleep = List.replicate n (.sleep delay)) ∧
    (∀ k, (∀ i < k, failsRetryably (o i)) → failsRetryably (o k) = false →
      (s.retries < 0 ∨ k ≤ s.retries) → ∀ fuel, k < fuel →
      let w := waitForService svc cb o fuel s
      w.1 = Ends.ofExcept (o k) ∧ w.2.1 = s ∧
      w.2.2.filter Event.isCall = List.replicate (k + 1) (.call cb) ∧
      w.2.2.filter Event.isSleep = List.replicate k (.sleep delay)) ∧
    (s.retries < 0 → ∀ fuel, (waitForService svc cb o fuel s).1 = .pending ∨
      ∃ k, (∀ i < k, failsRetryably (o i)) ∧ failsRetryably (o k) = false ∧
        (waitForService svc cb o fuel s).1 = Ends.ofExcept (o k)) := by
  refine ⟨fun n hr hall fuel hfuel => ?_, fun k hpre hk hr fuel hfuel => ?_, fun hr fuel => ?_⟩
  · obtain ⟨e, hrun⟩ := waitLoop_gives_up svc cb o hall hfuel
    simp [hr, hrun, List.filter_append, retryTrace_calls, retryTrace_sleeps, Event.isCall,
      Event.isSleep, List.replicate_succ']
  · simp [waitLoop_first_final svc cb o hpre hk hr hfuel, List.filter_append, retryTrace_calls,
      retryTrace_sleeps, finalEvents_calls, finalEvents_sleeps, Event.isCall, Event.isSleep,
      List.replicate_succ']
  · rcases waitLoop_unbounded svc cb o hr fuel 0 with h | ⟨k, -, hpre, hk, hend⟩
    · exact .inl h
    · exact .inr ⟨k, fun i hi => hpre i (Nat.zero_le i) hi, hk, hend⟩

end AskapIce

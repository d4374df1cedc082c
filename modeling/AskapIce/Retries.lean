import AskapIce.Lifecycle

/-! `wait_for_service` calls running in threads of one process, interleaved with `set_retries`.

    A call keeps its count and its callback's answers to itself, but it tests its budget by reading
    the shared `self._retries`, twice, after every retryable failure
    (`self._retries > -1 and self._retries == count`). `Waiter` is one call at the grain of those
    reads: invoking the callback, the read for `> -1` and the read for `== count` are separate
    atomic steps, and any other thread may run between them. `Threads` is the server with every
    running call; an interleaving is any list of `Op`s, each a step of one call or a `set_retries`
    from some other thread.

        calling c ──answer──▶ checking c ──read > -1──▶ comparing c ──read == c──▶ raised timeout
            ▲                     │ no                      │ no
            └─────── c + 1 ◀──────┴─────────────────────────┘

    With the budget held during a pass, the steps of one pass end where one `waitStep` does
    (`pass_refines_waitStep`), so a call run alone is the loop of `WaitForService`
    (`waiter_refines_waitLoop`). Other calls never change a call's state or its budget
    (`run_view_own`). Without a `set_retries` during it, a call started with budget `r0 ≥ 0`
    invokes its callback at most `r0 + 1` times and, when every answer fails retryably, raises
    `TimeoutError` after exactly that many, whatever the other calls do. -/

namespace AskapIce

variable {α : Type}

/-- Where one `wait_for_service` call is, at the grain of its reads of `self._retries`. -/
inductive Pass (α : Type) where
  /-- about to invoke the callback, after `count` retryable failures -/
  | calling (count : Nat)
  /-- caught the retryable failure `ex`; next reads `self._retries > -1` -/
  | checking (count : Nat) (ex : Exn)
  /-- read `self._retries > -1` as true; next reads `self._retries == count` -/
  | comparing (count : Nat) (ex : Exn)
  | returned (v : α)
  | raised (e : Exn)
  deriving DecidableEq, Repr

/-- How the call has ended so far: `pending` while it is still in its loop. -/
def Pass.ends : Pass α → Ends α
  | .returned v => .ok v
  | .raised e => .raise e
  | _ => .pending

/-- The state of the sequential loop, as a place of the threaded one. -/
def Loop.toPass : Loop α → Pass α
  | .waiting c => .calling c
  | .returned v => .returned v
  | .raised e => .raised e

/-- One `wait_for_service(servicename, callback)` call in its own thread; `cb` is the call the
    callback makes. -/
structure Waiter (α : Type) where
  servicename : String
  cb : Call
  callback : Nat → Except Exn α
  pass : Pass α
  calls : Nat
  trace : List Event

/-- A call that has not invoked its callback yet. -/
def Waiter.start (servicename : String) (cb : Call) (callback : Nat → Except Exn α) : Waiter α :=
  ⟨servicename, cb, callback, .calling 0, 0, []⟩

/-- One atomic step of a call that reads `self._retries = r` if it reads it. A call that has
    ended stays as it is. -/
def Waiter.step (r : Int) (w : Waiter α) : Waiter α :=
  match w.pass with
  | .calling c =>
    match w.callback c with
    | .ok v =>
      { w with
        pass := .returned v, calls := w.calls + 1,
        trace := w.trace ++ .call w.cb :: finalEvents w.servicename (.ok v : Except Exn α) }
    | .error ex =>
      { w with
        pass := if ex.retryable then .checking c ex else .raised ex, calls := w.calls + 1,
        trace := w.trace ++ [.call w.cb] }
  | .checking c ex =>
    if -1 < r then { w with pass := .comparing c ex }
    else
      { w with
        pass := .calling (c + 1), trace := w.trace ++ waitNotices w.servicename c ++ [.sleep delay] }
  | .comparing c ex =>
    if r = c then
      { w with
        pass := .raised (.timeout (timeoutMsg w.servicename)),
        trace := w.trace ++ [.logError (timeoutMsg w.servicename) ex] }
    else
      { w with
        pass := .calling (c + 1), trace := w.trace ++ waitNotices w.servicename c ++ [.sleep delay] }
  | .returned _ | .raised _ => w

/-- A call that has raised stays as it is. -/
theorem Waiter.step_raised {w : Waiter α} {e : Exn} (h : w.pass = .raised e) (r : Int) :
    w.step r = w := by
  unfold Waiter.step; rw [h]

/-- A step changes neither the call's callback nor its service name. -/
theorem Waiter.step_fixed (r : Int) (w : Waiter α) :
    (w.step r).callback = w.callback ∧ (w.step r).servicename = w.servicename := by
  unfold Waiter.step
  split
  · split <;> exact ⟨rfl, rfl⟩
  all_goals (try split) <;> exact ⟨rfl, rfl⟩

theorem Waiter.iterate_fixed (r : Int) (w : Waiter α) :
    ∀ k, ((Waiter.step r)^[k] w).callback = w.callback ∧
      ((Waiter.step r)^[k] w).servicename = w.servicename
  | 0 => ⟨rfl, rfl⟩
  | k + 1 => by
    rw [Function.iterate_succ_apply']
    exact ⟨(Waiter.step_fixed r _).1.trans (Waiter.iterate_fixed r w k).1,
      (Waiter.step_fixed r _).2.trans (Waiter.iterate_fixed r w k).2⟩

/-! ### One call with its budget held: the loop of `WaitForService` -/

/-- How many atomic steps the pass takes once the callback answered `o`, the budget being `r`. -/
def passLength (r : Int) : Except Exn α → Nat
  | .ok _ => 1
  | .error ex => if ex.retryable then if -1 < r then 3 else 2 else 1

/-- A pass whose reads of `self._retries` all see `r` ends where `waitStep` with budget `r` does,
    with the same events after the callback's invocation. -/
theorem pass_refines_waitStep (r : Int) (w : Waiter α) {c : Nat} (hw : w.pass = .calling c) :
    (Waiter.step r)^[passLength r (w.callback c)] w =
      { w with
        pass := (waitStep w.servicename r c (w.callback c)).1.toPass, calls := w.calls + 1,
        trace := w.trace ++ .call w.cb :: (waitStep w.servicename r c (w.callback c)).2 } := by
  cases h : w.callback c with
  | ok v => simp [passLength, Waiter.step, hw, h, waitStep, Loop.toPass, finalEvents]
  | error ex =>
    by_cases hre : ex.retryable
    · by_cases hr : -1 < r
      · by_cases hc : r = c
        · subst hc
          simp [passLength, Waiter.step, hw, h, hre, hr, waitStep, exhausted, Loop.toPass]
        · simp [passLength, Waiter.step, hw, h, hre, hr, hc, waitStep, exhausted, Loop.toPass]
      · simp [passLength, Waiter.step, hw, h, hre, hr, waitStep, exhausted, Loop.toPass]
    · simp [passLength, Waiter.step, hw, h, hre, waitStep, Loop.toPass]

/-- A call run alone, its budget held at `r`, goes through the passes of `waitLoop`: for every
    fuel, some number of atomic steps ends the way `fuel` passes of the loop do, with the same
    events. -/
theorem waiter_refines_waitLoop (r : Int) :
    ∀ (fuel c : Nat) (w : Waiter α), w.pass = .calling c →
      ∃ k, ((Waiter.step r)^[k] w).pass.ends = (waitLoop w.servicename w.cb r w.callback fuel c).1 ∧
        ((Waiter.step r)^[k] w).trace = w.trace ++ (waitLoop w.servicename w.cb r w.callback fuel c).2
  | 0, _, w, hw => ⟨0, by simp [hw, Pass.ends]⟩
  | fuel + 1, c, w, hw => by
    have hpass := pass_refines_waitStep r w hw
    rcases hs : waitStep w.servicename r c (w.callback c) with ⟨_ | v | e, es⟩
    case waiting c' =>
      obtain ⟨k, hk, ht⟩ := waiter_refines_waitLoop r fuel c'
        ((Waiter.step r)^[passLength r (w.callback c)] w) (by simp [hpass, hs, Loop.toPass])
      refine ⟨k + passLength r (w.callback c), ?_, ?_⟩
      · rw [Function.iterate_add_apply, hk]
        simp [waitLoop, hs, hpass]
      · rw [Function.iterate_add_apply, ht]
        simp [waitLoop, hs, hpass]
    all_goals
      exact ⟨passLength r (w.callback c), by simp [hpass, hs, waitLoop, Loop.toPass, Pass.ends]⟩

/-- A fresh call against a refusing registry, budget `1`, three passes. -/
theorem refused_waiter_follows_waitLoop :
    (Waiter.start "registry" (.activate .main)
        (fun _ => (.error (.ice .connectionRefused) : Except Exn Unit))).pass = .calling 0 ∧
      ∃ k, ((Waiter.step 1)^[k] (Waiter.start "registry" (.activate .main)
          (fun _ => (.error (.ice .connectionRefused) : Except Exn Unit)))).pass.ends =
        (waitLoop "registry" (.activate .main) 1 (fun _ => .error (.ice .connectionRefused)) 3 0).1 ∧
      ((Waiter.step 1)^[k] (Waiter.start "registry" (.activate .main)
          (fun _ => (.error (.ice .connectionRefused) : Except Exn Unit)))).trace =
        [] ++ (waitLoop "registry" (.activate .main) 1
          (fun _ => (.error (.ice .connectionRefused) : Except Exn Unit)) 3 0).2 :=
  ⟨rfl, waiter_refines_waitLoop 1 3 0 _ rfl⟩

/-! ### Threads sharing one server -/

/-- The server shared by every thread, and the `wait_for_service` call of every thread. -/
structure Threads (α : Type) where
  server : Server
  waiters : Nat → Waiter α

/-- What another thread can do at any moment: a step of call `i`, or `set_retries(r)`. -/
inductive Op where
  | step (i : Nat)
  | setRetries (r : Int)
  deriving DecidableEq, Repr

/-- One operation of the interleaving; a call reads the budget the server holds at that moment. -/
def Threads.exec (t : Threads α) : Op → Threads α
  | .step i => { t with waiters := Function.update t.waiters i ((t.waiters i).step t.server.retries) }
  | .setRetries r => { t with server := setRetries r t.server }

/-- An interleaving, run from `t`. -/
def Threads.run (t : Threads α) (ops : List Op) : Threads α := ops.foldl Threads.exec t

@[simp] theorem Threads.run_nil (t : Threads α) : t.run [] = t := rfl

@[simp] theorem Threads.run_cons (t : Threads α) (op : Op) (ops : List Op) :
    t.run (op :: ops) = (t.exec op).run ops := rfl

theorem Threads.run_append (t : Threads α) (ops ops' : List Op) :
    t.run (ops ++ ops') = (t.run ops).run ops' := List.foldl_append _ _ _ _

/-- What call `i` depends on: its own state and the budget. -/
def Threads.view (i : Nat) (t : Threads α) : Waiter α × Int := (t.waiters i, t.server.retries)

/-- The operations that can change what call `i` depends on. -/
def Op.touches (i : Nat) : Op → Bool
  | .step j => j == i
  | .setRetries _ => true

theorem exec_view_other {i : Nat} {op : Op} (h : op.touches i = false) (t : Threads α) :
    (t.exec op).view i = t.view i := by
  cases op with
  | step j =>
    have hj : i ≠ j := fun e => by simp [Op.touches, e] at h
    simp [Threads.exec, Threads.view, Function.update_noteq hj]
  | setRetries => simp [Op.touches] at h

theorem exec_view_congr {i : Nat} {t t' : Threads α} (h : t.view i = t'.view i) (op : Op) :
    (t.exec op).view i = (t'.exec op).view i := by
  simp only [Threads.view, Prod.mk.injEq] at h
  cases op with
  | step j =>
    by_cases hj : i = j
    · subst hj; simp [Threads.exec, Threads.view, h.1, h.2]
    · simp [Threads.exec, Threads.view, Function.update_noteq hj, h.1, h.2]
  | setRetries r => simp [Threads.exec, Threads.view, setRetries, h.1]

/-- Other calls never change call `i` nor the budget: it runs as if only its own steps and the
    `set_retries` calls had happened. -/
theorem run_view_own (i : Nat) : ∀ (ops : List Op) (t t' : Threads α), t.view i = t'.view i →
    (t.run ops).view i = (t'.run (ops.filter (Op.touches i))).view i
  | [], _, _, h => h
  | op :: ops, t, t', h => by
    cases ht : op.touches i
    · rw [List.filter_cons_of_neg (by simp [ht])]
      exact run_view_own i ops _ _ ((exec_view_other ht t).trans h)
    · rw [List.filter_cons_of_pos ht]
      exact run_view_own i ops _ _ (exec_view_congr h op)

/-! ### The budget of a call when nobody calls `set_retries` -/

/-- The count and the attempts of a call whose budget `r0` has not been reached. -/
def Waiter.Budgeted (r0 : Nat) (w : Waiter α) : Prop :=
  match w.pass with
  | .calling c => c ≤ r0 ∧ w.calls = c
  | .checking c _ | .comparing c _ => c ≤ r0 ∧ w.calls = c + 1
  | .returned _ | .raised _ => w.calls ≤ r0 + 1

theorem Waiter.calls_le_of_budgeted {r0 : Nat} {w : Waiter α} (h : w.Budgeted r0) :
    w.calls ≤ r0 + 1 := by
  unfold Waiter.Budgeted at h
  split at h <;> omega

theorem Waiter.budgeted_step {r0 : Nat} {w : Waiter α} (h : w.Budgeted r0) :
    (w.step r0).Budgeted r0 := by
  have h0 : (-1 : Int) < r0 := by omega
  rcases hp : w.pass with c | ⟨c, ex⟩ | ⟨c, ex⟩ | v | e <;>
    simp only [Waiter.Budgeted, hp] at h
  case calling =>
    cases hc : w.callback c with
    | ok v => simp [Waiter.step, Waiter.Budgeted, hp, hc]; omega
    | error ex =>
      cases hre : ex.retryable <;> simp [Waiter.step, Waiter.Budgeted, hp, hc, hre] <;> omega
  case checking => simp [Waiter.step, Waiter.Budgeted, hp, h0]; omega
  case comparing =>
    by_cases hc : (r0 : Int) = c
    · simp [Waiter.step, Waiter.Budgeted, hp, hc]; omega
    · simp [Waiter.step, Waiter.Budgeted, hp, hc]; omega
  all_goals simp [Waiter.step, Waiter.Budgeted, hp, h]

/-- Operations without a `set_retries` keep the budget and keep every call within it. -/
theorem run_budgeted (r0 : Nat) (i : Nat) : ∀ (ops : List Op) (t : Threads α),
    (∀ r, .setRetries r ∉ ops) → t.server.retries = r0 → (t.waiters i).Budgeted r0 →
    (t.run ops).server.retries = r0 ∧ ((t.run ops).waiters i).Budgeted r0
  | [], _, _, hr, hb => ⟨hr, hb⟩
  | op :: ops, t, hno, hr, hb => by
    cases op with
    | setRetries r => exact absurd (List.mem_cons_self _ _) (hno r)
    | step j =>
      refine run_budgeted r0 i ops _ (fun r h => hno r (List.mem_cons_of_mem _ h)) hr ?_
      by_cases hj : i = j
      · subst hj; simpa [Threads.exec, hr] using Waiter.budgeted_step hb
      · simpa [Threads.exec, Function.update_noteq hj] using hb

/-! ### A call whose every attempt fails -/

section Failing

variable {r0 : Nat} {w : Waiter α} (hfail : ∀ n, failsRetryably (w.callback n))

include hfail in
/-- One full pass below the budget: three steps, back to calling with one more attempt made. -/
theorem step_three_below_budget {c : Nat} (hc : c < r0) (hw : w.pass = .calling c) :
    ((Waiter.step r0)^[3] w).pass = .calling (c + 1) ∧
      ((Waiter.step r0)^[3] w).calls = w.calls + 1 := by
  obtain ⟨ex, he, hre⟩ := failsRetryably_error (hfail c)
  have hne : (r0 : Int) ≠ c := by omega
  have h0 : (-1 : Int) < r0 := by omega
  simp [Waiter.step, hw, he, hre, hne, h0]

include hfail in
/-- The pass at the budget: three steps to `TimeoutError`, with one more attempt made. -/
theorem step_three_at_budget (hw : w.pass = .calling r0) :
    ((Waiter.step r0)^[3] w).pass = .raised (.timeout (timeoutMsg w.servicename)) ∧
      ((Waiter.step r0)^[3] w).calls = w.calls + 1 := by
  obtain ⟨ex, he, hre⟩ := failsRetryably_error (hfail r0)
  have h0 : (-1 : Int) < r0 := by omega
  simp [Waiter.step, hw, he, hre, h0]

include hfail in
/-- From a fresh call, `3 c` steps for each `c ≤ r0` make `c` attempts and leave the call about
    to make the next one. -/
theorem iterate_calling (hw : w.pass = .calling 0) (hn : w.calls = 0) :
    ∀ c ≤ r0, ((Waiter.step r0)^[3 * c] w).pass = .calling c ∧
      ((Waiter.step r0)^[3 * c] w).calls = c
  | 0, _ => ⟨hw, hn⟩
  | c + 1, hc => by
    obtain ⟨hp, hcalls⟩ := iterate_calling hw hn c (by omega)
    have h3 := step_three_below_budget (w := (Waiter.step r0)^[3 * c] w)
      (fun n => (Waiter.iterate_fixed _ w _).1 ▸ hfail n) (by omega : c < r0) hp
    rw [show 3 * (c + 1) = 3 + 3 * c by omega, Function.iterate_add_apply]
    exact ⟨h3.1, by rw [h3.2, hcalls]⟩

include hfail in
/-- After `3 (r0 + 1)` steps or more, a fresh call has made `r0 + 1` attempts and raised
    `TimeoutError`. -/
theorem iterate_times_out (hw : w.pass = .calling 0) (hn : w.calls = 0) (k : Nat)
    (hk : 3 * (r0 + 1) ≤ k) :
    ((Waiter.step r0)^[k] w).pass = .raised (.timeout (timeoutMsg w.servicename)) ∧
      ((Waiter.step r0)^[k] w).calls = r0 + 1 := by
  obtain ⟨hp, hcalls⟩ := iterate_calling hfail hw hn r0 le_rfl
  have hfixed := Waiter.iterate_fixed (r0 : Int) w (3 * r0)
  have hend := step_three_at_budget (w := (Waiter.step r0)^[3 * r0] w)
    (fun n => hfixed.1 ▸ hfail n) hp
  rw [hfixed.2, hcalls] at hend
  have hstay := Waiter.step_raised hend.1 (r0 : Int)
  rw [show k = (k - 3 * (r0 + 1)) + (3 + 3 * r0) by omega, Function.iterate_add_apply,
    Function.iterate_add_apply, Function.iterate_fixed hstay]
  exact hend

/-- With `self._retries = -1`, the check after a retryable failure goes back to calling. -/
theorem Waiter.step_checking_unbounded {c : Nat} {ex : Exn} (hw : w.pass = .checking c ex) :
    (w.step (-1)).pass = .calling (c + 1) ∧ (w.step (-1)).calls = w.calls := by
  simp [Waiter.step, hw]

include hfail in
/-- A failing attempt, whatever the budget: the call goes on to check the budget. -/
theorem step_calling_fails {c : Nat} (hw : w.pass = .calling c) (r : Int) :
    ∃ ex, (w.step r).pass = .checking c ex ∧ (w.step r).calls = w.calls + 1 := by
  obtain ⟨ex, he, hre⟩ := failsRetryably_error (hfail c)
  exact ⟨ex, by simp [Waiter.step, hw, he, hre]⟩

include hfail in
/-- With `self._retries = -1`, two steps per failing attempt: each pass comes back to calling. -/
theorem iterate_unbounded {c : Nat} (hw : w.pass = .calling c) : ∀ m,
    ((Waiter.step (-1))^[2 * m] w).pass = .calling (c + m) ∧
      ((Waiter.step (-1))^[2 * m] w).calls = w.calls + m
  | 0 => ⟨hw, rfl⟩
  | m + 1 => by
    obtain ⟨hp, hcalls⟩ := iterate_unbounded hw m
    obtain ⟨ex, hchk, hn⟩ := step_calling_fails (w := (Waiter.step (-1))^[2 * m] w)
      (fun n => (Waiter.iterate_fixed _ w _).1 ▸ hfail n) hp (-1)
    obtain ⟨hp', hn'⟩ := Waiter.step_checking_unbounded hchk
    rw [show 2 * (m + 1) = 2 * m + 1 + 1 by omega, Function.iterate_succ_apply',
      Function.iterate_succ_apply']
    exact ⟨by rw [hp']; rfl, by rw [hn', hn, hcalls]; rfl⟩

include hfail in
/-- With `self._retries = -1`, a call whose every attempt fails never ends: after `n` steps from
    calling, it has made `(n + 1) / 2` more attempts. -/
theorem iterate_never_ends {c : Nat} (hw : w.pass = .calling c) (n : Nat) :
    ((Waiter.step (-1))^[n] w).pass.ends = .pending ∧
      ((Waiter.step (-1))^[n] w).calls = w.calls + (n + 1) / 2 := by
  obtain ⟨m, rfl | rfl⟩ : ∃ m, n = 2 * m ∨ n = 2 * m + 1 := ⟨n / 2, by omega⟩
  · obtain ⟨hp, hcalls⟩ := iterate_unbounded hfail hw m
    exact ⟨by rw [hp]; rfl, by rw [hcalls]; omega⟩
  · obtain ⟨hp, hcalls⟩ := iterate_unbounded hfail hw m
    obtain ⟨ex, hchk, hn⟩ := step_calling_fails (w := (Waiter.step (-1))^[2 * m] w)
      (fun n => (Waiter.iterate_fixed _ w _).1 ▸ hfail n) hp (-1)
    rw [Function.iterate_succ_apply']
    exact ⟨by rw [hchk]; rfl, by rw [hn, hcalls]; omega⟩

end Failing

/-! ### Every interleaving -/

theorem run_steps_of (i : Nat) : ∀ (k : Nat) (t : Threads α),
    (t.run (List.replicate k (.step i))).waiters i =
      (Waiter.step t.server.retries)^[k] (t.waiters i)
  | 0, _ => rfl
  | k + 1, t => by
    rw [List.replicate_succ, Threads.run_cons, run_steps_of i k, Function.iterate_succ_apply]
    simp [Threads.exec]

/-- Without `set_retries`, the operations that touch call `i` are its own steps. -/
theorem filter_touches_of_no_set {i : Nat} {ops : List Op} (hno : ∀ r, .setRetries r ∉ ops) :
    ops.filter (Op.touches i) = List.replicate (ops.count (.step i)) (.step i) := by
  rw [← List.filter_beq]
  exact List.filter_congr fun op hop => by
    cases op with
    | step j => simp [Op.touches]
    | setRetries r => exact absurd hop (hno r)

/-- A `wait_for_service` call `i` that starts with budget `r0 ≥ 0`, among any number of other
    calls. In every interleaving, call `i` and the budget end as if only its own steps and the
    `set_retries` calls had run. When no `set_retries` runs, the call invokes its callback at most
    `r0 + 1` times, and if every answer fails retryably, it has raised `TimeoutError` after exactly
    `r0 + 1` invocations once it has taken `3 (r0 + 1)` steps. -/
theorem wait_for_service_budget_under_interleaving (t : Threads α) (i r0 : Nat)
    (hr : t.server.retries = r0)
    (hstart : (t.waiters i).pass = .calling 0 ∧ (t.waiters i).calls = 0) :
    (∀ ops, (t.run ops).view i = (t.run (ops.filter (Op.touches i))).view i) ∧
    (∀ ops, (∀ r, .setRetries r ∉ ops) →
      ((t.run ops).waiters i).calls ≤ r0 + 1 ∧
      ((∀ n, failsRetryably ((t.waiters i).callback n)) → 3 * (r0 + 1) ≤ ops.count (.step i) →
        ((t.run ops).waiters i).pass = .raised (.timeout (timeoutMsg (t.waiters i).servicename)) ∧
        ((t.run ops).waiters i).calls = r0 + 1)) := by
  refine ⟨fun ops => run_view_own i ops t t rfl, fun ops hno => ?_⟩
  have hb := (run_budgeted r0 i ops t hno hr (by simp [Waiter.Budgeted, hstart.1, hstart.2])).2
  refine ⟨Waiter.calls_le_of_budgeted hb, fun hfail hk => ?_⟩
  have hv := congrArg Prod.fst (run_view_own i ops t t rfl)
  rw [filter_touches_of_no_set hno] at hv
  simp only [Threads.view, run_steps_of, hr] at hv
  rw [hv]
  exact iterate_times_out hfail hstart.1 hstart.2 _ hk

/-- Calls of every thread waiting for a registry that refuses them, from budget `r`. -/
def refusedThreads (r : Int) : Threads Unit :=
  ⟨Server.new "TestServer" "" r, fun _ =>
    Waiter.start "registry" (.activate .main) fun _ => .error (.ice .connectionRefused)⟩

/-- Two calls interleaved step by step from budget `2`: call `0` times out after three attempts. -/
theorem interleaved_calls_time_out :
    (refusedThreads 2).server.retries = ((2 : Nat) : Int) ∧
      ((refusedThreads 2).waiters 0).pass = .calling 0 ∧ ((refusedThreads 2).waiters 0).calls = 0 ∧
      (((refusedThreads 2).run [.step 0, .step 1, .step 0, .step 1, .step 0, .step 1, .step 0,
        .step 1, .step 0, .step 1, .step 0, .step 1, .step 0, .step 1, .step 0, .step 1, .step 0,
        .step 1]).waiters 0).pass = .raised (.timeout (timeoutMsg "registry")) := by
  have h := wait_for_service_budget_under_interleaving (refusedThreads 2) 0 2 rfl ⟨rfl, rfl⟩
  exact ⟨rfl, rfl, rfl, ((h.2 _ fun r => by simp).2 (fun _ => rfl) (by decide)).1⟩

/-- From budget `0`, a `set_retries` from another thread lands between call `0`'s read of
    `self._retries > -1` and its read of `self._retries == count` after the first failed attempt.
    With `set_retries(5)` the call does not time out but invokes its callback a second time; with
    `set_retries(-1)` it never times out: after any number `n` of further steps it is still in its
    loop and has invoked its callback `(n + 1) / 2 + 1` times. -/
theorem set_retries_between_reads_extends_call :
    (((refusedThreads 0).run [.step 0, .step 0, .setRetries 5, .step 0, .step 0]).waiters 0).calls = 2 ∧
      ∀ n, let w := ((refusedThreads 0).run ([.step 0, .step 0, .setRetries (-1), .step 0] ++
          List.replicate n (.step 0))).waiters 0
        w.pass.ends = .pending ∧ w.calls = (n + 1) / 2 + 1 := by
  refine ⟨by decide, fun n => ?_⟩
  let t := (refusedThreads 0).run [.step 0, .step 0, .setRetries (-1), .step 0]
  have ht : t.server.retries = -1 ∧ (t.waiters 0).pass = .calling 1 ∧ (t.waiters 0).calls = 1 := by
    decide
  have h := iterate_never_ends (w := t.waiters 0) (fun _ => by rfl) ht.2.1 n
  rw [Threads.run_append, run_steps_of, ht.1]
  exact ⟨h.1, by rw [h.2, ht.2.2, Nat.add_comm]⟩

end AskapIce

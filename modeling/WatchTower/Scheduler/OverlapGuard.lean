import Mathlib.Data.Finset.Basic
import WatchTower.Scheduler.Batch
import WatchTower.Scheduler.RunPool

set_option relaxedAutoImplicit false
set_option autoImplicit false

/-!
# The overlap guard

`MonitorScheduler.tick` of one instance, called by the loop and directly, at any time. A call
returns at once while another one executes. Otherwise it acquires the lease, loads the batch, adds
the monitors it admits to `inFlight`, and runs their checks in a pool; each check takes its monitor
out again when it ends, also when it throws.

## Main definitions

* `WatchTower.TickCall`, `WatchTower.TickState`, `WatchTower.TickStep` — the calls of `tick`, with
  the fields of the scheduler that they share.
* `WatchTower.OverlapGuarded` — what the guard is to achieve.

## Main results

* `WatchTower.TickState.Inv.step` — one call executes at a time, and its pool accounts for the
  checks in flight.
* `WatchTower.overlapGuarded_of_run` — the guard achieves it in every reachable state.
-/

namespace WatchTower

open Transition

/-- A call of `tick` that has passed the re-entrancy guard. -/
inductive TickCall
  /-- Awaiting `lock.acquire()`. -/
  | acquiring
  /-- Awaiting `findDueMonitors`. -/
  | finding
  /-- Awaiting `runPool`, which runs the checks of the batch. -/
  | pooling (batch : List ℕ) (tasks : List (Task Unit Unit)) (pool : PoolState Unit Unit)

/-- The fields of a scheduler that its ticks share. -/
structure TickState where
  /-- `ticking`. -/
  ticking : Bool
  /-- `inFlight`. -/
  inFlight : Finset ℕ
  /-- The calls of `tick` that are executing. -/
  calls : List TickCall
  /-- The monitors whose `runCheck` is in progress. -/
  running : List ℕ

/-- No tick has been called yet. -/
def TickState.idle : TickState := ⟨false, ∅, [], []⟩

/-- What happens. -/
inductive TickEvent
  /-- `tick()` is called. -/
  | call
  /-- The acquire of a call returns. -/
  | acquired (k : ℕ) (held : Bool)
  /-- The acquire or the query of a call rejects. -/
  | rejected (k : ℕ)
  /-- The due monitors of a call have been loaded. Some of their checks will throw. -/
  | found (k : ℕ) (now : Time) (due : List Monitor) (throws : ℕ → Bool)
  /-- A check of the pool ends. -/
  | ends (k i : ℕ)
  /-- A worker of the pool goes on. -/
  | resumes (k i : ℕ)
  /-- The pool has resolved. -/
  | pooled (k : ℕ)

/-- The monitors of some tasks of a batch. -/
def monitorsOf (batch indices : List ℕ) : List ℕ := indices.filterMap (batch[·]?)

/-- The task that checks a monitor: an `async` function, which never throws when it is called. -/
def checkTask (throws : ℕ → Bool) (id : ℕ) : Task Unit Unit :=
  if throws id then .rejects () else .resolves ()

namespace TickState

/-- A call of `tick` gets to another `await`. -/
def setCall (s : TickState) (k : ℕ) (x : TickCall) : TickState :=
  { s with calls := s.calls.set k x }

/-- A call of `tick` returns, through its `finally`. -/
def endCall (s : TickState) (k : ℕ) : TickState :=
  { s with ticking := false, calls := s.calls.eraseIdx k }

/-- A call of `tick` adds the monitors that it admits to `inFlight` and starts the pool. -/
def startPool (s : TickState) (k : ℕ) (concurrency : ℤ) (batch : List ℕ)
    (tasks : List (Task Unit Unit)) : TickState :=
  { s with
    inFlight := s.inFlight ∪ batch.toFinset
    calls := s.calls.set k (.pooling batch tasks (runPool tasks concurrency))
    running := s.running ++ monitorsOf batch (runPool tasks concurrency).started }

end TickState

/-- The steps of the ticks of a scheduler. -/
inductive TickStep (concurrency : ℤ) : TickState → TickEvent → TickState → Prop
  | busy {s : TickState} :
      s.ticking = true → TickStep concurrency s .call s
  | call {s : TickState} :
      s.ticking = false →
      TickStep concurrency s .call { s with ticking := true, calls := s.calls ++ [.acquiring] }
  | acquired {s : TickState} {k : ℕ} {held : Bool} :
      s.calls[k]? = some .acquiring →
      TickStep concurrency s (.acquired k held) (if held then s.setCall k .finding else s.endCall k)
  | rejected {s : TickState} {k : ℕ} :
      s.calls[k]? = some .acquiring ∨ s.calls[k]? = some .finding →
      TickStep concurrency s (.rejected k) (s.endCall k)
  | found {s : TickState} {k : ℕ} {now : Time} {due : List Monitor} {throws : ℕ → Bool}
      {batch : List ℕ} :
      s.calls[k]? = some .finding →
      batch = (tickTasks now s.inFlight due).map (·.1.id) →
      TickStep concurrency s (.found k now due throws)
        (if due = [] then s.endCall k
        else s.startPool k concurrency batch (batch.map (checkTask throws)))
  | ends {s : TickState} {k i id : ℕ} {batch : List ℕ} {tasks : List (Task Unit Unit)}
      {pool pool' : PoolState Unit Unit} :
      s.calls[k]? = some (.pooling batch tasks pool) → PoolStep tasks pool (.settle i) pool' →
      batch[i]? = some id →
      TickStep concurrency s (.ends k i)
        { s with
          inFlight := s.inFlight.erase id
          calls := s.calls.set k (.pooling batch tasks pool')
          running := s.running.erase id }
  | resumes {s : TickState} {k i : ℕ} {batch : List ℕ} {tasks : List (Task Unit Unit)}
      {pool pool' : PoolState Unit Unit} :
      s.calls[k]? = some (.pooling batch tasks pool) → PoolStep tasks pool (.resume i) pool' →
      TickStep concurrency s (.resumes k i)
        { s with
          calls := s.calls.set k (.pooling batch tasks pool')
          running := s.running ++ monitorsOf batch (pool'.started.drop pool.started.length) }
  | pooled {s : TickState} {k : ℕ} {batch : List ℕ} {tasks : List (Task Unit Unit)}
      {pool : PoolState Unit Unit} :
      s.calls[k]? = some (.pooling batch tasks pool) → pool.Resolved →
      TickStep concurrency s (.pooled k) (s.endCall k)

/-- A monitor that a call has admitted to its batch, and whose task has not ended. -/
def TickCall.Pending (x : TickCall) (id : ℕ) : Prop :=
  match x with
  | .pooling batch _ pool => ∃ i, batch[i]? = some id ∧ i ∉ pool.settled
  | _ => False

/-- What the overlap guard is to achieve. At most one call of `tick` executes; no monitor has two
checks in progress; `inFlight` is exactly the set of the monitors admitted to the current batch
whose task has not ended; no more checks are in progress than the pool is wide; and nothing is in
flight when no call executes. -/
structure OverlapGuarded (concurrency : ℤ) (s : TickState) : Prop where
  oneCall : s.calls.length ≤ 1
  single : s.running.Nodup
  exact : ∀ id, id ∈ s.inFlight ↔ ∃ x ∈ s.calls, x.Pending id
  bounded : (s.running.length : ℤ) ≤ max 1 concurrency
  empty : s.calls = [] → s.inFlight = ∅ ∧ s.running = []

/-! ## Pools whose tasks never throw when called -/

/-- Calling the task does not throw. -/
def Task.ReturnsPromise {V E : Type} (task : Task V E) : Prop := ∀ error, task ≠ .throws error

namespace PoolState

variable {V E : Type} {tasks : List (Task V E)} {s : PoolState V E}

/-- A worker then starts at most one task, which does not end at once. -/
lemma worker_of_async (h : ∀ task ∈ tasks, task.ReturnsPromise) :
    (s.worker tasks).settled = s.settled ∧
      ∃ new, (s.worker tasks).started = s.started ++ new ∧ ∀ i ∈ new, i = s.cursor := by
  cases tasks with
  | nil => exact ⟨rfl, [], by simp [worker], by simp⟩
  | cons task rest =>
    cases task with
    | throws error => exact absurd rfl (h _ List.mem_cons_self error)
    | resolves value => exact ⟨rfl, [s.cursor], rfl, by simp⟩
    | rejects error => exact ⟨rfl, [s.cursor], rfl, by simp⟩

/-- A pool starts with no task ended. -/
lemma settled_spawn_of_async (h : ∀ task ∈ tasks, task.ReturnsPromise) (width : ℕ) :
    (s.spawn tasks width).settled = s.settled := by
  induction width generalizing s with
  | zero => rfl
  | succ width ih =>
    rw [spawn, ih]
    exact (worker_of_async fun task htask => h task (List.mem_of_mem_drop htask)).1

/-- When a worker goes on, the tasks it starts are the newly unfinished ones. -/
lemma Inv.unfinished_resume {k i : ℕ} {s' : PoolState V E} (hs : Inv tasks k s)
    (h : ∀ task ∈ tasks, task.ReturnsPromise) (hstep : PoolStep tasks s (.resume i) s') :
    s'.settled = s.settled ∧
      s'.unfinished = s.unfinished ++ s'.started.drop s.started.length := by
  cases hstep with
  | @resume _ task hi hsettled htask =>
    obtain ⟨hsame, new, hstarted, hnew⟩ := worker_of_async (s := s.record i task)
      fun task htask => h task (List.mem_of_mem_drop (i := s.cursor) htask)
    refine ⟨hsame, ?_⟩
    rw [unfinished, hsame, hstarted]
    change (s.started ++ new).filter (· ∉ s.settled) =
      s.unfinished ++ (s.started ++ new).drop s.started.length
    rw [List.filter_append, List.drop_left, unfinished]
    congr 1
    rw [List.filter_eq_self]
    intro j hj
    have hcursor : j = s.cursor := hnew j hj
    simp only [decide_eq_true_eq]
    intro hmem
    have := hs.settled_lt j hmem
    omega

end PoolState

/-! ## The invariant -/

/-- What holds while the checks of a batch run: the ids are distinct, the tasks are one for each,
and the pool accounts for the checks in flight and in progress. -/
structure PoolingInv (concurrency : ℤ) (batch : List ℕ) (tasks : List (Task Unit Unit))
    (pool : PoolState Unit Unit) (inFlight : Finset ℕ) (running : List ℕ) : Prop where
  nodup : batch.Nodup
  length : tasks.length = batch.length
  promises : ∀ task ∈ tasks, task.ReturnsPromise
  shared : pool.Inv tasks (poolWidth concurrency tasks.length)
  inFlight : ∀ id, id ∈ inFlight ↔ ∃ i, batch[i]? = some id ∧ i ∉ pool.settled
  running : running.Perm (monitorsOf batch pool.unfinished)

/-- What holds while a call of `tick` executes. -/
def TickCall.Inv (concurrency : ℤ) (inFlight : Finset ℕ) (running : List ℕ) : TickCall → Prop
  | .pooling batch tasks pool => PoolingInv concurrency batch tasks pool inFlight running
  | _ => inFlight = ∅ ∧ running = []

/-- No call executes and nothing is in flight, or one call executes. -/
def TickState.Inv (concurrency : ℤ) (s : TickState) : Prop :=
  (s.ticking = false ∧ s.calls = [] ∧ s.inFlight = ∅ ∧ s.running = []) ∨
    (s.ticking = true ∧ ∃ x, s.calls = [x] ∧ x.Inv concurrency s.inFlight s.running)

variable {concurrency : ℤ} {s s' : TickState} {e : TickEvent} {batch : List ℕ}
  {tasks : List (Task Unit Unit)} {pool pool' : PoolState Unit Unit} {inFlight : Finset ℕ}
  {running : List ℕ} {i id : ℕ}

/-- The call that does something is the only one. -/
lemma TickState.Inv.of_call (h : s.Inv concurrency) {k : ℕ} {x : TickCall}
    (hk : s.calls[k]? = some x) :
    k = 0 ∧ s.calls = [x] ∧ s.ticking = true ∧ x.Inv concurrency s.inFlight s.running := by
  rcases h with ⟨-, hnone, -⟩ | ⟨hticking, y, hone, hy⟩
  · rw [hnone] at hk
    cases hk
  · rw [hone, List.getElem?_singleton] at hk
    split_ifs at hk with hzero
    obtain rfl := Option.some.inj hk
    exact ⟨hzero, hone, hticking, hy⟩

/-- When the only call returns, no call executes. -/
lemma TickState.inv_endCall {x : TickCall} (hone : s.calls = [x]) (hflight : s.inFlight = ∅)
    (hrunning : s.running = []) : (s.endCall 0).Inv concurrency := by
  refine .inl ⟨rfl, ?_, hflight, hrunning⟩
  simp [endCall, hone]

/-- Different tasks of a batch are of different monitors. -/
lemma monitorsOf_nodup (hbatch : batch.Nodup) {l : List ℕ} (hl : l.Nodup) :
    (monitorsOf batch l).Nodup := by
  refine hl.filterMap fun i j id hi hj => ?_
  obtain ⟨hlt, hi'⟩ := List.getElem?_eq_some_iff.1 hi
  exact (List.getElem?_inj hlt hbatch).1 (hi.trans hj.symm)

/-- A pool starts with all of its batch in flight. -/
lemma poolingInv_start (hbatch : batch.Nodup) (throws : ℕ → Bool) :
    PoolingInv concurrency batch (batch.map (checkTask throws))
      (runPool (batch.map (checkTask throws)) concurrency) batch.toFinset
      (monitorsOf batch (runPool (batch.map (checkTask throws)) concurrency).started) := by
  have hpromises : ∀ task ∈ batch.map (checkTask throws), task.ReturnsPromise := by
    intro task htask error
    obtain ⟨id, -, rfl⟩ := List.mem_map.1 htask
    unfold checkTask
    split_ifs
    · simp
    · simp
  have hsettled : (runPool (batch.map (checkTask throws)) concurrency).settled = [] :=
    PoolState.settled_spawn_of_async hpromises _
  refine ⟨hbatch, by simp, hpromises, PoolState.inv_runPool _ _, fun id => ?_, ?_⟩
  · rw [hsettled, List.mem_toFinset, List.mem_iff_getElem?]
    simp
  · rw [PoolState.unfinished, hsettled, List.filter_eq_self.2 (by simp)]

/-- When a check ends, its monitor is no longer in flight. -/
lemma PoolingInv.ends (h : PoolingInv concurrency batch tasks pool inFlight running)
    (hstep : PoolStep tasks pool (.settle i) pool') (hid : batch[i]? = some id) :
    PoolingInv concurrency batch tasks pool' (inFlight.erase id) (running.erase id) := by
  have hpool := h.shared.step hstep
  cases hstep with
  | settle hi hnot =>
    have hmem : i ∈ pool.unfinished := h.shared.mem_unfinished hi hnot
    have hnodup := h.shared.nodup_unfinished
    refine ⟨h.nodup, h.length, h.promises, hpool, fun j => ?_, ?_⟩
    · rw [Finset.mem_erase, h.inFlight]
      constructor
      · rintro ⟨hne, n, hn, hsettled⟩
        refine ⟨n, hn, ?_⟩
        rw [List.mem_append, List.mem_singleton, not_or]
        refine ⟨hsettled, ?_⟩
        rintro rfl
        exact hne (Option.some.inj (hn.symm.trans hid))
      · rintro ⟨n, hn, hsettled⟩
        rw [List.mem_append, List.mem_singleton, not_or] at hsettled
        refine ⟨?_, n, hn, hsettled.1⟩
        rintro rfl
        obtain ⟨hlt, -⟩ := List.getElem?_eq_some_iff.1 hn
        exact hsettled.2 ((List.getElem?_inj hlt h.nodup).1 (hn.trans hid.symm))
    · have hrest : pool.unfinished.filter (· ≠ i) = pool.unfinished.erase i := by
        rw [hnodup.erase_eq_filter]
        refine List.filter_congr fun j _ => ?_
        by_cases hj : j = i <;> simp [hj]
      rw [PoolState.unfinished_settle, hrest]
      have hperm : (monitorsOf batch pool.unfinished).Perm
          (id :: monitorsOf batch (pool.unfinished.erase i)) := by
        have := (List.perm_cons_erase hmem).filterMap (batch[·]?)
        rwa [List.filterMap_cons_some hid] at this
      have herase := (h.running.trans hperm).erase id
      rwa [List.erase_cons_head] at herase

/-- When a worker goes on, the checks it starts are in progress. -/
lemma PoolingInv.resumes (h : PoolingInv concurrency batch tasks pool inFlight running)
    (hstep : PoolStep tasks pool (.resume i) pool') :
    PoolingInv concurrency batch tasks pool' inFlight
      (running ++ monitorsOf batch (pool'.started.drop pool.started.length)) := by
  obtain ⟨hsettled, hunfinished⟩ := h.shared.unfinished_resume h.promises hstep
  refine ⟨h.nodup, h.length, h.promises, h.shared.step hstep, fun id => ?_, ?_⟩
  · rw [h.inFlight, hsettled]
  · rw [hunfinished, monitorsOf, monitorsOf, List.filterMap_append]
    exact h.running.append_right _

/-- When the pool has resolved, nothing is in flight. -/
lemma PoolingInv.resolved (h : PoolingInv concurrency batch tasks pool inFlight running)
    (hresolved : pool.Resolved) : inFlight = ∅ ∧ running = [] := by
  have hend := h.shared.cursor_eq_of_resolved hresolved
  have haccounted := h.shared.accounted
  rw [PoolState.Resolved] at hresolved
  rw [hend, hresolved] at haccounted
  constructor
  · rw [Finset.eq_empty_iff_forall_notMem]
    intro id hid
    obtain ⟨i, hi, hnot⟩ := (h.inFlight id).1 hid
    obtain ⟨hlt, -⟩ := List.getElem?_eq_some_iff.1 hi
    rcases haccounted i (by rw [h.length]; exact hlt) with hmem | hmem
    · cases hmem
    · exact hnot hmem
  · have hnone : pool.unfinished = [] := by
      refine List.eq_nil_iff_forall_not_mem.2 fun i hi => ?_
      have := h.shared.unfinished_subset i hi
      rw [hresolved] at this
      cases this
    have := h.running
    rw [hnone] at this
    exact this.eq_nil

/-- **Every step keeps the invariant.** -/
theorem TickState.Inv.step (h : s.Inv concurrency) (hstep : TickStep concurrency s e s') :
    s'.Inv concurrency := by
  cases hstep with
  | busy => exact h
  | call hidle =>
    rcases h with ⟨-, hcalls, hflight, hrunning⟩ | ⟨hticking, -⟩
    · exact .inr ⟨rfl, .acquiring, by simp [hcalls], hflight, hrunning⟩
    · rw [hidle] at hticking
      cases hticking
  | acquired hk =>
    obtain ⟨rfl, hone, hticking, hflight, hrunning⟩ := h.of_call hk
    split_ifs
    · exact .inr ⟨hticking, .finding, by simp [TickState.setCall, hone], hflight, hrunning⟩
    · exact TickState.inv_endCall hone hflight hrunning
  | rejected hk =>
    rcases hk with hk | hk
    · obtain ⟨rfl, hone, -, hflight, hrunning⟩ := h.of_call hk
      exact TickState.inv_endCall hone hflight hrunning
    · obtain ⟨rfl, hone, -, hflight, hrunning⟩ := h.of_call hk
      exact TickState.inv_endCall hone hflight hrunning
  | @found k now due throws batch hk hbatch =>
    obtain ⟨rfl, hone, hticking, hflight, hrunning⟩ := h.of_call hk
    split_ifs
    · exact TickState.inv_endCall hone hflight hrunning
    · refine .inr ⟨hticking, _, by simp only [TickState.startPool, hone]; rfl, ?_⟩
      simp only [TickState.startPool, hflight, hrunning, Finset.empty_union, List.nil_append]
      refine poolingInv_start ?_ throws
      rw [hbatch]
      exact nodup_tickTasks _ _ _
  | ends hk hpool hid =>
    obtain ⟨rfl, hone, hticking, hcall⟩ := h.of_call hk
    have hnext : PoolingInv concurrency _ _ _ _ _ := PoolingInv.ends hcall hpool hid
    exact .inr ⟨hticking, .pooling _ _ _, by simp only [hone]; rfl, hnext⟩
  | resumes hk hpool =>
    obtain ⟨rfl, hone, hticking, hcall⟩ := h.of_call hk
    have hnext : PoolingInv concurrency _ _ _ _ _ := PoolingInv.resumes hcall hpool
    exact .inr ⟨hticking, .pooling _ _ _, by simp only [hone]; rfl, hnext⟩
  | pooled hk hresolved =>
    obtain ⟨rfl, hone, -, hcall⟩ := h.of_call hk
    obtain ⟨hflight, hrunning⟩ := PoolingInv.resolved hcall hresolved
    exact TickState.inv_endCall hone hflight hrunning

/-- **The guard achieves what it is to achieve** where the invariant holds. -/
theorem TickState.Inv.overlapGuarded (h : s.Inv concurrency) : OverlapGuarded concurrency s := by
  rcases h with ⟨-, hcalls, hflight, hrunning⟩ | ⟨-, x, hone, hx⟩
  · refine ⟨by simp [hcalls], by simp [hrunning], by simp [hflight, hcalls], ?_, fun _ =>
      ⟨hflight, hrunning⟩⟩
    rw [hrunning]
    simp
  · refine ⟨by simp [hone], ?_, ?_, ?_, by simp [hone]⟩
    · cases x with
      | acquiring => simp [hx.2]
      | finding => simp [hx.2]
      | pooling batch tasks pool =>
        exact hx.running.nodup_iff.2 (monitorsOf_nodup hx.nodup hx.shared.nodup_unfinished)
    · intro id
      simp only [hone, List.mem_singleton, exists_eq_left]
      cases x with
      | acquiring => simp [hx.1, TickCall.Pending]
      | finding => simp [hx.1, TickCall.Pending]
      | pooling batch tasks pool => exact hx.inFlight id
    · cases x with
      | acquiring => simp [hx.2]
      | finding => simp [hx.2]
      | pooling batch tasks pool =>
        have hle : (monitorsOf batch pool.unfinished).length ≤ pool.unfinished.length :=
          List.length_filterMap_le _ _
        have hwidth := hx.shared.length_unfinished_le
        rw [hx.running.length_eq]
        unfold poolWidth at hwidth
        omega

/-- **The overlap guard**: in every state that one scheduler reaches by any calls of `tick`, by the
loop or directly, with checks of any duration that may throw. -/
theorem overlapGuarded_of_run (concurrency : ℤ) {es : List TickEvent}
    (hrun : Run (TickStep concurrency) .idle es s) : OverlapGuarded concurrency s := by
  have hinv : ∀ s e s', TickState.Inv concurrency s → TickStep concurrency s e s' →
      TickState.Inv concurrency s' := fun _ _ _ => TickState.Inv.step
  exact (hrun.invariant hinv (.inl ⟨rfl, rfl, rfl, rfl⟩)).overlapGuarded

/-- A batch of two checks, the second of which throws, and a call of `tick` while they run. -/
theorem overlapGuarded_of_run_two_checks :
    ∃ s, s.inFlight = {1} ∧ s.running = [1] ∧ OverlapGuarded 10 s := by
  have hrun : ∃ s, Run (TickStep 10) .idle [.call, .acquired 0 true,
      .found 0 0 [.fresh 1 none "http://a.test/" 0, .fresh 2 none "http://b.test/" 0] (· = 2),
      .ends 0 1, .call] s ∧ s.inFlight = {1} ∧ s.running = [1] := by
    apply Exists.intro
    apply And.intro
    · apply Run.cons (TickStep.call rfl)
      apply Run.cons (TickStep.acquired rfl)
      apply Run.cons (TickStep.found rfl rfl)
      apply Run.cons (TickStep.ends rfl (.settle (by decide) (by decide))
        (show [1, 2][1]? = some 2 from rfl))
      apply Run.cons (TickStep.busy rfl)
      exact .nil _
    · exact ⟨by decide, by decide⟩
  obtain ⟨s, hrun, hflight, hrunning⟩ := hrun
  exact ⟨s, hflight, hrunning, overlapGuarded_of_run 10 hrun⟩

end WatchTower

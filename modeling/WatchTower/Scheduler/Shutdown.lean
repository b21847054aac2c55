import WatchTower.Scheduler.Leader

set_option relaxedAutoImplicit false
set_option autoImplicit false

/-!
# Stopping the scheduler

The life of one `MonitorScheduler`, from `start()` to the end of `stop()`. The loop awaits a tick
and then sets its timer again; `stop()` clears the timer, waits for the checks in flight, releases
the lease and resolves. The tick may be suspended at any of its awaits meanwhile, for any time,
and the other instances use the lock as they like.

`stop()` waits for the checks that are in flight, and for nothing else. A tick that is suspended at
`lock.acquire()` or `findDueMonitors()` has none in flight yet: it goes on after `stop()` has
resolved.

The scheduler is started and stopped once. A `stop()` that does not find the loop running returns
at once and is left out.

## Main definitions

* `WatchTower.Lifecycle`, `WatchTower.LifecycleStep` — the scheduler, with the lock.
* `WatchTower.StopsForGood` — the law: once `stop()` has resolved, no check is started and the
  lease is not held.
* `WatchTower.LeavesNothingOver` — the condition: a tick that is suspended when `stop()` stops
  waiting gets neither the lease nor a check that it starts later.

## Main results

* `WatchTower.Draining.step` — the invariant under the condition.
* `WatchTower.stopsForGood_of_leavesNothingOver` — the law, along every run under the condition.
-/

namespace WatchTower

open Transition Lease

/-- The options of a `MonitorScheduler` and its lock. -/
structure SchedulerOptions where
  /-- `enabled`. -/
  enabled : Bool
  /-- `concurrency`. -/
  concurrency : ℕ
  /-- `shutdownGraceMs`. -/
  shutdownGraceMs : ℕ
  /-- `lock.ttlMs`. -/
  ttlMs : ℕ

/-- The defaults. -/
def schedulerOptions : SchedulerOptions :=
  ⟨true, schedulerConfig.concurrency, 10000, schedulerConfig.lockTtlMs⟩

/-- Where the scheduler is in `stop()`. -/
inductive Stopping
  /-- It has not been called. -/
  | notCalled
  /-- Waiting for the checks in flight, until a deadline. -/
  | waiting (deadline : Time)
  /-- Awaiting `lock.release()`, after a warning that checks are still in flight, or without. -/
  | releasing (warned : Bool)
  /-- It has resolved. -/
  | resolved (warned : Bool)
  deriving DecidableEq

/-- The scheduler has stopped waiting, without the warning. -/
def Stopping.drained : Stopping → Bool
  | .releasing warned | .resolved warned => !warned
  | _ => false

/-- Either it is about to resolve, or it has. -/
lemma Stopping.drained_iff {st : Stopping} :
    st.drained = true ↔ st = .releasing false ∨ st = .resolved false := by
  cases st <;> simp [Stopping.drained]

/-- A scheduler, with the lock that it shares. -/
structure Lifecycle (ι : Type) where
  /-- The lock, and what the instances do with it. -/
  lock : LockState ι
  /-- `running`. -/
  running : Bool
  /-- Whether the timer of the loop is set. -/
  timer : Bool
  /-- Where the tick is; `ticking` unless it is idle. -/
  work : Work
  /-- `inFlight`. -/
  inFlight : List ℕ
  /-- The checks started so far, oldest first. -/
  started : List ℕ
  /-- Where `stop()` is. -/
  stopping : Stopping

/-- A scheduler that has not been started. -/
def Lifecycle.init {ι : Type} (clock : Time) (doc : Option (LockDoc ι)) : Lifecycle ι where
  lock := .init clock doc
  running := false
  timer := false
  work := .idle
  inFlight := []
  started := []
  stopping := .notCalled

/-- What happens. -/
inductive LifecycleEvent (ι : Type)
  /-- A step of the database or of another instance, or time passes. -/
  | lock (e : LockEvent ι)
  /-- `start()` is called. -/
  | start
  /-- The timer of the loop fires. -/
  | fire
  /-- The acquire of the tick returns. -/
  | acquired (held : Bool)
  /-- The due monitors have been loaded; these are not skipped. -/
  | found (due : List ℕ)
  /-- Loading them fails. -/
  | findFailed
  /-- A check ends. -/
  | finish (monitor : ℕ)
  /-- `stop()` is called. -/
  | stop
  /-- `stop()` looks again at the checks in flight. -/
  | poll
  /-- `stop()` resolves. -/
  | resolve

variable {ι : Type}

/-- A step of the lock that the scheduler itself takes, in its tick or in `stop()`. -/
def LockEvent.isCallOf (self : ι) : LockEvent ι → Prop
  | .acquire i | .acquired i _ | .release i => i = self
  | _ => False

namespace Lifecycle

/-- The tick ends, and the loop sets its timer again if it is to go on. -/
def endTick (s : Lifecycle ι) : Lifecycle ι :=
  { s with work := .idle, timer := s.timer || s.running }

/-- The tick awaits its pool, or ends. -/
def awaitPool (s : Lifecycle ι) (leaseFrom : Time) (pool : Pool) : Lifecycle ι :=
  if pool.done then s.endTick else { s with work := .checking leaseFrom pool }

/-- `start()`. -/
def start (s : Lifecycle ι) (opts : SchedulerOptions) : Lifecycle ι :=
  if opts.enabled && !s.running then { s with running := true, timer := true } else s

end Lifecycle

variable [DecidableEq ι]

/-- `stop()` looks at the checks in flight: it waits, or releases the lease. -/
inductive Polls (opts : SchedulerOptions) (self : ι) (deadline : Time) :
    Lifecycle ι → Lifecycle ι → Prop
  | waits {s : Lifecycle ι} :
      s.inFlight ≠ [] → s.lock.clock < deadline →
      Polls opts self deadline s { s with stopping := .waiting deadline }
  | releases {s : Lifecycle ι} {lock : LockState ι} :
      s.inFlight = [] ∨ deadline ≤ s.lock.clock →
      LockStep opts.ttlMs s.lock (.release self) lock →
      Polls opts self deadline s
        { s with lock := lock, stopping := .releasing (!s.inFlight.isEmpty) }

/-- The steps of the scheduler and of everybody else. -/
inductive LifecycleStep (opts : SchedulerOptions) (self : ι) :
    Lifecycle ι → LifecycleEvent ι → Lifecycle ι → Prop
  | lock {s : Lifecycle ι} {e : LockEvent ι} {lock : LockState ι} :
      ¬e.isCallOf self → LockStep opts.ttlMs s.lock e lock →
      LifecycleStep opts self s (.lock e) { s with lock := lock }
  | start {s : Lifecycle ι} :
      s.stopping = .notCalled → LifecycleStep opts self s .start (s.start opts)
  | fire {s : Lifecycle ι} {lock : LockState ι} :
      s.timer = true → s.running = true → s.work = .idle →
      LockStep opts.ttlMs s.lock (.acquire self) lock →
      LifecycleStep opts self s .fire
        { s with lock := lock, timer := false, work := .acquiring }
  | acquired {s : Lifecycle ι} {held : Bool} {now : Time}
      {answer : Except JsError (LockDoc ι)} {lock : LockState ι} :
      s.work = .acquiring → s.lock.acquiring self = .answered now answer →
      LockStep opts.ttlMs s.lock (.acquired self held) lock →
      LifecycleStep opts self s (.acquired held)
        (if held then { s with lock := lock, work := .finding now }
        else { s with lock := lock }.endTick)
  | found {s : Lifecycle ι} {leaseFrom : Time} {due : List ℕ} :
      s.work = .finding leaseFrom → due.Nodup → due.length ≤ maxBatch →
      (∀ monitor ∈ due, monitor ∉ s.inFlight) →
      LifecycleStep opts self s (.found due)
        ({ s with
          inFlight := s.inFlight ++ due
          started := s.started ++ (Pool.start opts.concurrency due).running }.awaitPool leaseFrom
            (Pool.start opts.concurrency due))
  | findFailed {s : Lifecycle ι} {leaseFrom : Time} :
      s.work = .finding leaseFrom → LifecycleStep opts self s .findFailed s.endTick
  | finish {s : Lifecycle ι} {leaseFrom : Time} {pool : Pool} {monitor : ℕ} :
      s.work = .checking leaseFrom pool → monitor ∈ pool.running →
      LifecycleStep opts self s (.finish monitor)
        ({ s with
          inFlight := s.inFlight.erase monitor
          started := s.started ++ (pool.finish monitor).2 }.awaitPool leaseFrom
            (pool.finish monitor).1)
  | stop {s s' : Lifecycle ι} :
      s.running = true → s.stopping = .notCalled →
      Polls opts self (s.lock.clock + opts.shutdownGraceMs)
        { s with running := false, timer := false } s' →
      LifecycleStep opts self s .stop s'
  | poll {s s' : Lifecycle ι} {deadline : Time} :
      s.stopping = .waiting deadline → Polls opts self deadline s s' →
      LifecycleStep opts self s .poll s'
  | resolve {s : Lifecycle ι} {warned : Bool} :
      s.stopping = .releasing warned → s.lock.releasing self = 0 →
      LifecycleStep opts self s .resolve { s with stopping := .resolved warned }

/-- **The law**: once `stop()` has resolved without the warning, no check is started, and the lock
document does not name the instance. -/
def StopsForGood (self : ι) (s : Lifecycle ι) (_ : LifecycleEvent ι) (s' : Lifecycle ι) : Prop :=
  (s.stopping = .resolved false → s'.started = s.started) ∧
    (s'.stopping = .resolved false → ∀ d, s'.lock.doc = some d → d.owner ≠ self)

/-- **The condition.** When `stop()` stops waiting, a lock document that names the instance is known
to it as its own lease. From then on, an upsert of its acquire finds another instance's lease in
force, unless the deletion of `release()` is still to come; and the tick finds no more due monitors
than the pool starts at once, and none when `stop()` has resolved. -/
def LeavesNothingOver (opts : SchedulerOptions) (self : ι) (s : Lifecycle ι)
    (e : LifecycleEvent ι) (_ : Lifecycle ι) : Prop :=
  match e with
  | .stop | .poll => s.inFlight = [] → ∀ d, s.lock.doc = some d → d.owner = self →
      s.lock.isLeader self = true
  | .lock (.write i) => i = self → s.stopping.drained = true → s.lock.releasing self = 0 →
      ∃ d, s.lock.doc = some d ∧ d.owner ≠ self ∧
        ∀ now, s.lock.acquiring self = .pending now → now < d.expiresAt
  | .found due => (s.stopping = .releasing false → due.length ≤ max 1 opts.concurrency) ∧
      (s.stopping = .resolved false → due = [])
  | _ => True

variable {opts : SchedulerOptions} {self : ι} {s s' : Lifecycle ι} {e : LifecycleEvent ι}

/-! ## Steps of the lock -/

/-- A lock document of `i` that is there after a step was there before, unless `i` has written. -/
lemma LockStep.owned_before {ttlMs : ℕ} {l l' : LockState ι} {le : LockEvent ι} {i : ι}
    {d : LockDoc ι} (h : LockStep ttlMs l le l') (he : le ≠ .write i) (hd : l'.doc = some d)
    (howner : d.owner = i) : l.doc = some d := by
  cases h with
  | @write j now hj =>
    have hij : j ≠ i := fun hij => he (hij ▸ rfl)
    rcases lockWrite_cases ttlMs l.doc j now with ⟨d', hw, howner', -⟩ | ⟨err, hw⟩
    · simp only [hw, Option.some.injEq] at hd
      exact absurd (by rw [← howner', hd, howner]) hij
    · simpa only [hw] using hd
  | delete => exact (Option.filter_eq_some_iff.1 hd).1
  | sweep => cases hd
  | release => split_ifs at hd <;> exact hd
  | _ => exact hd

/-- The deletions that an instance has under way change when it releases or deletes. -/
lemma LockStep.releasing_eq {ttlMs : ℕ} {l l' : LockState ι} {le : LockEvent ι} {i : ι}
    (h : LockStep ttlMs l le l') (hrelease : le ≠ .release i) (hdelete : le ≠ .delete i) :
    l'.releasing i = l.releasing i := by
  cases h with
  | @release j =>
    have hij : i ≠ j := fun hij => hrelease (hij ▸ rfl)
    split_ifs
    · exact Function.update_of_ne hij _ _
    · rfl
  | @delete j n hn =>
    have hij : i ≠ j := fun hij => hdelete (hij ▸ rfl)
    exact Function.update_of_ne hij _ _
  | _ => rfl

/-- Whenever the lock document names an instance, a deletion of it is under way. -/
def Released (i : ι) (l : LockState ι) : Prop :=
  ∀ d, l.doc = some d → d.owner = i → l.releasing i ≠ 0

/-- This stays so, unless the instance gets the lease again. -/
lemma Released.step {ttlMs : ℕ} {l l' : LockState ι} {le : LockEvent ι} {i : ι}
    (hl : Released i l) (h : LockStep ttlMs l le l') (hrelease : le ≠ .release i)
    (hwrite : le = .write i → l.releasing i = 0 → ∃ d, l.doc = some d ∧ d.owner ≠ i ∧
      ∀ now, l.acquiring i = .pending now → now < d.expiresAt) : Released i l' := by
  intro d hd howner
  by_cases hw : le = .write i
  · subst hw
    intro hnone
    rw [h.releasing_eq hrelease (by simp)] at hnone
    obtain ⟨d₀, hd₀, hother, hlive⟩ := hwrite rfl hnone
    cases h with
    | @write _ now hi =>
      rcases lockWrite_cases ttlMs l.doc i now with ⟨d', -, -, -, hfree⟩ | ⟨err, hfails⟩
      · rcases hfree d₀ hd₀ with hexpired | hown
        · exact absurd hexpired (not_le.2 (hlive now hi))
        · exact hother hown
      · simp only [hfails] at hd
        obtain rfl := Option.some.inj (hd.symm.trans hd₀)
        exact hother howner
  · have hbefore := h.owned_before hw hd howner
    by_cases hdelete : le = .delete i
    · subst hdelete
      cases h with
      | delete =>
        have hkept := (Option.filter_eq_some_iff.1 hd).2
        simp [howner] at hkept
    · rw [h.releasing_eq hrelease hdelete]
      exact hl d hbefore howner

/-! ## The pool -/

/-- A pool that starts with tasks is not done. -/
lemma Pool.waiting_start {limit : ℕ} {tasks : List ℕ}
    (h : (Pool.start limit tasks).running = []) : (Pool.start limit tasks).waiting = [] := by
  simp only [Pool.start, List.take_eq_nil_iff] at h ⊢
  rcases h with hwidth | rfl
  · omega
  · exact List.drop_nil

/-- No more tasks than workers are started at once. -/
lemma Pool.waiting_start_of_le {limit : ℕ} {tasks : List ℕ} (h : tasks.length ≤ max 1 limit) :
    (Pool.start limit tasks).waiting = [] := by
  simp only [Pool.start, List.drop_eq_nil_iff]
  omega

/-- The pool starts with all of its tasks. -/
lemma Pool.perm_start (limit : ℕ) (tasks : List ℕ) :
    ((Pool.start limit tasks).waiting ++ (Pool.start limit tasks).running).Perm tasks := by
  simp only [Pool.start]
  exact List.perm_append_comm.trans (by rw [List.take_append_drop])

/-- A pool in which no task is waiting starts none. -/
lemma Pool.finish_of_waiting {p : Pool} (task : ℕ) (h : p.waiting = []) :
    p.finish task = (⟨[], p.running.erase task⟩, []) := by
  simp only [Pool.finish, h]

/-- A pool that is done has no task waiting. -/
lemma Pool.waiting_finish {p : Pool} {task : ℕ} (h : (p.finish task).1.running = []) :
    (p.finish task).1.waiting = [] := by
  unfold Pool.finish at h ⊢
  split at h
  · rfl
  · cases h

/-- When a task ends, the others remain. -/
lemma Pool.perm_finish {p : Pool} {task : ℕ} (h : task ∈ p.running) {inFlight : List ℕ}
    (hperm : (p.waiting ++ p.running).Perm inFlight) :
    ((p.finish task).1.waiting ++ (p.finish task).1.running).Perm (inFlight.erase task) := by
  have herase : (p.waiting ++ p.running.erase task).Perm (inFlight.erase task) := by
    have hswap : ((p.running ++ p.waiting).erase task).Perm (inFlight.erase task) :=
      (List.perm_append_comm.trans hperm).erase task
    rw [List.erase_append_left _ h] at hswap
    exact List.perm_append_comm.trans hswap
  unfold Pool.finish
  split
  · next hwaiting => simpa [hwaiting] using herase
  · next next waiting hwaiting =>
    rw [hwaiting] at herase
    exact List.perm_middle.trans herase

/-- The tasks of the pool are in flight, and nothing else is. -/
def Work.TasksAre (inFlight : List ℕ) : Work → Prop
  | .checking _ pool => pool.running ≠ [] ∧ (pool.waiting ++ pool.running).Perm inFlight
  | _ => inFlight = []

/-- Every task of the pool has been started. -/
def Work.AllStarted : Work → Prop
  | .checking _ pool => pool.waiting = []
  | _ => True

namespace Lifecycle

omit [DecidableEq ι]

variable (s : Lifecycle ι) (t : Time) (pool : Pool)

@[simp] lemma awaitPool_lock : (s.awaitPool t pool).lock = s.lock := by
  unfold awaitPool
  split_ifs <;> rfl

@[simp] lemma awaitPool_running : (s.awaitPool t pool).running = s.running := by
  unfold awaitPool
  split_ifs <;> rfl

@[simp] lemma awaitPool_stopping : (s.awaitPool t pool).stopping = s.stopping := by
  unfold awaitPool
  split_ifs <;> rfl

@[simp] lemma awaitPool_inFlight : (s.awaitPool t pool).inFlight = s.inFlight := by
  unfold awaitPool
  split_ifs <;> rfl

@[simp] lemma awaitPool_started : (s.awaitPool t pool).started = s.started := by
  unfold awaitPool
  split_ifs <;> rfl

variable {s t pool}

/-- Awaiting a pool of the tasks in flight. -/
lemma tasksAre_awaitPool (hperm : (pool.waiting ++ pool.running).Perm s.inFlight)
    (hdone : pool.running = [] → pool.waiting = []) :
    (s.awaitPool t pool).work.TasksAre s.inFlight := by
  unfold awaitPool
  split_ifs with h
  · have hrunning : pool.running = [] := List.isEmpty_iff.1 h
    rw [hdone hrunning, hrunning] at hperm
    exact hperm.nil_eq.symm
  · exact ⟨fun hrunning => h (List.isEmpty_iff.2 hrunning), hperm⟩

/-- Awaiting a pool in which no task is waiting. -/
lemma allStarted_awaitPool (h : pool.waiting = []) : (s.awaitPool t pool).work.AllStarted := by
  unfold awaitPool
  split_ifs
  · trivial
  · exact h

end Lifecycle

/-! ## The invariant -/

/-- What holds of a scheduler that stops under the condition: once it has stopped waiting, it has
no check left to start, and the lease is released. -/
structure Draining (i : ι) (s : Lifecycle ι) : Prop where
  /-- The checks in flight are the tasks of the pool. -/
  tasks : s.work.TasksAre s.inFlight
  /-- None of them is still to be started when it has stopped waiting. -/
  idle : s.stopping.drained = true → s.work.AllStarted
  /-- The lease is released, or about to be. -/
  released : s.stopping.drained = true → Released i s.lock
  /-- It is released when `stop()` has resolved. -/
  resolved : s.stopping = .resolved false → s.lock.releasing i = 0

omit [DecidableEq ι] in
/-- With nothing in flight, no pool is awaited. -/
lemma Work.allStarted_of_tasksAre {w : Work} (h : w.TasksAre []) : w.AllStarted := by
  cases w with
  | checking t pool =>
    obtain ⟨-, hperm⟩ := h
    exact (List.append_eq_nil_iff.1 hperm.eq_nil).1
  | _ => trivial

omit [DecidableEq ι] in
/-- It holds before the scheduler is started. -/
lemma draining_init (clock : Time) (doc : Option (LockDoc ι)) :
    Draining self (.init clock doc) where
  tasks := rfl
  idle h := by cases h
  released h := by cases h
  resolved h := by cases h

/-- A step of the lock by another instance, or by the tick, keeps it. -/
lemma Draining.lockStep (hs : Draining self s) {le : LockEvent ι} {lock : LockState ι}
    (h : LockStep opts.ttlMs s.lock le lock) (hrelease : le ≠ .release self)
    (hwrite : le = .write self → s.stopping.drained = true → s.lock.releasing self = 0 →
      ∃ d, s.lock.doc = some d ∧ d.owner ≠ self ∧
        ∀ now, s.lock.acquiring self = .pending now → now < d.expiresAt) :
    Draining self { s with lock := lock } where
  tasks := hs.tasks
  idle := hs.idle
  released hdrained := (hs.released hdrained).step h hrelease fun he => hwrite he hdrained
  resolved hresolved := by
    have hzero : s.lock.releasing self = 0 := hs.resolved hresolved
    by_cases hdelete : le = .delete self
    · subst hdelete
      cases h with
      | delete hn => simp [hzero] at hn
    · exact (h.releasing_eq hrelease hdelete).trans hzero

/-- When `stop()` stops waiting without the warning, nothing is in flight; and if the instance has
the lease, it deletes the lock document. -/
lemma Draining.polls {deadline : Time} (hs : Draining self s)
    (hown : s.inFlight = [] → ∀ d, s.lock.doc = some d → d.owner = self →
      s.lock.isLeader self = true) (h : Polls opts self deadline s s') : Draining self s' := by
  cases h with
  | waits =>
    refine ⟨hs.tasks, fun h => ?_, fun h => ?_, fun h => ?_⟩
    · cases h
    · cases h
    · cases h
  | releases _ hlock =>
    have hidle : Stopping.drained (.releasing (!s.inFlight.isEmpty)) = true → s.inFlight = [] := by
      simp [Stopping.drained]
    refine ⟨hs.tasks, fun h => ?_, fun h => ?_, fun h => ?_⟩
    · exact Work.allStarted_of_tasksAre (hidle h ▸ hs.tasks)
    · cases hlock
      intro d hd howner
      have hleader : s.lock.isLeader self = true := by
        refine hown (hidle h) d ?_ howner
        split_ifs at hd <;> exact hd
      simp [hleader]
    · cases h

omit [DecidableEq ι] in
/-- The tick may go on, if what it then awaits are the checks in flight, and it starts none after
`stop()` has stopped waiting. -/
lemma Draining.setWork (hs : Draining self s) (hlock : s'.lock = s.lock)
    (hstopping : s'.stopping = s.stopping) (htasks : s'.work.TasksAre s'.inFlight)
    (hidle : s.stopping.drained = true → s'.work.AllStarted) : Draining self s' where
  tasks := htasks
  idle h := hidle (hstopping ▸ h)
  released h := hlock ▸ hs.released (hstopping ▸ h)
  resolved h := hlock ▸ hs.resolved (hstopping ▸ h)

/-- **Every step under the condition keeps the invariant.** -/
theorem Draining.step (hs : Draining self s) (h : LifecycleStep opts self s e s')
    (hc : LeavesNothingOver opts self s e s') : Draining self s' := by
  have htasks := hs.tasks
  cases h with
  | lock hcall hlock =>
    refine hs.lockStep hlock ?_ ?_
    · rintro rfl
      exact hcall rfl
    · rintro rfl
      exact hc rfl
  | start =>
    unfold Lifecycle.start
    split_ifs
    · exact hs.setWork rfl rfl htasks hs.idle
    · exact hs
  | fire _ _ hidle hlock =>
    rw [hidle] at htasks
    exact (hs.lockStep hlock (by simp) (by simp)).setWork rfl rfl htasks fun _ => trivial
  | acquired hwork _ hlock =>
    rw [hwork] at htasks
    have hs' := hs.lockStep hlock (by simp) (by simp)
    split_ifs
    · exact hs'.setWork rfl rfl htasks fun _ => trivial
    · exact hs'.setWork rfl rfl htasks fun _ => trivial
  | @found leaseFrom due hwork =>
    rw [hwork] at htasks
    obtain ⟨hreleasing, hresolved⟩ := hc
    refine hs.setWork (by simp) (by simp) ?_ fun hdrained => ?_
    · rw [Lifecycle.awaitPool_inFlight]
      refine Lifecycle.tasksAre_awaitPool ?_ Pool.waiting_start
      simpa [show s.inFlight = [] from htasks] using Pool.perm_start opts.concurrency due
    · refine Lifecycle.allStarted_awaitPool (Pool.waiting_start_of_le ?_)
      rcases Stopping.drained_iff.1 hdrained with hstopping | hstopping
      · exact hreleasing hstopping
      · simp [hresolved hstopping]
  | findFailed hwork =>
    rw [hwork] at htasks
    exact hs.setWork rfl rfl htasks fun _ => trivial
  | @finish leaseFrom pool monitor hwork hmem =>
    rw [hwork] at htasks
    refine hs.setWork (by simp) (by simp) ?_ fun hdrained => ?_
    · rw [Lifecycle.awaitPool_inFlight]
      exact Lifecycle.tasksAre_awaitPool (Pool.perm_finish hmem htasks.2) Pool.waiting_finish
    · have hwaiting := hs.idle hdrained
      rw [hwork] at hwaiting
      refine Lifecycle.allStarted_awaitPool ?_
      rw [Pool.finish_of_waiting monitor hwaiting]
  | stop _ _ hpolls =>
    have hstopped : Draining self { s with running := false, timer := false } :=
      hs.setWork rfl rfl htasks hs.idle
    exact hstopped.polls hc hpolls
  | poll _ hpolls => exact hs.polls hc hpolls
  | @resolve warned hreleasing hzero =>
    have hsame : s.stopping.drained = (Stopping.resolved warned).drained := by
      rw [hreleasing]
      rfl
    exact ⟨htasks, fun h => hs.idle (hsame.trans h), fun h => hs.released (hsame.trans h),
      fun _ => hzero⟩

/-! ## The law -/

omit [DecidableEq ι] in
/-- When `stop()` has resolved without the warning, the lock document is not the instance's. -/
lemma Draining.owner_ne (hs : Draining self s) (h : s.stopping = .resolved false) {d : LockDoc ι}
    (hd : s.lock.doc = some d) : d.owner ≠ self :=
  fun howner => hs.released (Stopping.drained_iff.2 (.inr h)) d hd howner (hs.resolved h)

/-- Looking at the checks in flight starts none. -/
lemma Polls.started_eq {deadline : Time} (h : Polls opts self deadline s s') :
    s'.started = s.started := by
  cases h with
  | waits => rfl
  | releases => rfl

/-- A step under the condition starts no check when `stop()` has resolved. -/
lemma Draining.started_eq (hs : Draining self s) (h : LifecycleStep opts self s e s')
    (hc : LeavesNothingOver opts self s e s') (hresolved : s.stopping = .resolved false) :
    s'.started = s.started := by
  cases h with
  | lock => rfl
  | start hnone => rw [hnone] at hresolved; cases hresolved
  | fire => rfl
  | acquired =>
    split_ifs
    · rfl
    · rfl
  | found =>
    obtain rfl := hc.2 hresolved
    simp [Pool.start]
  | findFailed => rfl
  | @finish leaseFrom pool monitor hwork =>
    have hwaiting := hs.idle (Stopping.drained_iff.2 (.inr hresolved))
    rw [hwork] at hwaiting
    simp [Pool.finish_of_waiting monitor hwaiting]
  | stop _ _ hpolls => exact hpolls.started_eq
  | poll _ hpolls => exact hpolls.started_eq
  | resolve => rfl

/-- **`stop()` really stops**, along every run whose steps meet the condition. -/
theorem stopsForGood_of_leavesNothingOver (opts : SchedulerOptions) (self : ι) (clock : Time)
    (doc : Option (LockDoc ι)) {es : List (LifecycleEvent ι)}
    (h : AllSteps (LifecycleStep opts self) (LeavesNothingOver opts self) (.init clock doc) es) :
    AllSteps (LifecycleStep opts self) (StopsForGood self) (.init clock doc) es := by
  refine h.imp (fun s e s' hs hstep hc => ?_) (fun s e s' hs hstep hc => hs.step hstep hc)
    (draining_init clock doc)
  exact ⟨hs.started_eq hstep hc, fun hresolved d hd => (hs.step hstep hc).owner_ne hresolved hd⟩

/-! ## A tick that is left behind -/

/-- The upsert of a tick lands after `stop()` has resolved. The tick finds monitor `7` due. -/
lemma exists_outliving_run : ∃ a b : Lifecycle ℕ,
    Run (LifecycleStep schedulerOptions 0) (.init 0 none)
      [.start, .fire, .stop, .resolve, .lock (.write 0), .acquired true] a ∧
      LifecycleStep schedulerOptions 0 a (.found [7]) b ∧
      a.stopping = .resolved false ∧ a.lock.doc = some ⟨0, 30000, 0, 0⟩ ∧
      a.started = [] ∧ b.started = [7] := by
  apply Exists.intro
  apply Exists.intro
  apply And.intro
  · apply Run.cons (LifecycleStep.start rfl)
    apply Run.cons (LifecycleStep.fire rfl rfl rfl (.acquire rfl))
    apply Run.cons (LifecycleStep.stop rfl rfl (.releases (.inl rfl) .release))
    apply Run.cons (LifecycleStep.resolve rfl rfl)
    apply Run.cons (LifecycleStep.lock (by simp [LockEvent.isCallOf]) (.write (i := 0) rfl))
    change Run _ _ [LifecycleEvent.acquired (heldBy (0 : ℕ) (.ok ⟨0, 30000, 0, 0⟩))] _
    apply Run.cons (LifecycleStep.acquired rfl rfl (.acquired rfl))
    exact .nil _
  · refine ⟨.found rfl (by decide) (by decide) ?_, rfl, rfl, rfl, rfl⟩
    intro monitor _ hmem
    cases hmem

/-- **`stop()` leaves a tick behind** that is suspended at `lock.acquire()`. -/
theorem stop_leaves_tick_behind :
    ¬AllSteps (LifecycleStep schedulerOptions 0) (StopsForGood 0) (.init 0 none)
      [.start, .fire, .stop, .resolve, .lock (.write 0), .acquired true, .found [7]] := by
  intro h
  obtain ⟨a, b, hrun, hfound, hresolved, -, hnone, hstarted⟩ := exists_outliving_run
  have hsame := (h _ _ [] a b rfl hrun hfound).1 hresolved
  rw [hnone, hstarted] at hsame
  cases hsame

/-- The same tick finds the lease of instance `1` in force. -/
theorem stopsForGood_of_leavesNothingOver_standby :
    AllSteps (LifecycleStep schedulerOptions 0) (StopsForGood 0) (.init 0 (some ⟨1, 60000, 0, 0⟩))
      [.start, .fire, .stop, .resolve, .lock (.write 0), .acquired false] := by
  apply stopsForGood_of_leavesNothingOver
  simp only [allSteps_cons, allSteps_nil]
  intro s hstart
  refine ⟨trivial, fun s hfire => ⟨trivial, fun s hstop => ?_⟩⟩
  cases hstart with
  | start =>
    cases hfire with
    | fire _ _ _ hacquire =>
      cases hacquire
      refine ⟨fun _ d hd howner => ?_, fun s hresolve => ⟨trivial, fun s _ => ⟨?_, ?_⟩⟩⟩
      · obtain rfl := Option.some.inj hd
        cases howner
      · cases hstop with
        | stop _ _ hpolls =>
          cases hpolls with
          | waits hwaits => exact absurd rfl hwaits
          | releases _ hrelease =>
            cases hrelease
            cases hresolve
            refine fun _ _ _ => ⟨_, rfl, by decide, fun now hnow => ?_⟩
            obtain rfl : 0 = now := Acquiring.pending.inj hnow
            decide
      · exact fun _ _ => ⟨trivial, trivial⟩
end WatchTower

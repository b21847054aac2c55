import WatchTower.Scheduler.CheckDeadline
import WatchTower.Scheduler.Tick

set_option relaxedAutoImplicit false
set_option autoImplicit false

/-!
# The scheduler and the wall clock

A single leader with the clock that it reads: a tick loads a monitor that is due and admitted, its
pool starts the check, and the check writes its dates when the probe has returned. A probe whose
request is refused throws, and nothing is written. Between any two of these the clock may be turned
to any time. What is to be promised of the schedule depends on how
the clock is turned, so the restrictions on it are left to the statements.

## Main definitions

* `WatchTower.Reading` — what the wall clock shows.
* `WatchTower.Clocked`, `WatchTower.ClockEvent`, `WatchTower.ClockStep` — the system.
* `WatchTower.openingCooldown` — the cooldown of the breaker that a check opens.

## Main results

* `WatchTower.monitors_runCheck` — what a check leaves in the collection of monitors.
* `WatchTower.casts_checkUpdate_iff` — when the database accepts its update.
* `WatchTower.opened_set_iff`, `WatchTower.retryAt_set` — when the breaker is open after it, and
  until when.
-/

namespace WatchTower

open Transition

/-- A reading of the wall clock: a time that a `Date` can represent. -/
abbrev Reading := { t : Time // newDate t = some t }

/-- A task of the tick: a document that it found due, and that the breaker admits. -/
structure CheckTask where
  /-- The loaded document. -/
  monitor : Monitor
  /-- `now` of the tick. -/
  tickAt : Time
  /-- It is due. -/
  isDue : due monitor tickAt = true
  /-- It is admitted. -/
  admitted : (evaluateBreaker monitor tickAt).allowed = true
  /-- Whether the pool has called `runCheck`. -/
  started : Bool

/-- The verdict with which the check is made. -/
abbrev CheckTask.verdict (task : CheckTask) : BreakerVerdict :=
  evaluateBreaker task.monitor task.tickAt

/-- The database, the clock, and the tasks of the tick by the `_id` of their monitor. Of each
monitor it is kept in view when its last check started. -/
structure Clocked where
  /-- The database. -/
  db : Db
  /-- The wall clock. -/
  clock : Reading
  /-- The tasks that are not finished. -/
  tasks : ℕ → Option CheckTask
  /-- When `runCheck` was last called for a monitor. -/
  lastStart : ℕ → Option Time

/-- Before anything is created. -/
def Clocked.empty (users : ℕ → Bool) (t : Reading) : Clocked where
  db := (World.empty users).db
  clock := t
  tasks := fun _ => none
  lastStart := fun _ => none

/-- What happens. -/
inductive ClockEvent
  /-- The clock advances or is set. -/
  | turn (t : Reading)
  /-- A monitor is created, with the fields of the request. -/
  | create (id : ℕ) (userId : Option ℕ) (url : String) (fields : OwnerEdit)
  /-- Its owner edits it. -/
  | edit (id : ℕ) (e : OwnerEdit)
  /-- A tick finds it due and admits it. -/
  | load (id : ℕ)
  /-- The pool calls `runCheck`. -/
  | start (id : ℕ)
  /-- The check runs to its end, with the answers of the services. -/
  | finish (id : ℕ) (ext : External) (incidentAt : Time)
  /-- The probe of the check throws. -/
  | reject (id : ℕ) (err : JsError)

/-- The monitor that a request creates: due at once. -/
def createdMonitor (id : ℕ) (userId : Option ℕ) (url : String) (fields : OwnerEdit) (t : Time) :
    Monitor :=
  (Monitor.fresh id userId url t).edit { fields with url := some url }

/-- The database after a check, whether it returned or threw. -/
def CheckTask.recorded (env : CheckEnv) (task : CheckTask) (ext : External)
    (now incidentAt : Time) (db : Db) : Db :=
  ((runCheck env task.monitor task.verdict ⟨now, incidentAt⟩).run (exec ext) db).2

/-- The database after a check whose probe threw. -/
def CheckTask.unrecorded (env : CheckEnv) (task : CheckTask) (ext : External) (err : JsError)
    (now incidentAt : Time) (db : Db) : Db :=
  (runCheck env task.monitor task.verdict ⟨now, incidentAt⟩).disturb (exec ext) (.reject err) 0 db

/-- The call of `checkMonitor` that a task's check makes. -/
abbrev CheckTask.ladder (node : Node) (env : CheckEnv) (task : CheckTask) : LadderEnv :=
  ladderEnv node env task.monitor task.verdict.mode

/-- The steps of the system. The probe of a check throws exactly when its request is refused. -/
inductive ClockStep (node : Node) (env : CheckEnv) : Clocked → ClockEvent → Clocked → Prop
  | turn {s : Clocked} {t : Reading} :
      ClockStep node env s (.turn t) { s with clock := t }
  | create {s : Clocked} {id : ℕ} {userId : Option ℕ} {url : String} {fields : OwnerEdit} :
      s.db.monitors id = none →
      ClockStep node env s (.create id userId url fields)
        { s with db := { s.db with
          monitors := Function.update s.db.monitors id
            (some (createdMonitor id userId url fields s.clock)) } }
  | edit {s : Clocked} {id : ℕ} {m : Monitor} {e : OwnerEdit} :
      s.db.monitors id = some m →
      ClockStep node env s (.edit id e)
        { s with db := { s.db with
          monitors := Function.update s.db.monitors id (some (m.edit e)) } }
  | load {s : Clocked} {id : ℕ} {m : Monitor} :
      s.db.monitors id = some m →
      s.tasks id = none →
      (isDue : due m s.clock = true) →
      (admitted : (evaluateBreaker m s.clock).allowed = true) →
      ClockStep node env s (.load id)
        { s with tasks := Function.update s.tasks id (some ⟨m, s.clock, isDue, admitted, false⟩) }
  | start {s : Clocked} {id : ℕ} {task : CheckTask} :
      s.tasks id = some task →
      task.started = false →
      ClockStep node env s (.start id)
        { s with
          tasks := Function.update s.tasks id (some { task with started := true })
          lastStart := Function.update s.lastStart id (some s.clock) }
  | finish {s : Clocked} {id : ℕ} {task : CheckTask} {ext : External} {incidentAt : Time} :
      s.tasks id = some task →
      task.started = true →
      ¬(task.ladder node env).Refused →
      ClockStep node env s (.finish id ext incidentAt)
        { s with
          db := task.recorded env ext s.clock incidentAt s.db
          tasks := Function.update s.tasks id none }
  | reject {s : Clocked} {id : ℕ} {task : CheckTask} {ext : External} {err : JsError}
      {incidentAt : Time} :
      s.tasks id = some task →
      task.started = true →
      (task.ladder node env).Refused →
      ClockStep node env s (.reject id err)
        { s with
          db := task.unrecorded env ext err s.clock incidentAt s.db
          tasks := Function.update s.tasks id none }

/-- The `$set` object of a task's check. -/
def CheckTask.update (env : CheckEnv) (task : CheckTask) (ext : External) (now : Time) :
    MonitorUpdate :=
  checkUpdate env.config task.monitor task.verdict (probed ext env task.monitor task.verdict) now

/-- Whether the target is up, as a task's check finds it. -/
def CheckTask.up (env : CheckEnv) (task : CheckTask) (ext : External) : Bool :=
  (probed ext env task.monitor task.verdict).up

/-- **What a check leaves of the monitors**: its update on its own document, if the database accepts
the update, and nothing if not. -/
theorem monitors_runCheck (env : CheckEnv) (task : CheckTask) (ext : External)
    (now incidentAt : Time) (db : Db) : (task.recorded env ext now incidentAt db).monitors =
      if (task.update env ext now).casts = true then
        Function.update db.monitors task.monitor.id
          ((db.monitors task.monitor.id).map (·.set (task.update env ext now)))
      else db.monitors := by
  unfold CheckTask.recorded
  by_cases h : (task.update env ext now).casts = true
  · obtain ⟨a, db', hrun, heff⟩ := run_transitionIncident ext
      (WatchTower.recorded db task.monitor (task.update env ext now)
        (logRow task.monitor (probed ext env task.monitor task.verdict) now))
      task.monitor (task.update env ext now) (probed ext env task.monitor task.verdict) incidentAt
    have hmonitors := heff.frame.1
    have hrun' : (runCheck env task.monitor task.verdict ⟨now, incidentAt⟩).run (exec ext) db = _ :=
      run_runCheck_of_casts ext rfl rfl h
    rw [hrun', if_pos h]
    unfold CheckTask.update at hrun hmonitors ⊢
    rw [hrun, hmonitors]
    rfl
  · rw [run_runCheck_of_not_casts ext (by simpa [CheckTask.update] using h), if_neg h]

/-! ## The dates that a check writes -/

/-- The cooldown of the breaker, if the check opens it. -/
def openingCooldown (cfg : SchedulerConfig) (m : Monitor) (up : Bool) : Option ℚ :=
  if up then none
  else
    match breakerStateOf m with
    | .closed =>
      if cfg.breakerFailureThreshold ≤ failuresAfter m false then some (cooldownFor cfg 0) else none
    | .halfOpen => some (cooldownFor cfg (m.breakerConsecutiveOpens.getD 0 + 1))
    | .opened => none

section Dates

variable {cfg : SchedulerConfig} {m : Monitor} {result : CheckResult} {tickAt now : Time}
  {up : Bool}

/-- A cooldown is not negative, and no longer than the longest. -/
lemma cooldownFor_bounds (cfg : SchedulerConfig) (opens : ℕ) :
    0 ≤ cooldownFor cfg opens ∧ cooldownFor cfg opens ≤ cfg.breakerMaxCooldownMs :=
  ⟨le_min (mul_nonneg cfg.breakerCooldownMs_nonneg (by positivity)) cfg.breakerMaxCooldownMs_nonneg,
    min_le_right _ _⟩

/-- So it is with the cooldown that a check opens the breaker for. -/
lemma openingCooldown_bounds {cooldown : ℚ} (h : openingCooldown cfg m up = some cooldown) :
    0 ≤ cooldown ∧ cooldown ≤ cfg.breakerMaxCooldownMs := by
  cases up with
  | true => simp [openingCooldown] at h
  | false =>
    cases hm : breakerStateOf m with
    | closed =>
      simp only [openingCooldown, hm, Bool.false_eq_true, if_false, Option.ite_none_right_eq_some,
        Option.some.injEq] at h
      exact h.2 ▸ cooldownFor_bounds cfg 0
    | halfOpen =>
      simp only [openingCooldown, hm, Bool.false_eq_true, if_false, Option.some.injEq] at h
      exact h ▸ cooldownFor_bounds cfg _
    | opened => simp [openingCooldown, hm] at h

/-- A successful check patches the breaker as `onCheckSuccess` says. -/
lemma outcomePatch_up_eq (failures : ℕ) : outcomePatch cfg m (evaluateBreaker m tickAt) true
    failures now = onCheckSuccess m := by
  by_cases h : breakerStateOf m = .closed
  · simp [outcomePatch, onCheckSuccess, BreakerPatch.spread, evaluateBreaker_closed h, h]
  · simp [outcomePatch, onCheckSuccess, BreakerPatch.spread, h]

/-- **The breaker part of an admitted check's update** writes no date and leaves the breaker not
open, or it opens the breaker for the cooldown. -/
theorem outcomePatch_cases (hallowed : (evaluateBreaker m tickAt).allowed = true) {p : BreakerPatch}
    (hp : p = outcomePatch cfg m (evaluateBreaker m tickAt) up (failuresAfter m up) now) :
    (openingCooldown cfg m up = none ∧ castsToDate p.breakerOpenedAt = true ∧
        castsToDate p.breakerRetryAt = true ∧
        p.breakerState.getD (breakerStateOf m) ≠ .opened) ∨
      ∃ cooldown opens, openingCooldown cfg m up = some cooldown ∧
        p = { breakerState := some .opened
              breakerOpenedAt := some (some (newDate now))
              breakerRetryAt := some (some (newDate (afterMs now cooldown)))
              breakerConsecutiveOpens := some opens } := by
  cases up with
  | true =>
    rw [outcomePatch_up_eq, onCheckSuccess] at hp
    by_cases h : breakerStateOf m = .closed
    · rw [if_pos h] at hp
      exact .inl ⟨rfl, by simp [hp, castsToDate], by simp [hp, castsToDate], by simp [hp, h]⟩
    · rw [if_neg h] at hp
      exact .inl ⟨rfl, by simp [hp, castsToDate], by simp [hp, castsToDate], by simp [hp]⟩
  | false =>
    cases h : breakerStateOf m with
    | closed =>
      rw [outcomePatch_down_closed h] at hp
      by_cases hf : cfg.breakerFailureThreshold ≤ failuresAfter m false
      · rw [if_pos hf] at hp
        exact .inr ⟨_, 1, by simp [openingCooldown, h, hf], hp⟩
      · rw [if_neg hf] at hp
        exact .inl ⟨by simp [openingCooldown, h, hf], by simp [hp, castsToDate],
          by simp [hp, castsToDate], by simp [hp]⟩
    | halfOpen =>
      rw [outcomePatch_down_halfOpen h] at hp
      exact .inr ⟨_, _, by simp [openingCooldown, h], hp⟩
    | opened =>
      rw [outcomePatch_down_opened h hallowed] at hp
      exact .inl ⟨by simp [openingCooldown, h], by simp [hp, castsToDate],
        by simp [hp, castsToDate], by simp [hp]⟩

/-- **When the database accepts a check's update**, written at a valid date: the next check's date
is valid, and so is the retry date if the check opens the breaker. -/
theorem casts_checkUpdate_iff (hallowed : (evaluateBreaker m tickAt).allowed = true)
    (hnow : newDate now = some now) :
    (checkUpdate cfg m (evaluateBreaker m tickAt) result now).casts = true ↔
      (newDate (afterMs now (intervalMs m))).isSome = true ∧
        ∀ cooldown ∈ openingCooldown cfg m result.up,
          (newDate (afterMs now cooldown)).isSome = true := by
  have hdate : ∀ d : JsDate, castsToDate (some (some d)) = d.isSome := by
    intro d
    cases d <;> rfl
  simp only [MonitorUpdate.casts, checkUpdate, hnow, Bool.and_eq_true, Option.isSome_some, true_and]
  rcases outcomePatch_cases hallowed (p := outcomePatch cfg m (evaluateBreaker m tickAt)
    result.up (failuresAfter m result.up) now) rfl with
    ⟨hnone, hopened, hretry, -⟩ | ⟨cooldown, opens, hcooldown, hpatch⟩
  · simp [hnone, hopened, hretry]
  · simp [hcooldown, hpatch, hdate, hnow]

/-- What the database makes of a valid date. -/
lemma newDate_eq_some_of_isSome {t : Time} (h : (newDate t).isSome = true) :
    newDate t = some t := by
  obtain ⟨t', ht'⟩ := Option.isSome_iff_exists.1 h
  rw [ht', eq_of_newDate_eq_some ht']

variable {u : MonitorUpdate}

/-- The dates of an accepted check and of the next one. -/
lemma checkedAt_eq (hallowed : (evaluateBreaker m tickAt).allowed = true)
    (hnow : newDate now = some now)
    (hu : u = checkUpdate cfg m (evaluateBreaker m tickAt) result now) (hcasts : u.casts = true) :
    u.lastChecked = some now ∧
      u.nextCheckAt = some (afterMs now (intervalMs m)) := by
  subst hu
  exact ⟨hnow, newDate_eq_some_of_isSome ((casts_checkUpdate_iff hallowed hnow).1 hcasts).1⟩

/-- **The breaker after an admitted check** is open exactly when the check opens it. -/
theorem opened_set_iff (hallowed : (evaluateBreaker m tickAt).allowed = true)
    (hu : u = checkUpdate cfg m (evaluateBreaker m tickAt) result now) :
    breakerStateOf (m.set u) = .opened ↔ (openingCooldown cfg m result.up).isSome = true := by
  subst hu
  rw [breakerStateOf_set]
  simp only [checkUpdate]
  rcases outcomePatch_cases hallowed (p := outcomePatch cfg m (evaluateBreaker m tickAt)
    result.up (failuresAfter m result.up) now) rfl with
    ⟨hnone, -, -, hstate⟩ | ⟨cooldown, opens, hcooldown, hpatch⟩
  · simp [hnone, hstate]
  · simp [hcooldown, hpatch]

/-- And then until the cooldown is over. -/
lemma retryAt_set (hallowed : (evaluateBreaker m tickAt).allowed = true)
    (hnow : newDate now = some now)
    (hu : u = checkUpdate cfg m (evaluateBreaker m tickAt) result now) (hcasts : u.casts = true)
    {cooldown : ℚ} (hcooldown : openingCooldown cfg m result.up = some cooldown) :
    (m.set u).breakerRetryAt = some (afterMs now cooldown) := by
  subst hu
  have hretry := ((casts_checkUpdate_iff hallowed hnow).1 hcasts).2 cooldown hcooldown
  rw [set_breakerRetryAt]
  simp only [checkUpdate]
  rcases outcomePatch_cases hallowed (p := outcomePatch cfg m (evaluateBreaker m tickAt)
    result.up (failuresAfter m result.up) now) rfl with
    ⟨hnone, -, -, -⟩ | ⟨cooldown', opens, hcooldown', hpatch⟩
  · simp [hnone] at hcooldown
  · obtain rfl := Option.some.inj (hcooldown.symm.trans hcooldown')
    simp [hpatch, newDate_eq_some_of_isSome hretry]

end Dates

/-! ## The documents -/

/-- Monitors are stored under their `_id`, and tasks are those of stored monitors. -/
structure Filed (s : Clocked) : Prop where
  keyed : Keyed s.db
  tasks : ∀ id task, s.tasks id = some task →
    task.monitor.id = id ∧ ∃ m, s.db.monitors id = some m

/-- At first there is nothing to be filed. -/
lemma filed_empty (users : ℕ → Bool) (t : Reading) : Filed (.empty users t) where
  keyed := by simp [Keyed, Clocked.empty, World.empty]
  tasks := by simp [Clocked.empty]

variable {node : Node} {env : CheckEnv} {s s' : Clocked} {e : ClockEvent} {id : ℕ}

/-- What a finished check leaves of the monitors. -/
lemma ClockStep.monitors_finish (hs : Filed s) {ext : External} {incidentAt : Time}
    (h : ClockStep node env s (.finish id ext incidentAt) s') :
    ∃ task m, s.tasks id = some task ∧ s.db.monitors id = some m ∧ s'.db.monitors =
      Function.update s.db.monitors id (some (if (task.update env ext s.clock).casts = true then
        m.set (task.update env ext s.clock) else m)) := by
  cases h with
  | @finish _ task _ _ htask =>
    obtain ⟨hid, m, hm⟩ := hs.tasks _ _ htask
    refine ⟨task, m, htask, hm, ?_⟩
    rw [show (task.recorded env ext s.clock incidentAt s.db).monitors = _ from
      monitors_runCheck env task ext s.clock incidentAt s.db, hid, hm]
    split_ifs
    · rfl
    · exact (Function.update_eq_self_iff.2 hm.symm).symm

/-- A check whose probe threw writes nothing. -/
lemma CheckTask.unrecorded_eq {task : CheckTask} {ext : External} {err : JsError}
    {now incidentAt : Time} {db : Db} : task.unrecorded env ext err now incidentAt db = db := by
  rw [unrecorded, disturb_runCheck_zero]

/-- The end of such a check leaves the database as it was. -/
lemma ClockStep.db_reject {err : JsError} (h : ClockStep node env s (.reject id err) s') :
    s'.db = s.db := by
  cases h with
  | reject => simp only [CheckTask.unrecorded_eq]

/-- **The cases of a step**, for a monitor that exists afterwards: it existed as it is, or it was
created, edited, or written by a check. -/
theorem ClockStep.monitor_cases (hs : Filed s) (h : ClockStep node env s e s') {m' : Monitor}
    (hm' : s'.db.monitors id = some m') :
    s.db.monitors id = some m' ∨
      (∃ userId url fields, e = .create id userId url fields ∧ s.db.monitors id = none ∧
        m' = createdMonitor id userId url fields s.clock) ∨
      (∃ o m, e = .edit id o ∧ s.db.monitors id = some m ∧ m' = m.edit o) ∨
      ∃ task m ext incidentAt, e = .finish id ext incidentAt ∧ s.tasks id = some task ∧
        s.db.monitors id = some m ∧ (task.update env ext s.clock).casts = true ∧
        m' = m.set (task.update env ext s.clock) := by
  cases e with
  | turn t => cases h with | turn => exact .inl hm'
  | create k userId url fields =>
    cases h with
    | create hnone =>
      by_cases hk : id = k
      · subst hk
        simp only [Function.update_self, Option.some.injEq] at hm'
        exact .inr (.inl ⟨_, _, _, rfl, hnone, hm'.symm⟩)
      · simp only [Function.update_of_ne hk] at hm'
        exact .inl hm'
  | edit k o =>
    cases h with
    | edit hm =>
      by_cases hk : id = k
      · subst hk
        simp only [Function.update_self, Option.some.injEq] at hm'
        exact .inr (.inr (.inl ⟨_, _, rfl, hm, hm'.symm⟩))
      · simp only [Function.update_of_ne hk] at hm'
        exact .inl hm'
  | load k => cases h with | load => exact .inl hm'
  | start k => cases h with | start => exact .inl hm'
  | finish k ext incidentAt =>
    obtain ⟨task, m, htask, hm, hmonitors⟩ := h.monitors_finish hs
    rw [hmonitors] at hm'
    by_cases hk : id = k
    · subst hk
      rw [Function.update_self, Option.some.injEq] at hm'
      split_ifs at hm' with hcasts
      · exact .inr (.inr (.inr ⟨task, m, ext, incidentAt, rfl, htask, hm, hcasts, hm'.symm⟩))
      · exact .inl (hm' ▸ hm)
    · rw [Function.update_of_ne hk] at hm'
      exact .inl hm'
  | reject k err => exact .inl (h.db_reject ▸ hm')

/-- The cases of a step, for a task that exists afterwards: it existed, perhaps not yet started, or
it was loaded. -/
theorem ClockStep.task_cases (h : ClockStep node env s e s') {task' : CheckTask}
    (htask' : s'.tasks id = some task') :
    (∃ task, s.tasks id = some task ∧ task'.monitor = task.monitor) ∨
      e = .load id ∧ s.db.monitors id = some task'.monitor ∧ task'.tickAt = s.clock := by
  cases h with
  | turn => exact .inl ⟨task', htask', rfl⟩
  | create => exact .inl ⟨task', htask', rfl⟩
  | edit => exact .inl ⟨task', htask', rfl⟩
  | @load k m hm =>
    by_cases hk : id = k
    · subst hk
      simp only [Function.update_self, Option.some.injEq] at htask'
      subst htask'
      exact .inr ⟨rfl, hm, rfl⟩
    · simp only [Function.update_of_ne hk] at htask'
      exact .inl ⟨task', htask', rfl⟩
  | @start k task htask =>
    by_cases hk : id = k
    · subst hk
      simp only [Function.update_self, Option.some.injEq] at htask'
      exact .inl ⟨task, htask, htask' ▸ rfl⟩
    · simp only [Function.update_of_ne hk] at htask'
      exact .inl ⟨task', htask', rfl⟩
  | @finish k | @reject k =>
    by_cases hk : id = k
    · subst hk
      simp at htask'
    · simp only [Function.update_of_ne hk] at htask'
      exact .inl ⟨task', htask', rfl⟩

/-- A finished check is no longer a task. -/
lemma ClockStep.tasks_finish {ext : External} {incidentAt : Time}
    (h : ClockStep node env s (.finish id ext incidentAt) s') : s'.tasks id = none := by
  cases h with
  | finish => exact Function.update_self _ _ _

/-- No step removes a monitor. -/
lemma ClockStep.exists_monitor (hs : Filed s) (h : ClockStep node env s e s') {m : Monitor}
    (hm : s.db.monitors id = some m) : ∃ m', s'.db.monitors id = some m' := by
  have hupdate : ∀ k (x : Monitor), ∃ m',
      Function.update s.db.monitors k (some x) id = some m' := by
    intro k x
    by_cases hk : id = k
    · exact ⟨x, by rw [hk, Function.update_self]⟩
    · exact ⟨m, by rw [Function.update_of_ne hk, hm]⟩
  cases e with
  | turn => cases h with | turn => exact ⟨m, hm⟩
  | create => cases h with | create => exact hupdate _ _
  | edit => cases h with | edit => exact hupdate _ _
  | load => cases h with | load => exact ⟨m, hm⟩
  | start => cases h with | start => exact ⟨m, hm⟩
  | finish k ext incidentAt =>
    obtain ⟨task, x, -, -, hmonitors⟩ := h.monitors_finish hs
    rw [hmonitors]
    exact hupdate _ _
  | reject k err => exact ⟨m, by rw [h.db_reject, hm]⟩

/-- The monitor that an event is about. -/
def ClockEvent.monitor : ClockEvent → Option ℕ
  | .turn _ => none
  | .create id _ _ _ => some id
  | .edit id _ => some id
  | .load id => some id
  | .start id => some id
  | .finish id _ _ => some id
  | .reject id _ => some id

/-- An event leaves the other monitors alone. -/
lemma ClockStep.same_of_ne (hs : Filed s) (h : ClockStep node env s e s')
    (hne : e.monitor ≠ some id) :
    s'.db.monitors id = s.db.monitors id ∧ s'.tasks id = s.tasks id ∧
      s'.lastStart id = s.lastStart id := by
  cases e with
  | turn t => cases h with | turn => exact ⟨rfl, rfl, rfl⟩
  | create k userId url fields =>
    have hk : id ≠ k := fun hk => hne (congrArg some hk.symm)
    cases h with | create => exact ⟨Function.update_of_ne hk _ _, rfl, rfl⟩
  | edit k o =>
    have hk : id ≠ k := fun hk => hne (congrArg some hk.symm)
    cases h with | edit => exact ⟨Function.update_of_ne hk _ _, rfl, rfl⟩
  | load k =>
    have hk : id ≠ k := fun hk => hne (congrArg some hk.symm)
    cases h with | load => exact ⟨rfl, Function.update_of_ne hk _ _, rfl⟩
  | start k =>
    have hk : id ≠ k := fun hk => hne (congrArg some hk.symm)
    cases h with
    | start => exact ⟨rfl, Function.update_of_ne hk _ _, Function.update_of_ne hk _ _⟩
  | finish k ext incidentAt =>
    have hk : id ≠ k := fun hk => hne (congrArg some hk.symm)
    obtain ⟨task, m, -, -, hmonitors⟩ := h.monitors_finish hs
    refine ⟨by rw [hmonitors, Function.update_of_ne hk], ?_⟩
    cases h with | finish => exact ⟨Function.update_of_ne hk _ _, rfl⟩
  | reject k err =>
    have hk : id ≠ k := fun hk => hne (congrArg some hk.symm)
    refine ⟨by rw [h.db_reject], ?_⟩
    cases h with | reject => exact ⟨Function.update_of_ne hk _ _, rfl⟩

/-- The documents stay filed. -/
theorem Filed.step (hs : Filed s) (h : ClockStep node env s e s') : Filed s' where
  keyed id m' hm' := by
    rcases h.monitor_cases hs hm' with hm | ⟨_, _, _, -, -, rfl⟩ | ⟨o, m, -, hm, rfl⟩ |
      ⟨task, m, ext, incidentAt, -, -, hm, -, rfl⟩
    · exact hs.keyed _ _ hm
    · rfl
    · exact hs.keyed _ m hm
    · exact hs.keyed _ m hm
  tasks id task' htask' := by
    rcases h.task_cases htask' with ⟨task, htask, heq⟩ | ⟨-, hm, -⟩
    · obtain ⟨hid, m, hm⟩ := hs.tasks _ _ htask
      exact ⟨by rw [heq, hid], h.exists_monitor hs hm⟩
    · exact ⟨hs.keyed _ _ hm, h.exists_monitor hs hm⟩

end WatchTower

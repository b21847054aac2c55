import WatchTower.Scheduler.CheckDeadline
import WatchTower.Scheduler.WallClock

set_option relaxedAutoImplicit false
set_option autoImplicit false

/-!
# The cadence of the checks

With a clock that is never turned back, a monitor's checks follow each other at its interval, or at
five seconds if that is longer, and an attempt has the time that the monitor's timeout gives it. The
validator takes every positive number for both. A date can hold whole milliseconds up to its range,
and a timer whole milliseconds up to its own: beyond, the database rejects the update of the check,
which leaves the monitor due on every tick, and the timer fires at once. A check whose probe throws
does not come as far as its update.

## Main definitions

* `WatchTower.SteadyStep` — the steps of the system whose clock is not turned back.
* `WatchTower.CadenceLaw` — what a started and a finished check are to satisfy.
* `WatchTower.KeepsCadence` — the steps whose dates and timers are in range.
* `WatchTower.OnSchedule` — the invariant.

## Main results

* `WatchTower.Timely.spacing` — checks of one monitor start five seconds apart.
* `WatchTower.cadence_iff` — the law holds throughout a run exactly when the dates and timers of all
  its checks are in range.
-/

namespace WatchTower

open Transition

/-! ## The law -/

/-- Steps of a system whose clock is never turned back. -/
def SteadyStep (node : Node) (env : CheckEnv) (s : Clocked) (e : ClockEvent) (s' : Clocked) :
    Prop :=
  ClockStep node env s e s' ∧ (s.clock : Time) ≤ s'.clock

/-- The next check of a task's monitor is at the date that is the interval, or five seconds,
away. -/
def NextIsDue (s : Clocked) (id : ℕ) (s' : Clocked) : Prop :=
  ∀ task, s.tasks id = some task → ∃ m' nextCheckAt,
    s'.db.monitors id = some m' ∧ m'.nextCheckAt = some nextCheckAt ∧
      (nextCheckAt : ℚ) = (s.clock : Time) + (intervalSeconds task.monitor : ℚ) * 1000

/-- **The law of the cadence.** A check starts at least five seconds after the last check of its
monitor did, and none of its attempts is cut short. Once it is over, the next check is at the
interval. -/
def CadenceLaw (node : Node) (env : CheckEnv) (s : Clocked) (e : ClockEvent) (s' : Clocked) :
    Prop :=
  match e with
  | .start id => (∀ earlier ∈ s.lastStart id, earlier + 5000 ≤ (s.clock : Time)) ∧
      ∀ task, s.tasks id = some task →
        (task.ladder node env).DeadlinesHold (orDefault task.monitor.timeout 10 * 1000)
  | .finish id _ _ => NextIsDue s id s'
  | .reject id _ => NextIsDue s id s'
  | _ => True

/-- A delay that a double holds, and after which there is a date. -/
def HasDateAfter (now : Time) (delay : ℚ) : Prop :=
  Binary64.round delay = delay ∧ ∃ t, newDate t = some t ∧ (t : ℚ) = now + delay

/-- The checks whose dates and timers are in range: a check starts with a timeout that a timer waits
for in full, if its URL can be requested, its request is not refused, and it finishes when there is
a date for the next one, and for the retry if it opens the breaker. -/
def KeepsCadence (node : Node) (env : CheckEnv) (s : Clocked) (e : ClockEvent) : Prop :=
  match e with
  | .start id => ∀ task, s.tasks id = some task →
      (task.ladder node env).Issues → TimerKeeps (orDefault task.monitor.timeout 10 * 1000)
  | .finish id ext _ => ∀ task, s.tasks id = some task →
      HasDateAfter s.clock (intervalSeconds task.monitor * 1000) ∧
        ∀ cooldown ∈ openingCooldown env.config task.monitor (task.up env ext),
          (newDate (afterMs s.clock cooldown)).isSome = true
  | .reject id _ => ∀ task, s.tasks id = some task → ¬(task.ladder node env).Refused
  | _ => True

/-! ## The invariant -/

/-- What holds of a monitor, by its document, its task and the start of its last check. If it is not
being checked, it is scheduled five seconds after that start, and if a tick has loaded it, it was
due. -/
structure Timely (now : Time) (doc : Option Monitor) (task : Option CheckTask)
    (last : Option Time) : Prop where
  scheduled : ∀ m ∈ doc, ∃ nextCheckAt, m.nextCheckAt = some nextCheckAt
  past : ∀ m ∈ doc, ∀ lastChecked ∈ m.lastChecked, lastChecked ≤ now
  loaded : ∀ t ∈ task, ∀ m ∈ doc, ∀ nextCheckAt ∈ m.nextCheckAt, nextCheckAt ≤ now
  started : ∀ earlier ∈ last, earlier ≤ now
  spaced : ∀ earlier ∈ last, (∀ t ∈ task, t.started = false) →
    ∃ m ∈ doc, ∃ nextCheckAt ∈ m.nextCheckAt, earlier + 5000 ≤ nextCheckAt

/-- **The invariant**: every monitor is timely. -/
structure OnSchedule (s : Clocked) : Prop where
  filed : Filed s
  timely : ∀ id, Timely s.clock (s.db.monitors id) (s.tasks id) (s.lastStart id)

/-- At first nothing is scheduled. -/
lemma onSchedule_empty (users : ℕ → Bool) (t : Reading) : OnSchedule (.empty users t) where
  filed := filed_empty users t
  timely id := by constructor <;> simp [Clocked.empty, World.empty]

section Monitor

variable {now now' : Time} {doc : Option Monitor} {task : Option CheckTask} {last : Option Time}

/-- A monitor stays timely as time goes by. -/
lemma Timely.later (h : Timely now doc task last) (hle : now ≤ now') :
    Timely now' doc task last where
  scheduled := h.scheduled
  past m hm lastChecked hlast := (h.past m hm lastChecked hlast).trans hle
  loaded t ht m hm nextCheckAt hnext := (h.loaded t ht m hm nextCheckAt hnext).trans hle
  started earlier hearlier := (h.started earlier hearlier).trans hle
  spaced := h.spaced

/-- **The spacing of the checks.** A task that is not started was due, so five seconds have passed
since the last check of its monitor started. -/
theorem Timely.spacing {t : CheckTask} (h : Timely now doc (some t) last)
    (hnot : t.started = false) : ∀ earlier ∈ last, earlier + 5000 ≤ now := by
  intro earlier hearlier
  obtain ⟨m, hm, nextCheckAt, hnext, hle⟩ := h.spaced earlier hearlier
    fun t' ht' => by rw [← Option.some.inj ht', hnot]
  exact hle.trans (h.loaded t rfl m hm nextCheckAt hnext)

/-- A monitor that is due is overdue: its last check is not in the future. -/
lemma Timely.overdue {m : Monitor} (h : Timely now (some m) task last) (hdue : due m now = true) :
    ∀ nextCheckAt ∈ m.nextCheckAt, nextCheckAt ≤ now := by
  intro nextCheckAt hnext
  rw [Option.mem_def] at hnext
  simp only [due, hnext, Bool.and_eq_true, Bool.or_eq_true, Option.any_some, decide_eq_true_eq,
    Option.any_eq_true] at hdue
  rcases hdue.2 with hle | ⟨lastChecked, hlast, hlt⟩
  · exact hle
  · exact absurd hlt (h.past m rfl lastChecked hlast).not_gt

/-- A monitor that was not there has no checks behind it. -/
lemma Timely.last_of_none (h : Timely now none none last) : last = none := by
  cases hlast : last with
  | none => rfl
  | some earlier =>
    obtain ⟨m, hm, -⟩ := h.spaced earlier hlast (by simp)
    cases hm

/-- A created monitor is timely. -/
lemma timely_createdMonitor (now : Time) (id : ℕ) (userId : Option ℕ) (url : String)
    (fields : OwnerEdit) :
    Timely now (some (createdMonitor id userId url fields now)) none none where
  scheduled m hm := by
    obtain rfl := Option.mem_some_iff.1 hm
    exact ⟨now, rfl⟩
  past m hm lastChecked hlast := by
    obtain rfl := Option.mem_some_iff.1 hm
    cases hlast
  loaded := by simp
  started := by simp
  spaced := by simp

/-- An edit leaves the dates alone. -/
lemma Timely.edit {m : Monitor} (h : Timely now (some m) task last) (o : OwnerEdit) :
    Timely now (some (m.edit o)) task last where
  scheduled m' hm' := by
    obtain rfl := Option.mem_some_iff.1 hm'
    exact h.scheduled m rfl
  past m' hm' := by
    obtain rfl := Option.mem_some_iff.1 hm'
    exact h.past m rfl
  loaded t ht m' hm' := by
    obtain rfl := Option.mem_some_iff.1 hm'
    exact h.loaded t ht m rfl
  started := h.started
  spaced earlier hearlier hwaiting := by
    obtain ⟨m', hm', hnext⟩ := h.spaced earlier hearlier hwaiting
    obtain rfl := Option.mem_some_iff.1 hm'
    exact ⟨_, rfl, hnext⟩

/-- A tick loads a monitor that is due. -/
lemma Timely.load {m : Monitor} (h : Timely now (some m) none last) (hdue : due m now = true)
    (t : CheckTask) : Timely now (some m) (some t) last where
  scheduled := h.scheduled
  past := h.past
  loaded _ _ m' hm' := by
    obtain rfl := Option.mem_some_iff.1 hm'
    exact h.overdue hdue
  started := h.started
  spaced earlier hearlier _ := h.spaced earlier hearlier (by simp)

/-- The pool starts a check. -/
lemma Timely.start {t t' : CheckTask} (h : Timely now doc (some t) last) (ht' : t'.started = true) :
    Timely now doc (some t') (some now) where
  scheduled := h.scheduled
  past := h.past
  loaded _ _ := h.loaded t rfl
  started earlier hearlier := (Option.mem_some_iff.1 hearlier).ge
  spaced earlier _ hwaiting := by
    rw [hwaiting t' rfl] at ht'
    cases ht'

/-- A check writes a date for the next one. -/
lemma Timely.finish {m m' : Monitor} {t : CheckTask} {nextCheckAt : Time}
    (h : Timely now (some m) (some t) last) (hlast : m'.lastChecked = some now)
    (hnext : m'.nextCheckAt = some nextCheckAt) (hle : now + 5000 ≤ nextCheckAt) :
    Timely now (some m') none last where
  scheduled x hx := by
    obtain rfl := Option.mem_some_iff.1 hx
    exact ⟨_, hnext⟩
  past x hx lastChecked hx' := by
    obtain rfl := Option.mem_some_iff.1 hx
    rw [hlast, Option.mem_some_iff] at hx'
    exact hx'.ge
  loaded := by simp
  started := h.started
  spaced earlier hearlier _ :=
    ⟨m', rfl, nextCheckAt, hnext,
      (Int.add_le_add_right (h.started earlier hearlier) 5000).trans hle⟩

end Monitor

variable {node : Node} {env : CheckEnv} {s s' : Clocked} {e : ClockEvent} {id : ℕ}

/-! ## A check that finishes -/

/-- **When the interval, rounded to a double, leads to the date after it.** -/
lemma hasDateAfter_iff {now : Time} {m : Monitor} :
    HasDateAfter now (intervalSeconds m * 1000) ↔
      ∃ t, newDate (afterMs now (intervalMs m)) = some t ∧
        (t : ℚ) = now + (intervalSeconds m : ℚ) * 1000 := by
  have hmax : maxTime ≤ 2 ^ 53 := by decide
  rw [intervalMs, coe_mul_thousand]
  constructor
  · rintro ⟨hround, t, ht, heq⟩
    exact ⟨t, by rw [hround, afterMs_of_eq ((abs_le_of_newDate ht).trans hmax) heq.symm, ht], heq⟩
  · rintro ⟨t, ht, heq⟩
    have htime := eq_of_newDate_eq_some ht
    have habs : |t| ≤ maxTime := htime ▸ abs_le_of_newDate ht
    refine ⟨?_, t, newDate_of_abs_le habs, heq⟩
    -- The interval is the whole number of milliseconds between, and it is rounded to a whole one.
    have hdelay : (intervalSeconds m : ℚ) * 1000 = ((t - now : ℤ) : ℚ) := by
      rw [Int.cast_sub, heq]
      ring
    obtain ⟨n, hn⟩ := Binary64.exists_round_intCast (t - now)
    rw [hdelay, hn] at htime ⊢
    rw [← eq_of_afterMs_intCast habs htime.symm, add_sub_cancel_left]

/-- The database accepts the update of a check whose dates are in range. -/
lemma casts_of_keepsCadence {task : CheckTask} {ext : External} {incidentAt : Time}
    (htask : s.tasks id = some task) (hok : KeepsCadence node env s (.finish id ext incidentAt)) :
    (task.update env ext s.clock).casts = true := by
  obtain ⟨hdate, hretry⟩ := hok task htask
  obtain ⟨t, ht, -⟩ := hasDateAfter_iff.1 hdate
  exact (casts_checkUpdate_iff task.admitted s.clock.2).2 ⟨by rw [ht]; rfl, hretry⟩

/-- **A finished check satisfies the law** exactly when its dates are in range. If the database
rejects its update, the monitor is still due. -/
theorem cadenceLaw_finish_iff (hs : OnSchedule s) {ext : External} {incidentAt : Time}
    (h : ClockStep node env s (.finish id ext incidentAt) s') :
    CadenceLaw node env s (.finish id ext incidentAt) s' ↔
      KeepsCadence node env s (.finish id ext incidentAt) := by
  obtain ⟨task, m, htask, hm, hmonitors⟩ := h.monitors_finish hs.filed
  constructor
  · intro hlaw task' htask'
    obtain rfl := Option.some.inj (htask.symm.trans htask')
    obtain ⟨m', nextCheckAt, hm', hnext, heq⟩ := hlaw task htask
    rw [hmonitors, Function.update_self, Option.some.injEq] at hm'
    split_ifs at hm' with hcasts
    · obtain ⟨hdate, hretry⟩ := (casts_checkUpdate_iff task.admitted s.clock.2).1 hcasts
      obtain ⟨-, hnext'⟩ := checkedAt_eq task.admitted s.clock.2 rfl hcasts
      have htime : afterMs s.clock (intervalMs task.monitor) = nextCheckAt := by
        rw [← hm'] at hnext
        exact Option.some.inj (hnext'.symm.trans hnext)
      have hdate' := newDate_eq_some_of_isSome hdate
      exact ⟨hasDateAfter_iff.2 ⟨nextCheckAt, by rw [hdate', htime], heq⟩, hretry⟩
    · have hle := (hs.timely id).loaded task htask m hm nextCheckAt (hm' ▸ hnext)
      have hleQ : (nextCheckAt : ℚ) ≤ (s.clock : Time) := by exact_mod_cast hle
      linarith [five_le_intervalSeconds task.monitor]
  · intro hok task' htask'
    obtain rfl := Option.some.inj (htask.symm.trans htask')
    have hcasts := casts_of_keepsCadence htask hok
    obtain ⟨-, hnext⟩ := checkedAt_eq task.admitted s.clock.2 rfl hcasts
    obtain ⟨t, ht, heq⟩ := hasDateAfter_iff.1 (hok task htask).1
    refine ⟨_, _, by rw [hmonitors, Function.update_self, if_pos hcasts], hnext, ?_⟩
    rw [← eq_of_newDate_eq_some ht, heq]

/-- **A check whose probe throws** breaks the law: its monitor is still due. -/
theorem not_nextIsDue_reject (hs : OnSchedule s) {err : JsError} {task : CheckTask}
    (h : ClockStep node env s (.reject id err) s') (htask : s.tasks id = some task) :
    ¬NextIsDue s id s' := by
  intro hlaw
  obtain ⟨m', nextCheckAt, hm', hnext, heq⟩ := hlaw task htask
  rw [h.db_reject] at hm'
  have hle := (hs.timely id).loaded task htask m' hm' nextCheckAt hnext
  have hleQ : (nextCheckAt : ℚ) ≤ (s.clock : Time) := by exact_mod_cast hle
  linarith [five_le_intervalSeconds task.monitor]

/-- **The deadlines of a task's check hold** exactly when its timer waits for the timeout in full,
if its URL can be requested. -/
lemma deadlinesHold_ladder_iff {task : CheckTask} :
    (task.ladder node env).DeadlinesHold (orDefault task.monitor.timeout 10 * 1000) ↔
      ((task.ladder node env).Issues → TimerKeeps (orDefault task.monitor.timeout 10 * 1000)) := by
  have hms : ((task.ladder node env).options.timeoutMs : ℚ) =
      Binary64.round (orDefault task.monitor.timeout 10 * 1000) := coe_mul_thousand _
  rw [deadlinesHold_iff, hms, le_timerMs_iff]

/-- **At one step**, the law holds exactly when the dates and timers are in range. -/
theorem cadenceLaw_step_iff (hs : OnSchedule s) (h : SteadyStep node env s e s') :
    CadenceLaw node env s e s' ↔ KeepsCadence node env s e := by
  cases e with
  | start id =>
    cases h.1 with
    | @start _ task htask hnot =>
      constructor
      · rintro ⟨-, hlaw⟩ task' htask'
        exact deadlinesHold_ladder_iff.1 (hlaw task' htask')
      · intro hok
        have htimely := hs.timely id
        rw [htask] at htimely
        exact ⟨htimely.spacing hnot,
          fun task' htask' => deadlinesHold_ladder_iff.2 (hok task' htask')⟩
  | finish id ext incidentAt => exact cadenceLaw_finish_iff hs h.1
  | reject id err =>
    cases hstep : h.1 with
    | @reject _ task _ _ _ htask hstarted hrefused =>
      exact iff_of_false (not_nextIsDue_reject hs h.1 htask) fun hok => hok task htask hrefused
  | _ => exact Iff.rfl

/-! ## The steps keep the schedule -/

/-- The next check after a finished one is at least five seconds away. -/
lemma five_seconds_le {now : ℤ} (hnow : newDate now = some now) (m : Monitor) :
    now + 5000 ≤ afterMs now (intervalMs m) := by
  have hms : ((5000 : ℤ) : ℚ) ≤ intervalMs m := by
    rw [intervalMs, coe_mul_thousand]
    refine Binary64.le_round (Binary64.isDouble_intCast (by norm_num)) ?_
    push_cast
    linarith [five_le_intervalSeconds m]
  have hrange : |now + 5000| ≤ 2 ^ 53 := by
    have habs := abs_le_of_newDate hnow
    unfold maxTime at habs
    obtain ⟨hmin, hmax⟩ := abs_le.1 habs
    exact abs_le.2 ⟨by omega, by omega⟩
  refine le_afterMs hrange ?_
  rw [Int.cast_add]
  linarith

/-- **A step in range keeps the schedule.** -/
theorem OnSchedule.step (hs : OnSchedule s) (h : SteadyStep node env s e s')
    (hok : KeepsCadence node env s e) : OnSchedule s' where
  filed := hs.filed.step h.1
  timely id := by
    obtain ⟨hstep, hclock⟩ := h
    have hid := hs.timely id
    refine Timely.later ?_ hclock
    by_cases hne : e.monitor ≠ some id
    · obtain ⟨hdoc, htask, hlast⟩ := hstep.same_of_ne hs.filed hne
      rwa [hdoc, htask, hlast]
    · cases e with
      | turn t => exact absurd (by simp [ClockEvent.monitor]) hne
      | create k userId url fields =>
        obtain rfl : k = id := by simpa [ClockEvent.monitor] using hne
        cases hstep with
        | create hnone =>
          have htask : s.tasks k = none := by
            by_contra hsome
            obtain ⟨task, htask⟩ := Option.ne_none_iff_exists'.1 hsome
            obtain ⟨-, m, hm⟩ := hs.filed.tasks k task htask
            simp [hnone] at hm
          rw [hnone, htask] at hid
          simp only [Function.update_self, htask, hid.last_of_none]
          exact timely_createdMonitor _ _ _ _ _
      | edit k o =>
        obtain rfl : k = id := by simpa [ClockEvent.monitor] using hne
        cases hstep with
        | edit hm =>
          rw [hm] at hid
          simpa only [Function.update_self] using hid.edit o
      | load k =>
        obtain rfl : k = id := by simpa [ClockEvent.monitor] using hne
        cases hstep with
        | load hm hnone isDue admitted =>
          rw [hm, hnone] at hid
          simpa only [Function.update_self, hm] using hid.load isDue _
      | start k =>
        obtain rfl : k = id := by simpa [ClockEvent.monitor] using hne
        cases hstep with
        | start htask hnot =>
          rw [htask] at hid
          simpa only [Function.update_self] using hid.start rfl
      | finish k ext incidentAt =>
        obtain rfl : k = id := by simpa [ClockEvent.monitor] using hne
        obtain ⟨task, m, htask, hm, hmonitors⟩ := hstep.monitors_finish hs.filed
        have hcasts := casts_of_keepsCadence htask hok
        obtain ⟨hlast, hnext⟩ := checkedAt_eq task.admitted s.clock.2 rfl hcasts
        have hstart : s'.lastStart = s.lastStart := by cases hstep with | finish => rfl
        rw [htask, hm] at hid
        rw [hmonitors, Function.update_self, if_pos hcasts, hstep.tasks_finish, hstart]
        exact hid.finish hlast hnext (five_seconds_le s.clock.2 _)
      | reject k err =>
        cases hstep with
        | reject htask hstarted hrefused => exact absurd hrefused (hok _ htask)

/-- **The cadence is kept throughout a run exactly when the dates and timers of all its checks are
in range**: then checks of one monitor start five seconds apart, each is followed by the next at
the monitor's interval, and no attempt is cut short. -/
theorem cadence_iff (node : Node) (env : CheckEnv) (users : ℕ → Bool) (t : Reading)
    (es : List ClockEvent) :
    AllSteps (SteadyStep node env) (CadenceLaw node env) (.empty users t) es ↔
      AllSteps (SteadyStep node env) (fun s e _ => KeepsCadence node env s e) (.empty users t)
        es := by
  have hiff : ∀ s e s', OnSchedule s → SteadyStep node env s e s' →
      (CadenceLaw node env s e s' ↔ KeepsCadence node env s e) := fun _ _ _ => cadenceLaw_step_iff
  have hinv : ∀ s e s', OnSchedule s → SteadyStep node env s e s' → KeepsCadence node env s e →
      OnSchedule s' := fun _ _ _ => OnSchedule.step
  exact allSteps_iff hiff hinv (onSchedule_empty users t) es

/-- A monitor that is to be checked every ten million million seconds: there is no date so far
away, and its check leaves it due. -/
theorem cadence_fails_at_long_interval :
    ¬AllSteps (SteadyStep sampleNode defaultEnv) (CadenceLaw sampleNode defaultEnv)
      (.empty (fun _ => true) ⟨0, by decide⟩)
      [.create 0 (some 7) "http://a.test/" { interval := some 10000000000000 }, .load 0, .start 0,
        .finish 0 (answering .down) 0] := by
  intro h
  have hrun : Run (SteadyStep sampleNode defaultEnv) (.empty (fun _ => true) ⟨0, by decide⟩)
      [.create 0 (some 7) "http://a.test/" { interval := some 10000000000000 }, .load 0,
        .start 0] _ :=
    .cons ⟨.create rfl, le_rfl⟩
      (.cons ⟨.load rfl rfl (by decide +kernel) (by decide +kernel), le_rfl⟩
        (.cons ⟨.start rfl rfl, le_rfl⟩ (.nil _)))
  obtain ⟨m', nextCheckAt, hm', hnext, heq⟩ := h _ (.finish 0 (answering .down) 0) [] _ _ rfl hrun
    ⟨.finish rfl rfl fun ⟨_, _, _, hrefused⟩ => hrefused (by decide +kernel), le_rfl⟩ _ rfl
  rw [monitors_runCheck, if_neg (by decide +kernel)] at hm'
  obtain rfl := Option.some.inj hm'
  obtain rfl := Option.some.inj hnext
  exact absurd heq (by decide +kernel)

end WatchTower

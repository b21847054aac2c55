import WatchTower.Scheduler.WallClock

set_option relaxedAutoImplicit false
set_option autoImplicit false

/-!
# Jumps of the wall clock

Three dates of a monitor are compared with the clock: the next check's and the last check's by the
query for due monitors, the retry date by the breaker. When the clock is turned back they may lie
far ahead. The query takes a last check in the future as the sign of that and makes the monitor due
at once; but a monitor that was never checked has no last check, and a breaker that is open waits
for its retry date whether the monitor is due or not.

## Main definitions

* `WatchTower.wakeBound` — the longest a monitor may be left alone.
* `WatchTower.NoBlindness` — every active monitor is due and admitted within that time.
* `WatchTower.InReach` — what a turn of the clock has to leave in reach.

## Main results

* `WatchTower.sighted_iff` — when a monitor with its dates is due and admitted within the bound.
* `WatchTower.noBlindness_iff` — no monitor is lost from sight throughout a run exactly when every
  turn of the clock leaves the dates in reach.
-/

namespace WatchTower

open Transition

/-! ## The promise -/

/-- The longest a monitor may be left alone, in milliseconds: its own interval, or the longest
cooldown of the breaker. -/
def wakeBound (cfg : SchedulerConfig) (m : Monitor) : ℚ :=
  max ((intervalSeconds m : ℚ) * 1000) cfg.breakerMaxCooldownMs

/-- A monitor is due and admitted at some time within the bound. -/
def Sighted (cfg : SchedulerConfig) (now : Time) (m : Monitor) : Prop :=
  ∃ t : Time, now ≤ t ∧ (t : ℚ) ≤ now + wakeBound cfg m ∧ due m t = true ∧
    (evaluateBreaker m t).allowed = true

/-- **No blindness**: every active monitor is. -/
def NoBlindness (cfg : SchedulerConfig) (s : Clocked) : Prop :=
  ∀ id m, s.db.monitors id = some m → m.active ≠ some false → Sighted cfg s.clock m

/-- The dates of a monitor that nothing but time brings about are within the bound: the next check
of one that was never checked, or whose breaker is open, and the retry date of an open breaker. -/
structure InReach (cfg : SchedulerConfig) (now : Time) (m : Monitor) : Prop where
  next : m.lastChecked = none ∨ breakerStateOf m = .opened →
    ∀ nextCheckAt ∈ m.nextCheckAt, (nextCheckAt : ℚ) ≤ now + wakeBound cfg m
  retry : breakerStateOf m = .opened →
    ∀ retryAt ∈ m.breakerRetryAt, (retryAt : ℚ) ≤ now + wakeBound cfg m

/-- A delay that is rounded up to the next millisecond stays within the bound. A date is rounded up
before the epoch, and where its sum in double precision is. -/
def RoundsWithin (now : Time) (delay bound : ℚ) : Prop :=
  afterMs now delay = now + ⌈delay⌉ → (⌈delay⌉ : ℚ) ≤ bound

/-- The steps that lose no monitor from sight: a turn of the clock leaves every active monitor in
reach, and no check whose update is accepted rounds a date past the bound. -/
def KeepsInSight (env : CheckEnv) (s : Clocked) (e : ClockEvent) : Prop :=
  match e with
  | .turn t => ∀ id m, s.db.monitors id = some m → m.active ≠ some false → InReach env.config t m
  | .finish id ext _ => ∀ task, s.tasks id = some task →
      (task.update env ext s.clock).casts = true →
        RoundsWithin s.clock (intervalMs task.monitor) (wakeBound env.config task.monitor) ∧
        ∀ cooldown ∈ openingCooldown env.config task.monitor (task.up env ext),
          RoundsWithin s.clock cooldown (wakeBound env.config task.monitor)
  | _ => True

/-- Steps of a system whose owners edit nothing after creation. -/
def UneditedStep (node : Node) (env : CheckEnv) (s : Clocked) (e : ClockEvent) (s' : Clocked) :
    Prop :=
  ClockStep node env s e s' ∧ ∀ id o, e ≠ .edit id o

/-! ## One monitor -/

section Monitor

variable {cfg : SchedulerConfig} {m : Monitor} {now : Time}

/-- The bound is not negative. -/
lemma wakeBound_nonneg (cfg : SchedulerConfig) (m : Monitor) : 0 ≤ wakeBound cfg m :=
  cfg.breakerMaxCooldownMs_nonneg.trans (le_max_right _ _)

/-- What every monitor carries: a date for its next check, and with an open breaker a retry date no
earlier than the last check. -/
structure Dated (m : Monitor) (nextCheckAt retryAt : Time) : Prop where
  next : m.nextCheckAt = some nextCheckAt
  retry : breakerStateOf m = .opened → m.breakerRetryAt = some retryAt ∧
    ∀ lastChecked ∈ m.lastChecked, lastChecked ≤ retryAt

/-- A breaker that is not open admits. -/
lemma allowed_of_ne_opened (h : breakerStateOf m ≠ .opened) (t : Time) :
    (evaluateBreaker m t).allowed = true := by
  cases hm : breakerStateOf m with
  | closed => rw [evaluateBreaker_closed hm]
  | halfOpen => rw [evaluateBreaker_halfOpen hm]
  | opened => exact absurd hm h

/-- An open breaker admits from its retry date on. -/
lemma allowed_opened_iff {retryAt t : Time} (h : breakerStateOf m = .opened)
    (hretry : m.breakerRetryAt = some retryAt) :
    (evaluateBreaker m t).allowed = true ↔ retryAt ≤ t := by
  simp only [evaluateBreaker, h, hretry, Option.getD_some]
  split_ifs with hle <;> simpa using hle

/-- When an active monitor is due. -/
lemma due_iff {nextCheckAt t : Time} (hactive : m.active ≠ some false)
    (hnext : m.nextCheckAt = some nextCheckAt) :
    due m t = true ↔ nextCheckAt ≤ t ∨ ∃ lastChecked ∈ m.lastChecked, t < lastChecked := by
  simp [due, hactive, hnext, Option.any_eq_true]

/-- **When a monitor is due and admitted within the bound.** With an open breaker both its dates
are in reach; otherwise the next check is, or the last one lies ahead. -/
theorem sighted_iff {nextCheckAt retryAt : Time} (hm : Dated m nextCheckAt retryAt)
    (hactive : m.active ≠ some false) :
    Sighted cfg now m ↔
      (breakerStateOf m = .opened → (nextCheckAt : ℚ) ≤ now + wakeBound cfg m ∧
        (retryAt : ℚ) ≤ now + wakeBound cfg m) ∧
      (breakerStateOf m ≠ .opened → (nextCheckAt : ℚ) ≤ now + wakeBound cfg m ∨
        ∃ lastChecked ∈ m.lastChecked, now < lastChecked) := by
  have hnow : (now : ℚ) ≤ now + wakeBound cfg m := by linarith [wakeBound_nonneg cfg m]
  constructor
  · rintro ⟨t, hle, hbound, hdue, hallowed⟩
    rw [due_iff hactive hm.next] at hdue
    refine ⟨fun hopen => ?_, fun _ => ?_⟩
    · -- The breaker admits only after the last check, where the monitor is due by its next one.
      obtain ⟨hretry, hafter⟩ := hm.retry hopen
      have hretryAt := (allowed_opened_iff hopen hretry).1 hallowed
      have hnext : nextCheckAt ≤ t := by
        rcases hdue with hnext | ⟨lastChecked, hlast, hlt⟩
        · exact hnext
        · exact absurd (hretryAt.trans_lt hlt) (hafter _ hlast).not_gt
      have hnextQ : (nextCheckAt : ℚ) ≤ t := by exact_mod_cast hnext
      have hretryQ : (retryAt : ℚ) ≤ t := by exact_mod_cast hretryAt
      exact ⟨hnextQ.trans hbound, hretryQ.trans hbound⟩
    · rcases hdue with hnext | ⟨lastChecked, hlast, hlt⟩
      · have hnextQ : (nextCheckAt : ℚ) ≤ t := by exact_mod_cast hnext
        exact .inl (hnextQ.trans hbound)
      · exact .inr ⟨lastChecked, hlast, hle.trans_lt hlt⟩
  · rintro ⟨hopened, hnot⟩
    by_cases hopen : breakerStateOf m = .opened
    · obtain ⟨hnext, hretry⟩ := hopened hopen
      refine ⟨max now (max nextCheckAt retryAt), le_max_left _ _, ?_, ?_, ?_⟩
      · push_cast
        exact max_le hnow (max_le hnext hretry)
      · exact (due_iff hactive hm.next).2
          (.inl ((le_max_left _ _).trans (le_max_right _ _)))
      · exact (allowed_opened_iff hopen (hm.retry hopen).1).2
          ((le_max_right _ _).trans (le_max_right _ _))
    · rcases hnot hopen with hnext | ⟨lastChecked, hlast, hlt⟩
      · refine ⟨max now nextCheckAt, le_max_left _ _, ?_, ?_, allowed_of_ne_opened hopen _⟩
        · push_cast
          exact max_le hnow hnext
        · exact (due_iff hactive hm.next).2 (.inl (le_max_right _ _))
      · exact ⟨now, le_rfl, hnow, (due_iff hactive hm.next).2 (.inr ⟨lastChecked, hlast, hlt⟩),
          allowed_of_ne_opened hopen _⟩

end Monitor

/-! ## The dates in every state -/

/-- A monitor whose dates are as its last check left them, no further than the bound from it. -/
structure Anchored (cfg : SchedulerConfig) (m : Monitor) : Prop where
  dated : ∃ nextCheckAt retryAt, Dated m nextCheckAt retryAt
  next : ∀ lastChecked ∈ m.lastChecked, ∀ nextCheckAt ∈ m.nextCheckAt,
    (nextCheckAt : ℚ) ≤ lastChecked + wakeBound cfg m

/-- **When an anchored monitor is due and admitted within the bound.** A last check in the past
keeps the next one in reach; one in the future makes the monitor due. -/
lemma Anchored.sighted_iff {cfg : SchedulerConfig} {m : Monitor} {now : Time} (hm : Anchored cfg m)
    (hactive : m.active ≠ some false) : Sighted cfg now m ↔ InReach cfg now m := by
  obtain ⟨nextCheckAt, retryAt, hdated⟩ := hm.dated
  have hmem : ∀ t ∈ m.nextCheckAt, t = nextCheckAt := by simp [hdated.next]
  rw [WatchTower.sighted_iff hdated hactive]
  constructor
  · rintro ⟨hopened, hnot⟩
    refine ⟨fun h t ht => ?_, fun hopen t ht => ?_⟩
    · rw [hmem t ht]
      by_cases hopen : breakerStateOf m = .opened
      · exact (hopened hopen).1
      · rcases h with hnone | hopen'
        · rcases hnot hopen with hnext | ⟨lastChecked, hlast, -⟩
          · exact hnext
          · simp [hnone] at hlast
        · exact absurd hopen' hopen
    · rw [(hdated.retry hopen).1, Option.mem_some_iff] at ht
      exact ht ▸ (hopened hopen).2
  · rintro ⟨hnext, hretry⟩
    refine ⟨fun hopen => ⟨?_, ?_⟩, fun hnot => ?_⟩
    · exact hnext (.inr hopen) _ hdated.next
    · exact hretry hopen _ (hdated.retry hopen).1
    · cases hlast : m.lastChecked with
      | none => exact .inl (hnext (.inl hlast) _ hdated.next)
      | some lastChecked =>
        by_cases hlt : now < lastChecked
        · exact .inr ⟨lastChecked, rfl, hlt⟩
        · have hle : (lastChecked : ℚ) ≤ now := by exact_mod_cast not_lt.1 hlt
          have := hm.next _ hlast _ hdated.next
          exact .inl (by linarith)

section Check

variable {cfg : SchedulerConfig} {m : Monitor} {result : CheckResult} {tickAt now : Time}
  {u : MonitorUpdate}

/-- An interval is within the bound. -/
lemma interval_le_wakeBound (cfg : SchedulerConfig) (m : Monitor) :
    (intervalSeconds m : ℚ) * 1000 ≤ wakeBound cfg m := le_max_left _ _

/-- An interval in milliseconds is not negative. -/
lemma intervalMs_nonneg (m : Monitor) : (0 : ℚ) ≤ intervalMs m := by
  rw [intervalMs, coe_mul_thousand]
  have hzero : Binary64.IsDouble ((0 : ℤ) : ℚ) := Binary64.isDouble_intCast (by norm_num)
  exact_mod_cast Binary64.le_round hzero (by push_cast; linarith [five_le_intervalSeconds m])

/-- A delay leads to no earlier time. -/
lemma le_afterMs_self {delay : ℚ} (hnow : newDate now = some now) (h : 0 ≤ delay) :
    now ≤ afterMs now delay :=
  le_afterMs ((abs_le_of_newDate hnow).trans (by decide)) (by linarith)

/-- A date is no later than after the next whole number of milliseconds. -/
lemma afterMs_le_ceil {now : ℤ} {delay : ℚ} (hnow : newDate now = some now) (hpos : 0 ≤ delay)
    (hdate : (newDate (afterMs now delay)).isSome = true) :
    afterMs now delay ≤ now + ⌈delay⌉ := by
  obtain ⟨date, hdate⟩ := Option.isSome_iff_exists.1 hdate
  have hmax : maxTime ≤ 2 ^ 53 := by decide
  have hceil : (0 : ℤ) ≤ ⌈delay⌉ := Int.ceil_nonneg hpos
  obtain ⟨hmin, -⟩ := abs_le.1 (abs_le_of_newDate hnow)
  obtain ⟨-, hvalid⟩ := abs_le.1 (abs_le_of_newDate hdate)
  by_cases hlarge : now + ⌈delay⌉ ≤ 2 ^ 53
  · refine afterMs_le (abs_le.2 ⟨by omega, hlarge⟩) ?_
    push_cast
    linarith [Int.le_ceil delay]
  · exact (hvalid.trans hmax).trans (not_le.1 hlarge).le

/-- **When a date stays within a bound** on its exact delay: if the delay, which may itself be
rounded to a double, is not rounded up past the bound. -/
theorem afterMs_le_add_iff {now : ℤ} {delay exact bound : ℚ} (hnow : newDate now = some now)
    (hpos : 0 ≤ delay) (hdelay : delay = exact ∨ delay = Binary64.round exact)
    (hle : exact ≤ bound) (hdate : (newDate (afterMs now delay)).isSome = true) :
    (afterMs now delay : ℚ) ≤ now + bound ↔ RoundsWithin now delay bound := by
  have hupper := afterMs_le_ceil hnow hpos hdate
  have hlower := le_afterMs_self hnow hpos
  have habs := abs_le_of_newDate (newDate_eq_some_of_isSome hdate)
  unfold RoundsWithin
  obtain ⟨z, hz⟩ : ∃ z : ℤ, afterMs now delay = z := ⟨_, rfl⟩
  rw [hz] at hupper hlower habs ⊢
  constructor
  · intro h hup
    rw [hup] at h
    push_cast at h
    linarith
  · intro h
    by_contra hlt
    -- The exact delay leads to an earlier time, so what it is rounded to does not lead further.
    have hexact : exact ≤ ((z - now : ℤ) : ℚ) := by
      push_cast
      linarith [not_le.1 hlt]
    have hround : delay ≤ ((z - now : ℤ) : ℚ) := by
      rcases hdelay with rfl | rfl
      · exact hexact
      · by_cases hsmall : |z - now| ≤ 2 ^ 53
        · exact Binary64.round_le (Binary64.isDouble_intCast hsmall) hexact
        · by_contra hgt
          have hlarge : ((2 ^ 53 : ℤ) : ℚ) < ((z - now : ℤ) : ℚ) := by
            rw [abs_of_nonneg (sub_nonneg.2 hlower)] at hsmall
            exact_mod_cast not_le.1 hsmall
          have hround := (hlarge.trans (not_le.1 hgt)).trans_le (le_abs_self _)
          push_cast at hround
          obtain ⟨n, hn⟩ := (Binary64.isDouble_round exact).exists_intCast hround
          rw [hn] at hz hgt
          have hsum := eq_of_afterMs_intCast habs hz
          exact hgt (by exact_mod_cast (by omega : n ≤ z - now))
    have hceil := Int.ceil_le.2 hround
    have hback : now + ⌈delay⌉ ≤ z := by omega
    have hup := h (le_antisymm hupper hback)
    have hceilQ : (z : ℚ) ≤ now + ⌈delay⌉ := by exact_mod_cast hupper
    linarith

/-- The dates that an accepted check leaves are in order. -/
lemma dated_set (hallowed : (evaluateBreaker m tickAt).allowed = true)
    (hnow : newDate now = some now)
    (hu : u = checkUpdate cfg m (evaluateBreaker m tickAt) result now) (hcasts : u.casts = true) :
    Dated (m.set u) (afterMs now (intervalMs m))
      (afterMs now ((openingCooldown cfg m result.up).getD 0)) where
  next := (checkedAt_eq hallowed hnow hu hcasts).2
  retry hopen := by
    obtain ⟨cooldown, hcooldown⟩ :=
      Option.isSome_iff_exists.1 ((opened_set_iff hallowed hu).1 hopen)
    rw [hcooldown, Option.getD_some]
    refine ⟨retryAt_set hallowed hnow hu hcasts hcooldown, fun lastChecked hlast => ?_⟩
    rw [show (m.set u).lastChecked = some now from (checkedAt_eq hallowed hnow hu hcasts).1,
      Option.mem_some_iff] at hlast
    rw [← hlast]
    exact le_afterMs_self hnow (openingCooldown_bounds hcooldown).1

/-- The date of the next check is within the bound exactly when it is not rounded past it. -/
lemma next_le_wakeBound_iff (hnow : newDate now = some now)
    (hdate : (newDate (afterMs now (intervalMs m))).isSome = true) :
    (afterMs now (intervalMs m) : ℚ) ≤ now + wakeBound cfg m ↔
      RoundsWithin now (intervalMs m) (wakeBound cfg m) :=
  afterMs_le_add_iff hnow (intervalMs_nonneg m) (.inr (coe_mul_thousand _))
    (interval_le_wakeBound cfg m) hdate

/-- **Right after an accepted check** a monitor is due and admitted within the bound exactly when no
date of the check is rounded past it. -/
theorem sighted_set_iff (hallowed : (evaluateBreaker m tickAt).allowed = true)
    (hnow : newDate now = some now)
    (hu : u = checkUpdate cfg m (evaluateBreaker m tickAt) result now) (hcasts : u.casts = true)
    (hactive : m.active ≠ some false) :
    Sighted cfg now (m.set u) ↔ RoundsWithin now (intervalMs m) (wakeBound cfg m) ∧
      ∀ cooldown ∈ openingCooldown cfg m result.up,
        RoundsWithin now cooldown (wakeBound cfg m) := by
  have hlast : (m.set u).lastChecked = some now := (checkedAt_eq hallowed hnow hu hcasts).1
  have hopened := opened_set_iff hallowed hu
  have hbound : wakeBound cfg (m.set u) = wakeBound cfg m := rfl
  obtain ⟨hdate, hretry⟩ := (casts_checkUpdate_iff hallowed hnow).1 (hu ▸ hcasts)
  rw [sighted_iff (dated_set hallowed hnow hu hcasts) hactive, hbound,
    next_le_wakeBound_iff hnow hdate]
  cases hcooldown : openingCooldown cfg m result.up with
  | none =>
    have hnot : breakerStateOf (m.set u) ≠ .opened := by simp [hopened, hcooldown]
    simp [hnot, hlast]
  | some cooldown =>
    obtain ⟨hpos, hmax⟩ := openingCooldown_bounds hcooldown
    have hopen : breakerStateOf (m.set u) = .opened := by simp [hopened, hcooldown]
    have hle : cooldown ≤ wakeBound cfg m := hmax.trans (le_max_right _ _)
    have hiff := afterMs_le_add_iff hnow hpos (.inl rfl) hle (hretry cooldown hcooldown)
    simp [hopen, hiff]

/-- An accepted check anchors its monitor, if no date is rounded past the bound. -/
lemma anchored_set (hallowed : (evaluateBreaker m tickAt).allowed = true)
    (hnow : newDate now = some now)
    (hu : u = checkUpdate cfg m (evaluateBreaker m tickAt) result now) (hcasts : u.casts = true)
    (hrounds : RoundsWithin now (intervalMs m) (wakeBound cfg m)) :
    Anchored cfg (m.set u) where
  dated := ⟨_, _, dated_set hallowed hnow hu hcasts⟩
  next lastChecked hlast nextCheckAt hnext := by
    obtain ⟨hlast', hnext'⟩ := checkedAt_eq hallowed hnow hu hcasts
    rw [show (m.set u).lastChecked = some now from hlast', Option.mem_some_iff] at hlast
    rw [show (m.set u).nextCheckAt = _ from hnext', Option.mem_some_iff] at hnext
    rw [← hlast, ← hnext]
    exact (next_le_wakeBound_iff hnow
      ((casts_checkUpdate_iff hallowed hnow).1 (hu ▸ hcasts)).1).2 hrounds

end Check

/-! ## The steps -/

variable {node : Node} {env : CheckEnv} {s s' : Clocked} {e : ClockEvent}

/-- A created monitor is anchored. -/
lemma anchored_createdMonitor (cfg : SchedulerConfig) (id : ℕ) (userId : Option ℕ) (url : String)
    (fields : OwnerEdit) (t : Time) : Anchored cfg (createdMonitor id userId url fields t) where
  dated := ⟨t, t, rfl, fun hopen => by cases hopen⟩
  next lastChecked hlast := by cases hlast

/-- And it is due and admitted at once. -/
lemma sighted_createdMonitor {cfg : SchedulerConfig} {id : ℕ} {userId : Option ℕ} {url : String}
    {fields : OwnerEdit} {t : Time}
    (hactive : (createdMonitor id userId url fields t).active ≠ some false) :
    Sighted cfg t (createdMonitor id userId url fields t) := by
  refine ⟨t, le_rfl, ?_, (due_iff hactive rfl).2 (.inl le_rfl), rfl⟩
  linarith [wakeBound_nonneg cfg (createdMonitor id userId url fields t)]

/-- A loaded monitor is active. -/
lemma CheckTask.active (task : CheckTask) : task.monitor.active ≠ some false := by
  have hdue := task.isDue
  simp only [due, Bool.and_eq_true, decide_eq_true_eq] at hdue
  exact hdue.1

/-- The states in which every monitor is as it was created or last checked, and in sight. -/
structure Watched (cfg : SchedulerConfig) (s : Clocked) : Prop where
  filed : Filed s
  loaded : ∀ id task, s.tasks id = some task → s.db.monitors id = some task.monitor
  anchored : ∀ id m, s.db.monitors id = some m → Anchored cfg m
  sighted : NoBlindness cfg s

/-- At first there is nothing to be watched. -/
lemma watched_empty (cfg : SchedulerConfig) (users : ℕ → Bool) (t : Reading) :
    Watched cfg (.empty users t) where
  filed := filed_empty users t
  loaded := by simp [Clocked.empty]
  anchored := by simp [Clocked.empty, World.empty]
  sighted := by simp [NoBlindness, Clocked.empty, World.empty]

/-- **After a check** its monitor is in sight exactly when no date is rounded past the bound. A
check whose update is rejected leaves the monitor. -/
lemma sighted_finish_iff {task : CheckTask} (ext : External) {now : Time}
    (hnow : newDate now = some now) (hs : Sighted env.config now task.monitor) :
    Sighted env.config now (if (task.update env ext now).casts = true then
        task.monitor.set (task.update env ext now) else task.monitor) ↔
      ((task.update env ext now).casts = true →
        RoundsWithin now (intervalMs task.monitor) (wakeBound env.config task.monitor) ∧
        ∀ cooldown ∈ openingCooldown env.config task.monitor (task.up env ext),
          RoundsWithin now cooldown (wakeBound env.config task.monitor)) := by
  by_cases hcasts : (task.update env ext now).casts = true
  · rw [if_pos hcasts, forall_prop_of_true hcasts]
    exact sighted_set_iff task.admitted hnow rfl hcasts task.active
  · rw [if_neg hcasts]
    exact iff_of_true hs fun h => absurd h hcasts

/-- **At one step**, no monitor is lost from sight exactly when the step keeps all in sight. -/
theorem noBlindness_step_iff (hs : Watched env.config s) (h : UneditedStep node env s e s') :
    NoBlindness env.config s' ↔ KeepsInSight env s e := by
  obtain ⟨hstep, hedit⟩ := h
  cases e with
  | turn t =>
    cases hstep with
    | turn =>
      refine forall_congr' fun id => forall_congr' fun m => forall_congr' fun hm =>
        forall_congr' fun hactive => ?_
      exact (hs.anchored id m hm).sighted_iff hactive
  | create id userId url fields =>
    refine iff_of_true (fun k m' hm' hactive => ?_) trivial
    rcases hstep.monitor_cases hs.filed hm' with hm | ⟨_, _, _, heq, -, rfl⟩ | ⟨o, m, heq, -⟩ |
      ⟨task, m, ext, incidentAt, heq, -⟩
    · cases hstep with | create => exact hs.sighted k m' hm hactive
    · cases hstep with | create => exact sighted_createdMonitor hactive
    · cases heq
    · cases heq
  | edit id o => exact absurd rfl (hedit id o)
  | load id => cases hstep with | load => exact iff_of_true hs.sighted trivial
  | start id => cases hstep with | start => exact iff_of_true hs.sighted trivial
  | finish id ext incidentAt =>
    obtain ⟨task, m, htask, hm, hmonitors⟩ := hstep.monitors_finish hs.filed
    have hclock : s'.clock = s.clock := by cases hstep with | finish => rfl
    obtain rfl := Option.some.inj (hm.symm.trans (hs.loaded id task htask))
    have hiff := sighted_finish_iff ext s.clock.2 (hs.sighted id _ hm task.active)
    have hactive' : (if (task.update env ext s.clock).casts = true then
        task.monitor.set (task.update env ext s.clock) else task.monitor).active ≠ some false := by
      split_ifs
      · exact task.active
      · exact task.active
    constructor
    · intro hno task' htask'
      obtain rfl := Option.some.inj (htask.symm.trans htask')
      have hsighted := hno id _ (by rw [hmonitors, Function.update_self]) hactive'
      rw [hclock] at hsighted
      exact hiff.1 hsighted
    · intro hkeeps k m' hm' hactive
      rw [hmonitors] at hm'
      rw [hclock]
      by_cases hk : k = id
      · subst hk
        rw [Function.update_self, Option.some.injEq] at hm'
        exact hm' ▸ hiff.2 (hkeeps task htask)
      · rw [Function.update_of_ne hk] at hm'
        exact hs.sighted k m' hm' hactive
  | reject id err =>
    have hclock : s'.clock = s.clock := by cases hstep with | reject => rfl
    refine iff_of_true (fun k m hm hactive => ?_) trivial
    rw [hstep.db_reject] at hm
    rw [hclock]
    exact hs.sighted k m hm hactive

/-- **A step that keeps all in sight** keeps every monitor anchored. -/
theorem Watched.step (hs : Watched env.config s) (h : UneditedStep node env s e s')
    (hok : KeepsInSight env s e) : Watched env.config s' where
  filed := hs.filed.step h.1
  loaded id task' htask' := by
    obtain ⟨hstep, hedit⟩ := h
    have hkept : ∀ m, s.db.monitors id = some m → s'.db.monitors id = some m := by
      intro m hm
      obtain ⟨m', hm'⟩ := hstep.exists_monitor hs.filed hm
      rcases hstep.monitor_cases hs.filed hm' with hm₁ | ⟨_, _, _, -, hnone, -⟩ | ⟨o, _, rfl, -⟩ |
        ⟨_, _, ext, incidentAt, rfl, -⟩
      · rw [hm', ← hm₁, hm]
      · simp [hm] at hnone
      · exact absurd rfl (hedit id o)
      · simp [hstep.tasks_finish] at htask'
    rcases hstep.task_cases htask' with ⟨task, htask, heq⟩ | ⟨-, hm, -⟩
    · exact heq ▸ hkept _ (hs.loaded id task htask)
    · exact hkept _ hm
  anchored id m' hm' := by
    rcases h.1.monitor_cases hs.filed hm' with hm | ⟨_, _, _, -, -, rfl⟩ | ⟨o, m, rfl, -⟩ |
      ⟨task, m, ext, incidentAt, rfl, htask, hm, hcasts, rfl⟩
    · exact hs.anchored id m' hm
    · exact anchored_createdMonitor _ _ _ _ _ _
    · exact absurd rfl (h.2 id o)
    · obtain rfl := Option.some.inj (hm.symm.trans (hs.loaded id task htask))
      exact anchored_set task.admitted s.clock.2 rfl hcasts (hok task htask hcasts).1
  sighted := (noBlindness_step_iff hs h).2 hok

/-- **No monitor is lost from sight throughout a run exactly when every turn of the clock leaves the
dates in reach**: no date ahead of the clock keeps back a monitor that was never checked, or whose
breaker is open. -/
theorem noBlindness_iff (node : Node) (env : CheckEnv) (users : ℕ → Bool) (t : Reading)
    (es : List ClockEvent) :
    AllSteps (UneditedStep node env) (fun _ _ s => NoBlindness env.config s) (.empty users t) es ↔
      AllSteps (UneditedStep node env) (fun s e _ => KeepsInSight env s e) (.empty users t) es := by
  have hiff : ∀ s e s', Watched env.config s → UneditedStep node env s e s' →
      (NoBlindness env.config s' ↔ KeepsInSight env s e) := fun _ _ _ => noBlindness_step_iff
  have hinv : ∀ s e s', Watched env.config s → UneditedStep node env s e s' → KeepsInSight env s e →
      Watched env.config s' := fun _ _ _ => Watched.step
  exact allSteps_iff hiff hinv (watched_empty env.config users t) es

/-- A monitor is created, and before its first check the clock is set back by an hour. -/
theorem noBlindness_fails_before_first_check :
    ¬AllSteps (UneditedStep sampleNode defaultEnv) (fun _ _ s => NoBlindness defaultEnv.config s)
      (.empty (fun _ => true) ⟨3600000, by decide⟩)
      [.create 0 (some 7) "http://a" {}, .turn ⟨0, by decide⟩] := by
  intro h
  have hcreate : UneditedStep sampleNode defaultEnv (.empty (fun _ => true) ⟨3600000, by decide⟩)
      (.create 0 (some 7) "http://a" {}) _ := ⟨.create rfl, by simp⟩
  let m := createdMonitor 0 (some 7) "http://a" {} 3600000
  have hblind := h [_] _ [] _ _ rfl (run_singleton_iff.2 hcreate) ⟨.turn, by simp⟩
  have hsighted : Sighted defaultEnv.config 0 m := hblind 0 m rfl (by decide)
  have hm : Anchored defaultEnv.config m := anchored_createdMonitor _ _ _ _ _ _
  have hnext := ((hm.sighted_iff (by decide)).1 hsighted).next (.inl rfl) 3600000 rfl
  have hbound : wakeBound defaultEnv.config m = 900000 := by decide +kernel
  norm_num [hbound] at hnext

end WatchTower

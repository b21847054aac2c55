import Mathlib.Algebra.Order.BigOperators.Group.Finset
import Mathlib.Tactic.Linarith
import WatchTower.Probe.CheckMonitor

set_option relaxedAutoImplicit false
set_option autoImplicit false

/-!
# The duration of a check

How long a call of `checkMonitor` takes, with timers that fire exactly on time. The clock passes
only while the call waits: for its last probe, until the deadline of that probe, or for the end of
a sleep.

## Main definitions

* `WatchTower.timerMs` — how long a timer of Node waits.
* `WatchTower.TimedLadder`, `WatchTower.TimedStep` — a call of `checkMonitor` with a clock.
* `WatchTower.longestCheckMs` — every attempt runs into its deadline, and every sleep is longest.

## Main results

* `WatchTower.Probe.keepsTimer_handle` — what every callback leaves alone.
* `WatchTower.InTime.step` — the bound on the clock is kept by every step.
* `WatchTower.exists_slowest_run` — the bound is attained.
* `WatchTower.AtOnce.step` — no time passes for a URL that cannot be requested.
* `WatchTower.deadlinesHold_iff` — when no attempt is cut short by its deadline.
-/

namespace WatchTower

open Transition

/-- The longest time a timer of Node can wait, in milliseconds. -/
def timeoutMax : ℕ := 2 ^ 31 - 1

/-- How long `setTimeout(callback, delay)` waits, in milliseconds: the whole part of the delay. A
delay below one or above the longest one is replaced by one. -/
def timerMs (delay : ℚ) : ℕ := if 1 ≤ delay ∧ delay ≤ timeoutMax then ⌊delay⌋.toNat else 1

/-- Milliseconds on the monotonic clock. -/
def nanoseconds (ms : ℕ) : ℕ := ms * 1000000

/-! ## The ladder with a clock -/

/-- A call of `checkMonitor` and the clock. -/
structure TimedLadder where
  /-- The call. -/
  ladder : Ladder
  /-- The monotonic clock. -/
  clock : ℕ
  /-- When the last sleep ends. -/
  wakeAt : ℕ

/-- What happens. -/
inductive CheckEvent
  /-- The clock advances. -/
  | elapse (t : ℕ)
  /-- The call does something. -/
  | act (e : LadderEvent)

/-- When the deadline of a probe is due. -/
def LadderEnv.dueAt (env : LadderEnv) (p : Probe) : ℕ :=
  p.started + nanoseconds (timerMs env.options.timeoutMs)

namespace TimedLadder

variable (env : LadderEnv) (s : TimedLadder)

/-- `checkMonitor` is called. -/
def start (t : ℕ) : TimedLadder := ⟨checkMonitor env t, t, t⟩

/-- The call waits until `t` at least: its probe is pending and no timer is due before. -/
def Waits (t : ℕ) : Prop :=
  match s.ladder.phase with
  | .awaiting => ∃ p, s.ladder.probes.getLast? = some p ∧ p.promise = .pending ∧
      (p.deadline = true → t ≤ env.dueAt p)
  | .sleeping _ => t ≤ s.wakeAt
  | .returned _ | .threw _ => False

/-- Callbacks read the clock, and timers fire when they are due. -/
def OnTime (e : LadderEvent) : Prop :=
  match e with
  | .probe k e => e.1 = s.clock ∧ (e.2 = .deadline →
      ∀ p, s.ladder.probes[k]? = some p → p.deadline = true → s.clock = env.dueAt p)
  | .resume _ => True
  | .wake t => t = s.clock ∧ s.clock = s.wakeAt

/-- When the last sleep ends, once the call has come to the given phase. -/
def wakeAfter (phase : LadderPhase) : ℕ :=
  match s.ladder.phase, phase with
  | .awaiting, .sleeping delay => s.clock + nanoseconds (timerMs delay)
  | _, _ => s.wakeAt

end TimedLadder

/-- The steps of a check with a clock. -/
inductive TimedStep (env : LadderEnv) : TimedLadder → CheckEvent → TimedLadder → Prop
  | elapse {s : TimedLadder} {t : ℕ} :
      s.clock ≤ t → s.Waits env t →
      TimedStep env s (.elapse t) { s with clock := t }
  | act {s : TimedLadder} {e : LadderEvent} {l : Ladder} :
      s.OnTime env e → LadderStep env s.ladder e l →
      TimedStep env s (.act e) ⟨l, s.clock, s.wakeAfter l.phase⟩

/-- The longest sleep before a retry, in milliseconds. -/
def longestSleepMs (cfg : SchedulerConfig) (attempt : ℕ) : ℕ :=
  max 1 (min (min (cfg.retryBaseMs * 2 ^ attempt) cfg.retryCapMs - 1) timeoutMax)

/-- The longest time before an attempt starts, in milliseconds. -/
def longestBeforeMs (env : LadderEnv) (attempt : ℕ) : ℕ :=
  ∑ k ∈ Finset.range attempt, (timerMs env.options.timeoutMs + longestSleepMs env.config k)

/-- The longest duration of a check, in milliseconds: every attempt runs into its deadline, and
every sleep between two attempts is a longest one. -/
def longestCheckMs (env : LadderEnv) : ℕ :=
  longestBeforeMs env env.options.maxRetries + timerMs env.options.timeoutMs

/-! ## Timers -/

/-- The wait of a timer set for a whole number of milliseconds. -/
lemma timerMs_intCast (z : ℤ) :
    timerMs z = if 1 ≤ z ∧ z ≤ timeoutMax then z.toNat else 1 := by
  unfold timerMs
  rw [Int.floor_intCast]
  refine if_congr ?_ rfl rfl
  exact_mod_cast Iff.rfl

variable {cfg : SchedulerConfig}

/-- A sleep is no longer than a longest one. -/
lemma timerMs_backoffDelay_le (attempt : ℕ) {draw : ℚ} (hdraw : draw < 1) :
    timerMs (backoffDelay cfg attempt draw) ≤ longestSleepMs cfg attempt := by
  unfold longestSleepMs backoffDelay
  generalize min (cfg.retryBaseMs * 2 ^ attempt) cfg.retryCapMs = ceiling
  have hfloor : ⌊draw * (ceiling : ℚ)⌋ ≤ ((ceiling - 1 : ℕ) : ℤ) := by
    rcases Nat.eq_zero_or_pos ceiling with rfl | hpos
    · simp
    · have hlt : draw * (ceiling : ℚ) < ceiling := by
        have : (0 : ℚ) < ceiling := by exact_mod_cast hpos
        nlinarith
      have hlt' : ⌊draw * (ceiling : ℚ)⌋ < (ceiling : ℤ) := Int.floor_lt.2 (by exact_mod_cast hlt)
      omega
  rw [timerMs_intCast]
  split_ifs <;> omega

/-- Some draw makes a sleep a longest one. -/
lemma exists_longest_sleep (cfg : SchedulerConfig) (attempt : ℕ) :
    ∃ draw : ℚ, 0 ≤ draw ∧ draw < 1 ∧
      timerMs (backoffDelay cfg attempt draw) = longestSleepMs cfg attempt := by
  unfold longestSleepMs backoffDelay
  generalize min (cfg.retryBaseMs * 2 ^ attempt) cfg.retryCapMs = ceiling
  rcases Nat.eq_zero_or_pos ceiling with rfl | hpos
  · exact ⟨0, le_rfl, one_pos, by rw [timerMs_intCast]; simp⟩
  · have hceiling : (0 : ℚ) < ceiling := by exact_mod_cast hpos
    have hlt : min (ceiling - 1) timeoutMax < ceiling := by omega
    refine ⟨(min (ceiling - 1) timeoutMax : ℕ) / ceiling, by positivity, ?_, ?_⟩
    · rw [div_lt_one hceiling]
      exact_mod_cast hlt
    · rw [div_mul_cancel₀ _ hceiling.ne', Int.floor_natCast, timerMs_intCast]
      split_ifs <;> omega

/-! ## The deadline of a probe -/

namespace Probe

/-- A callback leaves the start alone, a promise that is not pending, and the deadline as long as
the promise is pending. -/
structure KeepsTimer (p p' : Probe) : Prop where
  started : p'.started = p.started
  promise : p.promise ≠ .pending → p'.promise = p.promise
  pending : p'.promise = .pending → p'.deadline = p.deadline

/-- A promise that is pending afterwards was pending before. -/
lemma KeepsTimer.pending_before {p p' : Probe} (h : KeepsTimer p p')
    (hp' : p'.promise = .pending) : p.promise = .pending := by
  by_contra hp
  exact hp (h.promise hp ▸ hp')

variable {env : ProbeEnv} {p p' : Probe} {t : ℕ}

/-- A probe that is not touched keeps its timer. -/
lemma KeepsTimer.refl (p : Probe) : KeepsTimer p p := ⟨rfl, fun _ => rfl, fun _ => rfl⟩

/-- After settling the promise is not pending, and only the first settlement counts. -/
lemma keepsTimer_finish (p : Probe) (t : ℕ) (verdict : Verdict) :
    KeepsTimer p (p.finish t verdict) := by
  unfold finish destroyCurrent resolve
  split_ifs
  · exact .refl p
  · dsimp only
    split
    all_goals
      refine ⟨rfl, fun h => ?_, fun h => ?_⟩
      · cases hp : p.promise <;> simp_all [setHop]
      · cases hp : p.promise <;> simp [setHop, hp] at h

/-- Issuing a request keeps the timer. -/
lemma keepsTimer_request {url : String} (h : p.request env t url = .ok p') : KeepsTimer p p' := by
  unfold request at h
  split at h
  · obtain rfl := Except.ok.inj h
    exact keepsTimer_finish p t _
  · split_ifs at h
    · obtain rfl := Except.ok.inj h
      exact keepsTimer_finish p t _
    · dsimp only at h
      split at h
      · cases h
      · split at h
        · cases h
        · obtain rfl := Except.ok.inj h
          exact ⟨rfl, fun _ => rfl, fun _ => rfl⟩

/-- So does following a redirect, also when it throws. -/
lemma keepsTimer_follow (p : Probe) (t : ℕ) (url location : String) :
    KeepsTimer p (p.follow env t url location) := by
  unfold follow
  dsimp only
  split
  · exact ⟨rfl, fun _ => rfl, fun _ => rfl⟩
  · split
    · exact ⟨rfl, fun _ => rfl, fun _ => rfl⟩
    · rename_i next hnext p' hp'
      have hkeeps := keepsTimer_request hp'
      exact ⟨hkeeps.started, hkeeps.promise, hkeeps.pending⟩

/-- **Every callback keeps the timer.** -/
theorem keepsTimer_handle (p : Probe) (t : ℕ) (e : ProbeEvent) :
    KeepsTimer p (p.handle env t e) := by
  refine handle_rule (fun verdict => keepsTimer_finish p t verdict) (fun p' h => ?_) ?_
  · exact ⟨h.started, fun _ => h.promise, fun _ => h.deadline⟩
  · rintro h statusCode location hop - - -
    unfold onResponse
    dsimp only
    split
    · have hfollow : ∀ location, KeepsTimer (p.sawResponse t h statusCode)
          ((p.sawResponse t h statusCode).follow env t hop.url location) :=
        keepsTimer_follow _ t hop.url
      exact ⟨(hfollow _).started, (hfollow _).promise, (hfollow _).pending⟩
    · split_ifs
      · have hfinish := keepsTimer_finish (p.sawResponse t h statusCode) t
        exact ⟨(hfinish _).started, (hfinish _).promise, (hfinish _).pending⟩
      · exact ⟨rfl, fun _ => rfl, fun _ => rfl⟩

/-- A new probe starts now. -/
lemma started_probeOnce (env : ProbeEnv) (t : ℕ) : (probeOnce env t).started = t := by
  unfold probeOnce
  split
  · rename_i p hp
    exact (keepsTimer_request hp).started
  · rfl

/-- Its deadline is to come while it is pending. -/
lemma deadline_probeOnce (h : (probeOnce env t).promise = .pending) :
    (probeOnce env t).deadline = true := by
  unfold probeOnce at h ⊢
  split at h
  · rename_i p hp
    exact (keepsTimer_request hp).pending h
  · cases h

/-- The last of several probes, before a callback of one of them. -/
lemma exists_of_getLast?_modify {probes : List Probe} {k : ℕ} {e : TimedEvent}
    (h : (probes.modify k fun p => p.handle env e.1 e.2).getLast? = some p') :
    ∃ p, probes.getLast? = some p ∧ KeepsTimer p p' := by
  rw [List.getLast?_eq_getElem?, List.getElem?_modify, List.length_modify] at h
  obtain ⟨p, hp, rfl⟩ := Option.map_eq_some_iff.1 h
  refine ⟨p, by rwa [List.getLast?_eq_getElem?], ?_⟩
  split_ifs
  · exact keepsTimer_handle p e.1 e.2
  · exact .refl p

end Probe

/-! ## The bound -/

variable {env : LadderEnv} {t₀ : ℕ}

/-- The longest times before two attempts in a row. -/
lemma longestBeforeMs_succ (env : LadderEnv) (k : ℕ) : longestBeforeMs env (k + 1) =
    longestBeforeMs env k + (timerMs env.options.timeoutMs + longestSleepMs env.config k) :=
  Finset.sum_range_succ _ k

/-- No attempt starts later than the last one may. -/
lemma longestBeforeMs_le {k n : ℕ} (h : k ≤ n) : longestBeforeMs env k ≤ longestBeforeMs env n :=
  Finset.sum_le_sum_of_subset (Finset.range_subset_range.2 h)

/-- A check started at `t₀` that is in time. -/
structure InTime (env : LadderEnv) (t₀ : ℕ) (s : TimedLadder) : Prop where
  attempt_le : s.ladder.attempt ≤ env.options.maxRetries
  started : ∀ p, s.ladder.probes.getLast? = some p →
    p.started ≤ t₀ + nanoseconds (longestBeforeMs env s.ladder.attempt)
  deadline : ∀ p, s.ladder.probes.getLast? = some p → p.promise = .pending → p.deadline = true
  clock : (∀ delay, s.ladder.phase ≠ .sleeping delay) →
    s.clock ≤ t₀ + nanoseconds (longestBeforeMs env s.ladder.attempt) +
      nanoseconds (timerMs env.options.timeoutMs)
  sleeping : ∀ delay, s.ladder.phase = .sleeping delay →
    s.ladder.attempt < env.options.maxRetries ∧ s.clock ≤ s.wakeAt ∧
      s.wakeAt ≤ t₀ + nanoseconds (longestBeforeMs env (s.ladder.attempt + 1))

/-- The clock of a check in time. -/
lemma InTime.clock_le {s : TimedLadder} (h : InTime env t₀ s) :
    s.clock ≤ t₀ + nanoseconds (longestCheckMs env) := by
  have hmono : ∀ k, k ≤ env.options.maxRetries →
      longestBeforeMs env k ≤ longestBeforeMs env env.options.maxRetries :=
    fun k hk => longestBeforeMs_le hk
  unfold longestCheckMs nanoseconds
  by_cases hsleep : ∃ delay, s.ladder.phase = .sleeping delay
  · obtain ⟨delay, hphase⟩ := hsleep
    obtain ⟨hlt, hclock, hwake⟩ := h.sleeping delay hphase
    have := hmono (s.ladder.attempt + 1) hlt
    unfold nanoseconds at hwake
    omega
  · have hclock := h.clock (by simpa using hsleep)
    have := hmono _ h.attempt_le
    unfold nanoseconds at hclock
    omega

/-- A check that starts is in time. -/
lemma inTime_start (env : LadderEnv) (t₀ : ℕ) : InTime env t₀ (.start env t₀) where
  attempt_le := Nat.zero_le _
  started p hp := by
    obtain rfl : probeOnce env.probe t₀ = p := by simpa [TimedLadder.start, checkMonitor] using hp
    simp [Probe.started_probeOnce]
  deadline p hp hpending := by
    obtain rfl : probeOnce env.probe t₀ = p := by simpa [TimedLadder.start, checkMonitor] using hp
    exact Probe.deadline_probeOnce hpending
  clock _ := by
    simp only [TimedLadder.start]
    omega
  sleeping := by simp [TimedLadder.start, checkMonitor]

/-- While a check waits, time passes up to what it waits for. -/
lemma InTime.elapse {s : TimedLadder} {t : ℕ} (h : InTime env t₀ s) (hwaits : s.Waits env t) :
    InTime env t₀ { s with clock := t } := by
  refine ⟨h.attempt_le, h.started, h.deadline, fun hphase => ?_, fun delay hphase => ?_⟩
  · unfold TimedLadder.Waits at hwaits
    split at hwaits
    · obtain ⟨p, hlast, hpending, hdue⟩ := hwaits
      have hstarted := h.started p hlast
      have hle := hdue (h.deadline p hlast hpending)
      unfold LadderEnv.dueAt at hle
      dsimp only
      omega
    · rename_i delay hsleeping
      exact absurd hsleeping (hphase delay)
    · exact hwaits.elim
    · exact hwaits.elim
  · obtain ⟨hlt, -, hwake⟩ := h.sleeping delay hphase
    unfold TimedLadder.Waits at hwaits
    rw [show s.ladder.phase = .sleeping delay from hphase] at hwaits
    exact ⟨hlt, hwaits, hwake⟩

/-- **A step keeps a check in time.** -/
theorem InTime.step {s s' : TimedLadder} {e : CheckEvent} (h : InTime env t₀ s)
    (hstep : TimedStep env s e s') : InTime env t₀ s' := by
  cases hstep with
  | elapse _ hwaits => exact h.elapse hwaits
  | @act e l hontime hstep =>
    cases hstep with
    | @probe k e halive =>
      refine ⟨h.attempt_le, fun p' hp' => ?_, fun p' hp' hpending => ?_, h.clock, ?_⟩
      · obtain ⟨p, hp, hkeeps⟩ := Probe.exists_of_getLast?_modify hp'
        rw [hkeeps.started]
        exact h.started p hp
      · obtain ⟨p, hp, hkeeps⟩ := Probe.exists_of_getLast?_modify hp'
        rw [hkeeps.pending hpending]
        exact h.deadline p hp (hkeeps.pending_before hpending)
      · intro delay hphase
        have hwake : s.wakeAfter s.ladder.phase = s.wakeAt := by
          simp only [TimedLadder.wakeAfter, show s.ladder.phase = .sleeping delay from hphase]
        simpa only [hwake] using h.sleeping delay hphase
    | @resume p r draw halive hphase hlast hr hdraw₀ hdraw₁ =>
      have hclock := h.clock (by simp [hphase])
      refine ⟨h.attempt_le, h.started, h.deadline, fun _ => hclock, fun delay hsleep => ?_⟩
      have hsleep' : s.ladder.afterProbe env r draw = .sleeping delay := hsleep
      have hwake : s.wakeAfter (.sleeping delay) = s.clock + nanoseconds (timerMs delay) := by
        simp only [TimedLadder.wakeAfter, hphase]
      simp only [Ladder.afterProbe] at hsleep'
      split_ifs at hsleep' with hdone hlt
      obtain rfl := LadderPhase.sleeping.inj hsleep'
      have hle : timerMs (backoffDelay env.config s.ladder.attempt draw) ≤
          longestSleepMs env.config s.ladder.attempt := timerMs_backoffDelay_le _ hdraw₁
      rw [hsleep, hwake]
      dsimp only
      unfold nanoseconds at hclock ⊢
      rw [longestBeforeMs_succ]
      omega
    | @rejected p err draw halive hphase hlast hrej =>
      exact ⟨h.attempt_le, h.started, h.deadline, fun _ => h.clock (by simp [hphase]), by simp⟩
    | @wake delay t halive hphase =>
      obtain ⟨hlt, -, hwake⟩ := h.sleeping delay hphase
      obtain ⟨rfl, hnow⟩ : t = s.clock ∧ s.clock = s.wakeAt := hontime
      have hclock : s.clock ≤ t₀ + nanoseconds (longestBeforeMs env (s.ladder.attempt + 1)) :=
        hnow ▸ hwake
      refine ⟨hlt, fun p hp => ?_, fun p hp hpending => ?_, fun _ => ?_, by simp⟩
      · obtain rfl : probeOnce env.probe s.clock = p := by simpa using hp
        rwa [Probe.started_probeOnce]
      · obtain rfl : probeOnce env.probe s.clock = p := by simpa using hp
        exact Probe.deadline_probeOnce hpending
      · exact hclock.trans (Nat.le_add_right _ _)

/-! ## The slowest behaviour of a target -/

/-- The monitored URL can be requested: it parses, has one of the two protocols, and its request is
not refused with its headers. -/
def LadderEnv.Issues (env : LadderEnv) : Prop :=
  ∃ parsed, env.node.parse env.url = some parsed ∧
    (parsed.protocol = "https:" ∨ parsed.protocol = "http:") ∧
    env.node.Takes env.url (spreadHeaders defaultHeaders env.options.headers)

/-- The request of the monitored URL is refused: it parses and has one of the two protocols, but
the request throws with its headers. -/
def LadderEnv.Refused (env : LadderEnv) : Prop :=
  ∃ parsed, env.node.parse env.url = some parsed ∧
    (parsed.protocol = "https:" ∨ parsed.protocol = "http:") ∧
    ¬env.node.Takes env.url (spreadHeaders defaultHeaders env.options.headers)

/-- A probe of a URL that can be requested waits for its deadline. -/
lemma probeOnce_of_issues (h : env.Issues) (t : ℕ) :
    (probeOnce env.probe t).escaped = none ∧ (probeOnce env.probe t).settled = false ∧
      (probeOnce env.probe t).promise = .pending ∧ (probeOnce env.probe t).deadline = true := by
  obtain ⟨parsed, hparse, hprotocol, haccepts⟩ := h
  have hparse' : env.probe.node.parse env.probe.rawUrl = some parsed := hparse
  have haccepts' : env.probe.node.Takes env.probe.rawUrl
      (Probe.outboundHeaders env.probe (.fresh env.probe t) env.probe.rawUrl) := by
    have horigin : env.probe.node.originOf env.probe.rawUrl =
        (Probe.fresh env.probe t).initialOrigin := rfl
    rw [Probe.outboundHeaders, if_pos horigin]
    exact haccepts
  have hprotocol' : ¬(parsed.protocol ≠ "https:" ∧ parsed.protocol ≠ "http:") := by tauto
  simp only [probeOnce, Probe.request, hparse', if_neg hprotocol', haccepts'.1, haccepts'.2]
  exact ⟨rfl, rfl, rfl, rfl⟩

/-- A probe that was started at `t` and has run into its deadline. -/
def LadderEnv.timedOut (env : LadderEnv) (t : ℕ) : Probe :=
  (probeOnce env.probe t).handle env.probe (env.dueAt (probeOnce env.probe t)) .deadline

/-- It ends DOWN, and may be retried. -/
lemma result_timedOut (h : env.Issues) (t : ℕ) : (env.timedOut t).escaped = none ∧
    ∃ r, (env.timedOut t).result = some r ∧ r.status = .down ∧ r.retryable = true := by
  obtain ⟨hescaped, hsettled, hpromise, hdeadline⟩ := probeOnce_of_issues h t
  simp only [LadderEnv.timedOut, Probe.handle, hdeadline, if_true, Probe.finish, hsettled,
    Bool.false_eq_true, if_false, Probe.destroyCurrent, Probe.resolve, hpromise]
  split
  · exact ⟨hescaped, _, rfl, rfl, rfl⟩
  · exact ⟨hescaped, _, rfl, rfl, rfl⟩

namespace TimedLadder

/-- The call awaits a probe that has just started, after earlier ones. -/
def attempting (env : LadderEnv) (earlier : List Probe) (t wakeAt : ℕ) : TimedLadder where
  ladder := ⟨earlier.length, earlier ++ [probeOnce env.probe t], .awaiting⟩
  clock := t
  wakeAt := wakeAt

/-- The call awaits a probe that has just run into its deadline. -/
def expired (env : LadderEnv) (earlier : List Probe) (t wakeAt : ℕ) : TimedLadder where
  ladder := ⟨earlier.length, earlier ++ [env.timedOut t], .awaiting⟩
  clock := t + nanoseconds (timerMs env.options.timeoutMs)
  wakeAt := wakeAt

end TimedLadder

variable {earlier : List Probe} {t wakeAt : ℕ}

/-- A target may let an attempt run into its deadline: the clock elapses, and the deadline fires. -/
lemma run_expired (h : env.Issues) (hearlier : ∀ p ∈ earlier, p.escaped = none) {due : ℕ}
    (hat : due = t + nanoseconds (timerMs env.options.timeoutMs)) :
    ∃ s, TimedStep env (.attempting env earlier t wakeAt) (.elapse due) s ∧
      s.ladder.probes = earlier ++ [probeOnce env.probe t] ∧
      TimedStep env s (.act (.probe earlier.length (due, .deadline)))
        (.expired env earlier t wakeAt) := by
  obtain ⟨hescaped, -, hpending, hdeadline⟩ := probeOnce_of_issues h t
  have hdue : env.dueAt (probeOnce env.probe t) = due := by
    rw [LadderEnv.dueAt, Probe.started_probeOnce, hat]
  have hlast : (earlier ++ [probeOnce env.probe t])[earlier.length]? =
      some (probeOnce env.probe t) := by simp
  subst hat
  let due := t + nanoseconds (timerMs env.options.timeoutMs)
  have helapse : TimedStep env (.attempting env earlier t wakeAt) (.elapse due)
      { TimedLadder.attempting env earlier t wakeAt with clock := due } := by
    refine .elapse (Nat.le_add_right _ _) ⟨probeOnce env.probe t, ?_, hpending, fun _ => hdue.ge⟩
    exact List.getLast?_concat
  have hfire : TimedStep env { TimedLadder.attempting env earlier t wakeAt with clock := due }
      (.act (.probe earlier.length (due, .deadline))) (.expired env earlier t wakeAt) := by
    have hstep : LadderStep env (TimedLadder.attempting env earlier t wakeAt).ladder
        (.probe earlier.length (due, .deadline))
        (TimedLadder.expired env earlier t wakeAt).ladder := by
      have halive : ∀ p ∈ earlier ++ [probeOnce env.probe t], p.escaped = none := by
        simpa [or_imp, forall_and, hescaped] using hearlier
      have hmodify : (earlier ++ [probeOnce env.probe t]).modify earlier.length
          (fun p => p.handle env.probe due .deadline) = earlier ++ [env.timedOut t] := by
        rw [LadderEnv.timedOut, hdue]
        exact List.modifyTailIdx_add _ 0 earlier [probeOnce env.probe t]
      have hprobe : LadderStep env (TimedLadder.attempting env earlier t wakeAt).ladder
          (.probe earlier.length (due, .deadline)) _ := .probe halive
      simpa only [TimedLadder.attempting, TimedLadder.expired, hmodify] using hprobe
    refine .act ⟨rfl, fun _ p hp _ => ?_⟩ hstep
    obtain rfl := Option.some.inj (hlast.symm.trans hp)
    exact hdue.symm
  exact ⟨_, helapse, rfl, hfire⟩

/-- After a longest sleep the next attempt starts. -/
lemma run_retry (h : env.Issues) (hearlier : ∀ p ∈ earlier, p.escaped = none)
    (hlt : earlier.length < env.options.maxRetries) :
    ∃ es wakeAt', Run (TimedStep env) (.expired env earlier t wakeAt) es
      (.attempting env (earlier ++ [env.timedOut t]) (t + nanoseconds
        (timerMs env.options.timeoutMs + longestSleepMs env.config earlier.length)) wakeAt') := by
  obtain ⟨hescaped, r, hr, hdown, hretryable⟩ := result_timedOut h t
  obtain ⟨draw, hdraw₀, hdraw₁, hdraw⟩ := exists_longest_sleep env.config earlier.length
  have halive : ∀ p ∈ earlier ++ [env.timedOut t], p.escaped = none := by
    simpa [or_imp, forall_and, hescaped] using hearlier
  let s := TimedLadder.expired env earlier t wakeAt
  let wake := t + nanoseconds
    (timerMs env.options.timeoutMs + longestSleepMs env.config earlier.length)
  let asleep (clock : ℕ) : TimedLadder :=
    ⟨{ s.ladder with phase := .sleeping (backoffDelay env.config earlier.length draw) }, clock,
      wake⟩
  have hphase : s.ladder.afterProbe env r draw =
      .sleeping (backoffDelay env.config earlier.length draw) := by
    rw [Ladder.afterProbe, if_neg (by simp [hdown, hretryable])]
    exact if_pos hlt
  have hwake : s.wakeAfter (.sleeping (backoffDelay env.config earlier.length draw)) = wake := by
    simp only [s, wake, TimedLadder.wakeAfter, TimedLadder.expired, hdraw, nanoseconds]
    omega
  have hresume : TimedStep env s (.act (.resume draw)) (asleep s.clock) := by
    have hstep : LadderStep env s.ladder (.resume draw) _ :=
      .resume halive rfl List.getLast?_concat hr hdraw₀ hdraw₁
    rw [hphase] at hstep
    have htimed := TimedStep.act (s := s) (e := .resume draw) trivial hstep
    rwa [hwake] at htimed
  have helapse : TimedStep env (asleep s.clock) (.elapse wake) (asleep wake) := by
    have hle : s.clock ≤ wake := by
      simp only [s, wake, TimedLadder.expired, nanoseconds]
      omega
    exact .elapse hle (le_refl wake)
  have hnext : TimedStep env (asleep wake) (.act (.wake wake))
      (.attempting env (earlier ++ [env.timedOut t]) wake wake) := by
    have hstep : LadderStep env (asleep wake).ladder (.wake wake)
        (TimedLadder.attempting env (earlier ++ [env.timedOut t]) wake wake).ladder := by
      have hwake : LadderStep env (asleep wake).ladder (.wake wake) _ := .wake halive rfl
      simpa [asleep, s, TimedLadder.attempting, TimedLadder.expired] using hwake
    exact .act ⟨rfl, rfl⟩ hstep
  exact ⟨_, wake, .cons hresume (.cons helapse (.cons hnext (.nil _)))⟩

/-- Every attempt may start as late as the bound says. -/
lemma exists_run_attempting (h : env.Issues) (t₀ k : ℕ) (hk : k ≤ env.options.maxRetries) :
    ∃ es earlier wakeAt, earlier.length = k ∧ (∀ p ∈ earlier, p.escaped = none) ∧
      Run (TimedStep env) (.start env t₀) es
        (.attempting env earlier (t₀ + nanoseconds (longestBeforeMs env k)) wakeAt) := by
  induction k with
  | zero =>
    have hzero : t₀ + nanoseconds (longestBeforeMs env 0) = t₀ := by
      simp [longestBeforeMs, nanoseconds]
    rw [hzero]
    exact ⟨[], [], t₀, rfl, by simp, .nil _⟩
  | succ k ih =>
    obtain ⟨es, earlier, wakeAt, rfl, hearlier, hrun⟩ := ih (Nat.le_of_succ_le hk)
    obtain ⟨s, helapse, -, hfire⟩ := @run_expired env earlier
      (t₀ + nanoseconds (longestBeforeMs env earlier.length)) wakeAt h hearlier _ rfl
    obtain ⟨es₂, wakeAt', hrun₂⟩ := @run_retry env earlier
      (t₀ + nanoseconds (longestBeforeMs env earlier.length)) wakeAt h hearlier hk
    have hclock : t₀ + nanoseconds (longestBeforeMs env (earlier.length + 1)) =
        t₀ + nanoseconds (longestBeforeMs env earlier.length) + nanoseconds
          (timerMs env.options.timeoutMs + longestSleepMs env.config earlier.length) := by
      rw [longestBeforeMs_succ]
      simp only [nanoseconds]
      ring
    rw [hclock]
    refine ⟨_, earlier ++ [env.timedOut (t₀ + nanoseconds (longestBeforeMs env earlier.length))],
      wakeAt', by simp, ?_, ((hrun.snoc helapse).snoc hfire).append hrun₂⟩
    simpa [or_imp, forall_and, (result_timedOut h _).1] using hearlier

/-- **The bound is attained**: a target that never answers can keep a check as long as the bound
says, and it then ends DOWN. -/
theorem exists_slowest_run (h : env.Issues) (t₀ : ℕ) :
    ∃ es s result, Run (TimedStep env) (.start env t₀) es s ∧
      s.clock = t₀ + nanoseconds (longestCheckMs env) ∧
      s.ladder.phase = .returned result ∧ result.status = .down := by
  obtain ⟨es, earlier, wakeAt, hlength, hearlier, hrun⟩ :=
    exists_run_attempting h t₀ env.options.maxRetries le_rfl
  obtain ⟨s₁, helapse, -, hfire⟩ := @run_expired env earlier
    (t₀ + nanoseconds (longestBeforeMs env env.options.maxRetries)) wakeAt h hearlier _ rfl
  obtain ⟨hescaped, r, hr, hdown, hretryable⟩ :=
    result_timedOut h (t₀ + nanoseconds (longestBeforeMs env env.options.maxRetries))
  let s := TimedLadder.expired env earlier
    (t₀ + nanoseconds (longestBeforeMs env env.options.maxRetries)) wakeAt
  have halive : ∀ p ∈ s.ladder.probes, p.escaped = none := by
    simpa [s, TimedLadder.expired, or_imp, forall_and, hescaped] using hearlier
  have hphase : s.ladder.afterProbe env r 0 =
      .returned { r with attempts := earlier.length + 1 } := by
    rw [Ladder.afterProbe, if_neg (by simp [hdown, hretryable])]
    exact if_neg (by simp [s, TimedLadder.expired, hlength])
  have hresume : TimedStep env s (.act (.resume 0))
      ⟨{ s.ladder with phase := s.ladder.afterProbe env r 0 }, s.clock,
        s.wakeAfter (s.ladder.afterProbe env r 0)⟩ :=
    .act trivial (.resume halive rfl List.getLast?_concat hr le_rfl one_pos)
  refine ⟨_, _, _, ((hrun.snoc helapse).snoc hfire).snoc hresume, ?_, hphase, hdown⟩
  simp only [s, TimedLadder.expired, longestCheckMs, nanoseconds]
  ring

/-! ## A URL that cannot be requested -/

/-- A check that is over at once: no time passes, and its only probe has settled for good. -/
structure AtOnce (t₀ : ℕ) (s : TimedLadder) : Prop where
  clock : s.clock = t₀
  awake : ∀ delay, s.ladder.phase ≠ .sleeping delay
  settled : ∀ p, s.ladder.probes.getLast? = some p → p.promise ≠ .pending ∧
    ∀ settlement, p.promise = .resolved settlement → settlement.verdict.retryable = false

/-- A probe that settles at its start. -/
lemma promise_finish_fresh (env : ProbeEnv) (t : ℕ) (verdict : Verdict) :
    ((Probe.fresh env t).finish t verdict).promise = .resolved ⟨verdict, 0, msSince t t⟩ := rfl

/-- **A probe rejects** exactly when its request is refused. -/
theorem refused_iff (t : ℕ) :
    env.Refused ↔ ∃ err, (probeOnce env.probe t).promise = .rejected err := by
  have horigin : env.probe.node.originOf env.probe.rawUrl =
      (Probe.fresh env.probe t).initialOrigin := rfl
  constructor
  · rintro ⟨parsed, hparse, hprotocol, hrefused⟩
    have hparse' : env.probe.node.parse env.probe.rawUrl = some parsed := hparse
    have hprotocol' : ¬(parsed.protocol ≠ "https:" ∧ parsed.protocol ≠ "http:") := by tauto
    simp only [probeOnce, Probe.request, hparse', if_neg hprotocol', Probe.outboundHeaders,
      if_pos horigin]
    cases hthrows : env.probe.node.requestThrows env.probe.rawUrl
        (spreadHeaders defaultHeaders env.probe.headers) with
    | some err => exact ⟨err, rfl⟩
    | none =>
      cases hend : env.probe.node.endThrows env.probe.rawUrl
          (spreadHeaders defaultHeaders env.probe.headers) with
      | some err => exact ⟨err, rfl⟩
      | none => exact absurd ⟨hthrows, hend⟩ hrefused
  · rintro ⟨err, hrejected⟩
    by_cases hissues : env.Issues
    · rw [(probeOnce_of_issues hissues t).2.2.1] at hrejected
      cases hrejected
    · simp only [probeOnce, Probe.request] at hrejected
      cases hparse : env.probe.node.parse env.probe.rawUrl with
      | none => simp [hparse, promise_finish_fresh] at hrejected
      | some parsed =>
        by_cases hprotocol : parsed.protocol ≠ "https:" ∧ parsed.protocol ≠ "http:"
        · simp only [hparse, if_pos hprotocol] at hrejected
          simp [promise_finish_fresh] at hrejected
        · exact ⟨parsed, hparse, by tauto, fun htakes =>
            hissues ⟨parsed, hparse, by tauto, htakes⟩⟩

/-- A probe whose URL cannot be requested settles at its start, and is not to be retried. -/
lemma promise_of_not_issues (h : ¬env.Issues) (t : ℕ) :
    (probeOnce env.probe t).promise ≠ .pending ∧ ∀ settlement,
      (probeOnce env.probe t).promise = .resolved settlement →
        settlement.verdict.retryable = false := by
  simp only [probeOnce, Probe.request]
  cases hparse : env.probe.node.parse env.probe.rawUrl with
  | none => exact ⟨by simp [promise_finish_fresh], by simp [promise_finish_fresh]⟩
  | some parsed =>
    by_cases hprotocol : parsed.protocol ≠ "https:" ∧ parsed.protocol ≠ "http:"
    · simp only [if_pos hprotocol]
      exact ⟨by simp [promise_finish_fresh], by simp [promise_finish_fresh]⟩
    · have horigin : env.probe.node.originOf env.probe.rawUrl =
          (Probe.fresh env.probe t).initialOrigin := rfl
      simp only [if_neg hprotocol, Probe.outboundHeaders, if_pos horigin]
      cases hthrows : env.probe.node.requestThrows env.probe.rawUrl
          (spreadHeaders defaultHeaders env.probe.headers) with
      | some err => exact ⟨by simp, by simp⟩
      | none =>
        cases hend : env.probe.node.endThrows env.probe.rawUrl
            (spreadHeaders defaultHeaders env.probe.headers) with
        | some err => exact ⟨by simp, by simp⟩
        | none => exact absurd ⟨parsed, hparse, by tauto, hthrows, hend⟩ h

/-- **A step leaves a check that is over at once so.** -/
lemma AtOnce.step {s s' : TimedLadder} {e : CheckEvent} (h : AtOnce t₀ s)
    (hstep : TimedStep env s e s') : AtOnce t₀ s' := by
  cases hstep with
  | @elapse t hle hwaits =>
    exfalso
    unfold TimedLadder.Waits at hwaits
    split at hwaits
    · obtain ⟨p, hlast, hpending, -⟩ := hwaits
      exact (h.settled p hlast).1 hpending
    · rename_i delay hsleeping
      exact h.awake delay hsleeping
    · exact hwaits
    · exact hwaits
  | @act e l hontime hstep =>
    cases hstep with
    | @probe k e halive =>
      refine ⟨h.clock, h.awake, fun p' hp' => ?_⟩
      obtain ⟨p, hp, hkeeps⟩ := Probe.exists_of_getLast?_modify hp'
      obtain ⟨hsettled, hretryable⟩ := h.settled p hp
      rw [hkeeps.promise hsettled]
      exact ⟨hsettled, hretryable⟩
    | @resume p r draw halive hphase hlast hr hdraw₀ hdraw₁ =>
      refine ⟨h.clock, fun delay hsleep => ?_, h.settled⟩
      have hretryable : r.retryable = false := by
        unfold Probe.result at hr
        split at hr
        · rename_i settlement hresolved
          obtain rfl := Option.some.inj hr
          exact (h.settled p hlast).2 settlement hresolved
        · cases hr
      simp [Ladder.afterProbe, hretryable] at hsleep
    | @rejected p err draw halive hphase hlast hrej =>
      exact ⟨h.clock, by simp, h.settled⟩
    | @wake delay t halive hphase => exact absurd hphase (h.awake delay)

/-- A check of a URL that cannot be requested is over at once. -/
lemma atOnce_start (h : ¬env.Issues) (t : ℕ) : AtOnce t (.start env t) := by
  refine ⟨rfl, by simp [TimedLadder.start, checkMonitor], fun p hp => ?_⟩
  obtain rfl : probeOnce env.probe t = p := by simpa [TimedLadder.start, checkMonitor] using hp
  exact promise_of_not_issues h t

/-! ## The deadlines that fire -/

/-- The times, in milliseconds, that a timer of Node waits for in full when it is set to them: a
double, of which the timer takes the whole part, up to the longest. -/
def TimerKeeps (ms : ℚ) : Prop :=
  ms ≤ 1 ∨ Binary64.round ms ≤ timeoutMax ∧ ms ≤ ⌊Binary64.round ms⌋

/-- No deadline fires before its attempt has had so many milliseconds. -/
def LadderEnv.DeadlinesHold (env : LadderEnv) (ms : ℚ) : Prop :=
  ∀ t es s k due s', Run (TimedStep env) (.start env t) es s →
    TimedStep env s (.act (.probe k (due, .deadline))) s' →
    ∀ p : Probe, s.ladder.probes[k]? = some p → p.deadline = true →
      (p.started : ℚ) + ms * 1000000 ≤ due

/-- A timer waits at least a millisecond. -/
lemma one_le_timerMs (delay : ℚ) : 1 ≤ timerMs delay := by
  unfold timerMs
  split_ifs with h
  · have := Int.le_floor.2 (show ((1 : ℤ) : ℚ) ≤ delay by exact_mod_cast h.1)
    omega
  · exact le_rfl

/-- **Which times a timer waits for in full.** -/
lemma le_timerMs_iff {ms : ℚ} : ms ≤ timerMs (Binary64.round ms) ↔ TimerKeeps ms := by
  unfold TimerKeeps timerMs
  split_ifs with h
  · have hfloor : (1 : ℤ) ≤ ⌊Binary64.round ms⌋ := Int.le_floor.2 (by exact_mod_cast h.1)
    have hcast : ((⌊Binary64.round ms⌋.toNat : ℕ) : ℚ) = (⌊Binary64.round ms⌋ : ℚ) := by
      exact_mod_cast Int.toNat_of_nonneg (zero_le_one.trans hfloor)
    rw [hcast]
    constructor
    · exact fun hle => .inr ⟨h.2, hle⟩
    · rintro (hle | ⟨-, hle⟩)
      · exact hle.trans (by exact_mod_cast hfloor)
      · exact hle
  · rw [not_and, not_le] at h
    push_cast
    constructor
    · exact Or.inl
    · rintro (hle | ⟨hmax, hle⟩)
      · exact hle
      · -- The double is below one, so its whole part is not positive.
        have hlt : Binary64.round ms < 1 := not_le.1 fun hone => (h hone).not_ge hmax
        have hfloor : (⌊Binary64.round ms⌋ : ℚ) ≤ 1 := (Int.floor_le _).trans hlt.le
        exact hle.trans hfloor

/-- A check whose attempts have all started since `t₀`. -/
structure StartedSince (t₀ : ℕ) (s : TimedLadder) : Prop where
  clock : t₀ ≤ s.clock
  started : ∀ (k : ℕ) (p : Probe), s.ladder.probes[k]? = some p → t₀ ≤ p.started

/-- No attempt starts in the past. -/
lemma StartedSince.step {s s' : TimedLadder} {e : CheckEvent} (h : StartedSince t₀ s)
    (hstep : TimedStep env s e s') : StartedSince t₀ s' := by
  cases hstep with
  | elapse hle => exact ⟨h.clock.trans hle, h.started⟩
  | @act e l hontime hstep =>
    refine ⟨h.clock, ?_⟩
    cases hstep with
    | @probe k e =>
      intro j p' hp'
      rw [List.getElem?_modify] at hp'
      obtain ⟨p, hp, rfl⟩ := Option.map_eq_some_iff.1 hp'
      split_ifs
      · rw [(Probe.keepsTimer_handle p e.1 e.2).started]
        exact h.started j p hp
      · exact h.started j p hp
    | resume => exact h.started
    | rejected => exact h.started
    | @wake delay t =>
      intro j p hp
      rcases List.mem_append.1 (List.mem_of_getElem? hp) with hmem | hmem
      · obtain ⟨i, hi⟩ := List.mem_iff_getElem?.1 hmem
        exact h.started i p hi
      · obtain rfl := List.mem_singleton.1 hmem
        rw [Probe.started_probeOnce, hontime.1]
        exact h.clock

/-- The first attempt starts with the check. -/
lemma startedSince_start (env : LadderEnv) (t : ℕ) : StartedSince t (.start env t) where
  clock := le_rfl
  started k p hp := by
    obtain rfl : p = probeOnce env.probe t := by
      simpa [TimedLadder.start, checkMonitor] using List.mem_of_getElem? hp
    exact (Probe.started_probeOnce _ _).ge

/-- **The deadlines of a check hold** exactly when its URL cannot be requested, or its timer waits
for that time. -/
theorem deadlinesHold_iff {ms : ℚ} :
    env.DeadlinesHold ms ↔ (env.Issues → ms ≤ timerMs env.options.timeoutMs) := by
  constructor
  · intro h hissues
    obtain ⟨s, helapse, hprobes, hfire⟩ := @run_expired env [] 0 0 hissues (by simp) _ rfl
    have hat : s.ladder.probes[0]? = some (probeOnce env.probe 0) := by rw [hprobes]; rfl
    have hle := h 0 _ s 0 _ _ (run_singleton_iff.2 helapse) hfire _ hat
      (probeOnce_of_issues hissues 0).2.2.2
    rw [Probe.started_probeOnce] at hle
    push_cast [nanoseconds] at hle
    linarith
  · intro h t es s k due s' hrun hstep p hp harmed
    cases hstep with
    | act hontime _ =>
      obtain ⟨hclock, hfires⟩ := hontime
      have hdue : s.clock = p.started + nanoseconds (timerMs env.options.timeoutMs) :=
        hfires rfl p hp harmed
      rw [show due = s.clock from hclock, hdue]
      by_cases hissues : env.Issues
      · have hle := h hissues
        push_cast [nanoseconds]
        linarith
      · -- No time passes in a check whose URL cannot be requested, and a timer takes some.
        exfalso
        have hstart : AtOnce t (.start env t) := atOnce_start hissues t
        have hatOnce : ∀ s e s', AtOnce t s → TimedStep env s e s' → AtOnce t s' :=
          fun _ _ _ => AtOnce.step
        have hsince : ∀ s e s', StartedSince t s → TimedStep env s e s' → StartedSince t s' :=
          fun _ _ _ => StartedSince.step
        have hnow := (hrun.invariant hatOnce hstart).clock
        have hstarted := (hrun.invariant hsince (startedSince_start env t)).started k p hp
        have hpos := one_le_timerMs env.options.timeoutMs
        unfold nanoseconds at hdue
        omega

end WatchTower

import WatchTower.Probe.TimedCheck
import WatchTower.Scheduler.RunCheck

set_option relaxedAutoImplicit false
set_option autoImplicit false

/-!
# The interval budget of a check

The documentation bounds a check, with its retries, by the monitor's interval. The code bounds
each attempt.

## Main definitions

* `WatchTower.ladderEnv` — the call of `checkMonitor` that a check makes.
* `WatchTower.WithinBudget` — what the documentation asks for.

## Main results

* `WatchTower.withinBudget_iff` — when a check keeps to the interval.
-/

namespace WatchTower

open Transition

/-- The arguments with which a check of a monitor calls `checkMonitor`. -/
def ladderEnv (node : Node) (env : CheckEnv) (m : Monitor) (mode : BreakerState) : LadderEnv where
  config := env.config
  node := node
  url := m.url
  options := checkOptions env m mode

/-- **The interval budget.** Throughout a check of a monitor, and at its result, no more time has
passed than the monitor's interval. -/
def WithinBudget (node : Node) (env : CheckEnv) (m : Monitor) (mode : BreakerState) : Prop :=
  ∀ t es s, Run (TimedStep (ladderEnv node env m mode))
      (.start (ladderEnv node env m mode) t) es s →
    ((s.clock - t : ℕ) : ℚ) ≤ (intervalSeconds m : ℚ) * 1000000000

/-- **A check keeps to the interval** exactly when its URL cannot be requested, or the longest
duration fits: all deadlines of the attempts and all longest sleeps between them. -/
theorem withinBudget_iff (node : Node) (env : CheckEnv) (m : Monitor) (mode : BreakerState) :
    WithinBudget node env m mode ↔ ((ladderEnv node env m mode).Issues →
      (longestCheckMs (ladderEnv node env m mode) : ℚ) ≤ (intervalSeconds m : ℚ) * 1000) := by
  have hinterval := five_le_intervalSeconds m
  constructor
  · intro h hissues
    obtain ⟨es, s, result, hrun, hclock, -, -⟩ := exists_slowest_run hissues 0
    have hle := h 0 es s hrun
    rw [hclock] at hle
    simp only [nanoseconds, Nat.zero_add, Nat.sub_zero] at hle
    push_cast at hle
    linarith
  · intro h t es s hrun
    by_cases hissues : (ladderEnv node env m mode).Issues
    · have hstep : ∀ s e s', InTime (ladderEnv node env m mode) t s →
          TimedStep (ladderEnv node env m mode) s e s' → InTime _ t s' := fun _ _ _ => InTime.step
      have hle := (hrun.invariant hstep (inTime_start _ t)).clock_le
      have hsub : s.clock - t ≤ longestCheckMs (ladderEnv node env m mode) * 1000000 := by
        unfold nanoseconds at hle
        omega
      have hcast : ((s.clock - t : ℕ) : ℚ) ≤
          (longestCheckMs (ladderEnv node env m mode) : ℚ) * 1000000 := by exact_mod_cast hsub
      linarith [h hissues]
    · have hstart : AtOnce t (.start (ladderEnv node env m mode) t) := atOnce_start hissues t
      have hstep : ∀ s e s', AtOnce t s → TimedStep (ladderEnv node env m mode) s e s' →
          AtOnce t s' := fun _ _ _ => AtOnce.step
      have hclock := (hrun.invariant hstep hstart).clock
      rw [hclock, Nat.sub_self]
      push_cast
      linarith

/-- **A check may outlast the interval**: with the defaults, a monitor that is checked every five
seconds and whose target never answers, for more than thirty. -/
theorem check_outlasts_interval :
    ¬WithinBudget sampleNode ⟨schedulerConfig, fun _ => []⟩
      { Monitor.fresh 1 (some 7) "http://a.test/" 0 with interval := some 5 } .closed := by
  intro h
  let env := ladderEnv sampleNode ⟨schedulerConfig, fun _ => []⟩
    { Monitor.fresh 1 (some 7) "http://a.test/" 0 with interval := some 5 } .closed
  have hissues : env.Issues := ⟨⟨"http:", "http://a.test"⟩, rfl, .inr rfl, rfl, rfl⟩
  obtain ⟨es, s, result, hrun, hclock, -, -⟩ := exists_slowest_run hissues 0
  have hlongest : longestCheckMs env = 30748 := by decide +kernel
  have hinterval : (intervalSeconds
      { Monitor.fresh 1 (some 7) "http://a.test/" 0 with interval := some 5 } : ℚ) = 5 := by
    decide +kernel
  have hle := h 0 es s hrun
  rw [hclock, hlongest, hinterval] at hle
  norm_num [nanoseconds] at hle

end WatchTower

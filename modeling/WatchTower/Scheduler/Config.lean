import WatchTower.Arithmetic.Binary64

set_option relaxedAutoImplicit false
set_option autoImplicit false

/-!
# Scheduler tunables

`config/scheduler.config.js`. Every value can be set per environment, so the model takes the
record as a parameter; the lower bounds that the module enforces, with `Math.max` or by falling back
to the default, are fields.

`num` admits fractions. The cooldowns, which are computed with, are doubles here; the counts, the
delays of the backoff and the lease are taken to be whole.

## Main definitions

* `WatchTower.SchedulerConfig` — the record.
* `WatchTower.schedulerConfig` — the values used when the environment sets none.
-/

namespace WatchTower

/-- The scheduler's tunables. Durations are in milliseconds. -/
structure SchedulerConfig where
  /-- `CONCURRENCY`: the width of the check pool. -/
  concurrency : ℕ
  /-- `LOCK_TTL_MS`: how long an acquired lease lasts. -/
  lockTtlMs : ℕ
  /-- `MAX_RETRIES`: retries after the first attempt of a check. -/
  maxRetries : ℕ
  /-- `RETRY_BASE_MS`: the base of the backoff. -/
  retryBaseMs : ℕ
  /-- `RETRY_CAP_MS`: the cap of the backoff. -/
  retryCapMs : ℕ
  /-- `BREAKER_FAILURE_THRESHOLD`: consecutive failures that open a breaker. -/
  breakerFailureThreshold : ℕ
  /-- `BREAKER_COOLDOWN_MS`: the first cooldown of an open breaker. -/
  breakerCooldownMs : Binary64
  /-- `BREAKER_MAX_COOLDOWN_MS`: the cap of the cooldown. -/
  breakerMaxCooldownMs : Binary64
  /-- The pool has at least one worker. -/
  concurrency_pos : 1 ≤ concurrency
  /-- A breaker opens on a failure, never on none. -/
  breakerFailureThreshold_pos : 1 ≤ breakerFailureThreshold
  /-- A negative cooldown is replaced by the default. -/
  breakerCooldownMs_nonneg : (0 : ℚ) ≤ breakerCooldownMs
  /-- And so is a negative cap. -/
  breakerMaxCooldownMs_nonneg : (0 : ℚ) ≤ breakerMaxCooldownMs

/-- The defaults of `scheduler.config.js`. -/
def schedulerConfig : SchedulerConfig where
  concurrency := 10
  lockTtlMs := 30000
  maxRetries := 2
  retryBaseMs := 250
  retryCapMs := 4000
  breakerFailureThreshold := 5
  breakerCooldownMs := 60000
  breakerMaxCooldownMs := 900000
  concurrency_pos := by decide
  breakerFailureThreshold_pos := by decide
  breakerCooldownMs_nonneg := by decide +kernel
  breakerMaxCooldownMs_nonneg := by decide +kernel

end WatchTower

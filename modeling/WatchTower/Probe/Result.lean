import WatchTower.Scheduler.Monitor

set_option relaxedAutoImplicit false
set_option autoImplicit false

/-!
# Results of a probe

What `probeOnce` resolves with, what `checkMonitor` makes of it, and the options both take.

## Main definitions

* `WatchTower.Timings`, `WatchTower.ProbeResult`, `WatchTower.CheckResult`.
* `WatchTower.CheckOptions` — the options of `checkMonitor`.
-/

namespace WatchTower

/-- Outbound headers, a flat string-to-string map, in insertion order. -/
abbrev Headers := List (String × String)

/-- The connection phases of a probe in milliseconds, `none` when never observed. -/
structure Timings where
  /-- Hostname resolution, over all hops. -/
  dns : Option ℕ := none
  /-- TCP handshakes, over all hops. -/
  tcp : Option ℕ := none
  /-- TLS handshakes, over all hops. -/
  tls : Option ℕ := none
  /-- Start of the chain to the first byte of the last response. -/
  ttfb : Option ℕ := none
  /-- The whole chain, body included. -/
  total : Option ℕ := none
  deriving DecidableEq

/-- The verdict of one attempt. -/
structure ProbeResult where
  /-- UP or DOWN. -/
  status : Status
  /-- The status code it was graded by, if a response decided it. -/
  statusCode : Option ℕ
  /-- The reason of a DOWN. -/
  error : Option String
  /-- Its code. -/
  errorCode : Option String
  /-- Whether another attempt may come out differently. -/
  retryable : Bool
  /-- Redirects followed. -/
  redirects : ℕ
  /-- The total time, `timings.total` when the attempt settled. -/
  responseTime : ℕ
  /-- The phases. -/
  timings : Timings
  deriving DecidableEq

/-- The result of a check: that of its last attempt, and the number of attempts. -/
structure CheckResult extends ProbeResult where
  /-- How many attempts were made. -/
  attempts : ℕ
  deriving DecidableEq

/-- The options of `checkMonitor`. -/
structure CheckOptions where
  /-- The deadline of each attempt. -/
  timeoutMs : ℚ
  /-- Retries after the first attempt. -/
  maxRetries : ℕ
  /-- Whether certificate errors are ignored. -/
  ignoreTlsErrors : Bool
  /-- Headers to send to the monitored origin. -/
  headers : Headers
  deriving DecidableEq

end WatchTower

import WatchTower.Runtime.Js

set_option relaxedAutoImplicit false
set_option autoImplicit false

/-!
# The monitor document

The fields of `models/monitor.model.js` that the scheduler reads or writes, the owner's edits,
and the `$set` objects of the check. Fields that the code reads with a fallback (`??` or `||`)
are optional, and the fallback stands where the source has it.

## Main definitions

* `WatchTower.Monitor`, `WatchTower.Monitor.fresh` — the document, and a newly created one.
* `WatchTower.OwnerEdit` — what an owner's update request can change.
* `WatchTower.BreakerPatch`, `WatchTower.MonitorUpdate` — partial updates, with their effect.
-/

namespace WatchTower

/-- `status` of a monitor and of a check: `'UP'` or `'DOWN'`. -/
inductive Status
  | up
  | down
  deriving DecidableEq

/-- `breakerState`: `'CLOSED'`, `'OPEN'` or `'HALF_OPEN'`. -/
inductive BreakerState
  | closed
  | opened
  | halfOpen
  deriving DecidableEq

/-- A monitor document. -/
structure Monitor where
  /-- `_id`. -/
  id : ℕ
  /-- The owner. -/
  userId : Option ℕ
  /-- The monitored URL. -/
  url : String
  /-- Seconds between checks. -/
  interval : Option Binary64
  /-- Seconds an attempt may take. -/
  timeout : Option Binary64
  /-- Paused monitors have `some false`. -/
  active : Option Bool
  /-- Whether certificate errors are ignored. -/
  ignoreTlsErrors : Option Bool
  /-- The encrypted outbound headers. -/
  authHeaders : Option String
  /-- The confirmed, debounced status. -/
  status : Option Status
  /-- The raw outcome of the last check. -/
  lastCheckStatus : Option Status
  /-- When the last check was recorded. -/
  lastChecked : Option Time
  /-- The status code the last check saw. -/
  lastStatusCode : Option ℕ
  /-- When the next check is due. -/
  nextCheckAt : Option Time
  /-- Failed checks in a row that open an incident. -/
  failureThreshold : Option ℕ
  /-- Successful checks in a row that close it. -/
  successThreshold : Option ℕ
  /-- The current run of failed checks. -/
  consecutiveFailures : Option ℕ
  /-- The current run of successful checks. -/
  consecutiveSuccesses : Option ℕ
  /-- The persisted breaker state. -/
  breakerState : Option BreakerState
  /-- When the breaker last opened. -/
  breakerOpenedAt : Option Time
  /-- When an open breaker may next probe. -/
  breakerRetryAt : Option Time
  /-- Opens in a row, driving the cooldown. -/
  breakerConsecutiveOpens : Option ℕ
  deriving DecidableEq

/-- A monitor as the schema defaults make it, created at `createdAt`. -/
def Monitor.fresh (id : ℕ) (userId : Option ℕ) (url : String) (createdAt : Time) : Monitor where
  id := id
  userId := userId
  url := url
  interval := some 60
  timeout := some 10
  active := some true
  ignoreTlsErrors := some false
  authHeaders := none
  status := some .up
  lastCheckStatus := none
  lastChecked := none
  lastStatusCode := none
  nextCheckAt := some createdAt
  failureThreshold := some 3
  successThreshold := some 2
  consecutiveFailures := some 0
  consecutiveSuccesses := some 0
  breakerState := some .closed
  breakerOpenedAt := none
  breakerRetryAt := none
  breakerConsecutiveOpens := some 0

/-! ## The owner's edits -/

/-- The part of an update request that concerns scheduling: every field optional, as
`pickWritableFields` builds it. -/
structure OwnerEdit where
  /-- A new URL. -/
  url : Option String := none
  /-- A new interval. -/
  interval : Option Binary64 := none
  /-- A new timeout. -/
  timeout : Option Binary64 := none
  /-- Pause or resume. -/
  active : Option Bool := none
  /-- Whether to ignore certificate errors. -/
  ignoreTlsErrors : Option Bool := none
  /-- New encrypted headers, `some none` clearing them. -/
  authHeaders : Option (Option String) := none
  /-- A new opening threshold. -/
  failureThreshold : Option ℕ := none
  /-- A new closing threshold. -/
  successThreshold : Option ℕ := none

/-- The document after an owner's edit. The thresholds are clamped to at least `1`, as
`pickWritableFields` does. -/
def Monitor.edit (m : Monitor) (e : OwnerEdit) : Monitor :=
  { m with
    url := e.url.getD m.url
    interval := e.interval <|> m.interval
    timeout := e.timeout <|> m.timeout
    active := e.active <|> m.active
    ignoreTlsErrors := e.ignoreTlsErrors <|> m.ignoreTlsErrors
    authHeaders := e.authHeaders.getD m.authHeaders
    failureThreshold := e.failureThreshold.map (max 1) <|> m.failureThreshold
    successThreshold := e.successThreshold.map (max 1) <|> m.successThreshold }

/-! ## The updates of a check -/

/-- The breaker fields a breaker transition sets. A date field is `some none` where the source
writes `null`, and the date itself may be invalid. -/
structure BreakerPatch where
  /-- The new state. -/
  breakerState : Option BreakerState := none
  /-- The new opening time. -/
  breakerOpenedAt : Option (Option JsDate) := none
  /-- The new retry time. -/
  breakerRetryAt : Option (Option JsDate) := none
  /-- The new number of opens in a row. -/
  breakerConsecutiveOpens : Option ℕ := none
  deriving DecidableEq

/-- `{ ...p, ...q }`: the keys of `q` override those of `p`. -/
def BreakerPatch.spread (p q : BreakerPatch) : BreakerPatch where
  breakerState := q.breakerState <|> p.breakerState
  breakerOpenedAt := q.breakerOpenedAt <|> p.breakerOpenedAt
  breakerRetryAt := q.breakerRetryAt <|> p.breakerRetryAt
  breakerConsecutiveOpens := q.breakerConsecutiveOpens <|> p.breakerConsecutiveOpens

/-- The `$set` object that `runCheck` persists. -/
structure MonitorUpdate where
  /-- The time of the check. -/
  lastChecked : JsDate
  /-- Its raw outcome. -/
  lastCheckStatus : Status
  /-- Its status code. -/
  lastStatusCode : Option ℕ
  /-- The run of failures including it. -/
  consecutiveFailures : ℕ
  /-- The run of successes including it. -/
  consecutiveSuccesses : ℕ
  /-- When the next check is due. -/
  nextCheckAt : JsDate
  /-- The breaker fields it sets. -/
  breaker : BreakerPatch
  /-- The confirmed status, when the check changes it. -/
  status : Option Status
  deriving DecidableEq

/-- A date field that is absent, `null` or a valid date: one the database accepts. -/
def castsToDate : Option (Option JsDate) → Bool
  | some (some none) => false
  | _ => true

/-- Whether every date in the update is one the database accepts. Mongoose rejects an update
with an Invalid Date as a whole. -/
def MonitorUpdate.casts (u : MonitorUpdate) : Bool :=
  u.lastChecked.isSome && u.nextCheckAt.isSome && castsToDate u.breaker.breakerOpenedAt &&
    castsToDate u.breaker.breakerRetryAt

/-- The document after `{ $set: update }`. -/
def Monitor.set (m : Monitor) (u : MonitorUpdate) : Monitor :=
  { m with
    lastChecked := u.lastChecked
    lastCheckStatus := some u.lastCheckStatus
    lastStatusCode := u.lastStatusCode
    consecutiveFailures := some u.consecutiveFailures
    consecutiveSuccesses := some u.consecutiveSuccesses
    nextCheckAt := u.nextCheckAt
    breakerState := u.breaker.breakerState <|> m.breakerState
    breakerOpenedAt := (u.breaker.breakerOpenedAt.map Option.join).getD m.breakerOpenedAt
    breakerRetryAt := (u.breaker.breakerRetryAt.map Option.join).getD m.breakerRetryAt
    breakerConsecutiveOpens := u.breaker.breakerConsecutiveOpens <|> m.breakerConsecutiveOpens
    status := u.status <|> m.status }

section Frame

variable (m : Monitor) (u : MonitorUpdate)

/-! An update sets the fields of the check and leaves the owner's alone. -/

@[simp] lemma set_consecutiveFailures :
    (m.set u).consecutiveFailures = some u.consecutiveFailures := rfl

@[simp] lemma set_consecutiveSuccesses :
    (m.set u).consecutiveSuccesses = some u.consecutiveSuccesses := rfl

@[simp] lemma set_breakerState :
    (m.set u).breakerState = (u.breaker.breakerState <|> m.breakerState) := rfl

@[simp] lemma set_breakerRetryAt :
    (m.set u).breakerRetryAt =
      (u.breaker.breakerRetryAt.map Option.join).getD m.breakerRetryAt := rfl

@[simp] lemma set_status : (m.set u).status = (u.status <|> m.status) := rfl

end Frame

end WatchTower

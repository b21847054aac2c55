import WatchTower.Scheduler.Config
import WatchTower.Scheduler.Monitor

set_option relaxedAutoImplicit false
set_option autoImplicit false

/-!
# The circuit breaker

`services/circuitBreaker.js`: pure functions over a monitor's persisted breaker fields. A check
passes through three of them. `evaluateBreaker` decides at the tick whether the monitor may be
checked and with which patch; `onCheckSuccess` or `onCheckFailure` then compute a second patch
from the same document, which `runCheck` spreads over the first.

## Main definitions

* `WatchTower.cooldownFor`, `WatchTower.evaluateBreaker`, `WatchTower.onCheckSuccess`,
  `WatchTower.onCheckFailure` — the functions of the source.
* `WatchTower.breakerStateOf` — the state a document is in, absent meaning closed.
* `WatchTower.outcomePatch` — the two patches of a check, spread.

## Main results

* `WatchTower.outcomePatch_up`, `WatchTower.outcomePatch_down_closed`,
  `WatchTower.outcomePatch_down_opened`, `WatchTower.outcomePatch_down_halfOpen` — what a check
  does to the breaker, by outcome and by the state it found.
-/

namespace WatchTower

/-- The cooldown after so many opens in a row: doubling, capped. Doubling a double is exact, unless
it is beyond their range and the cap decides. A base of zero is not followed to the 1024th open in a
row, from where on the product is not a number. -/
def cooldownFor (cfg : SchedulerConfig) (consecutiveOpens : ℕ) : ℚ :=
  min (cfg.breakerCooldownMs * 2 ^ consecutiveOpens) cfg.breakerMaxCooldownMs

/-- The state of a document's breaker: `monitor.breakerState || CLOSED`. -/
def breakerStateOf (m : Monitor) : BreakerState := m.breakerState.getD .closed

/-- The answer of `evaluateBreaker`. -/
structure BreakerVerdict where
  /-- Whether the monitor may be checked now. -/
  allowed : Bool
  /-- The mode of the check. -/
  mode : BreakerState
  /-- A change to persist with the check. -/
  patch : Option BreakerPatch
  deriving DecidableEq

/-- Decide whether a due monitor may be checked now. An open breaker admits a probe once its
cooldown has elapsed; a missing retry time counts as the epoch. -/
def evaluateBreaker (m : Monitor) (nowMs : Time) : BreakerVerdict :=
  match breakerStateOf m with
  | .closed => ⟨true, .closed, none⟩
  | .halfOpen => ⟨true, .halfOpen, none⟩
  | .opened =>
    if m.breakerRetryAt.getD 0 ≤ nowMs then
      ⟨true, .halfOpen, some { breakerState := some .halfOpen }⟩
    else ⟨false, .opened, none⟩

/-- After a successful check: close the breaker and clear the escalation. -/
def onCheckSuccess (m : Monitor) : BreakerPatch :=
  if breakerStateOf m = .closed then {}
  else
    { breakerState := some .closed
      breakerOpenedAt := some none
      breakerRetryAt := some none
      breakerConsecutiveOpens := some 0 }

/-- After a failed check: reopen from half-open, open from closed at the threshold. -/
def onCheckFailure (cfg : SchedulerConfig) (m : Monitor) (consecutiveFailures : ℕ)
    (nowMs : Time) : BreakerPatch :=
  if breakerStateOf m = .halfOpen then
    let opens := m.breakerConsecutiveOpens.getD 0 + 1
    { breakerState := some .opened
      breakerOpenedAt := some (some (newDate nowMs))
      breakerRetryAt := some (some (newDate (afterMs nowMs (cooldownFor cfg opens))))
      breakerConsecutiveOpens := some opens }
  else if breakerStateOf m = .closed ∧ cfg.breakerFailureThreshold ≤ consecutiveFailures then
    { breakerState := some .opened
      breakerOpenedAt := some (some (newDate nowMs))
      breakerRetryAt := some (some (newDate (afterMs nowMs (cooldownFor cfg 0))))
      breakerConsecutiveOpens := some 1 }
  else {}

/-- The breaker part of a check's update: the verdict's patch with the outcome's spread over
it. Both are computed from the document the tick loaded. -/
def outcomePatch (cfg : SchedulerConfig) (m : Monitor) (verdict : BreakerVerdict) (up : Bool)
    (consecutiveFailures : ℕ) (nowMs : Time) : BreakerPatch :=
  (verdict.patch.getD {}).spread
    (if up then onCheckSuccess m else onCheckFailure cfg m consecutiveFailures nowMs)

variable {cfg : SchedulerConfig} {m : Monitor} {tickMs nowMs : Time} {failures : ℕ}

/-- The breaker state after an update, absent meaning closed. -/
lemma breakerStateOf_set (u : MonitorUpdate) :
    breakerStateOf (m.set u) = u.breaker.breakerState.getD (breakerStateOf m) := by
  unfold breakerStateOf
  cases h : u.breaker.breakerState <;> simp [h]

/-- A closed breaker admits every check, in the closed mode. -/
lemma evaluateBreaker_closed (h : breakerStateOf m = .closed) :
    evaluateBreaker m tickMs = ⟨true, .closed, none⟩ := by
  simp [evaluateBreaker, h]

/-- A half-open breaker admits every check, as a probe. -/
lemma evaluateBreaker_halfOpen (h : breakerStateOf m = .halfOpen) :
    evaluateBreaker m tickMs = ⟨true, .halfOpen, none⟩ := by
  simp [evaluateBreaker, h]

/-- What an open breaker admits: a probe, no earlier than the retry time. -/
lemma evaluateBreaker_opened (h : breakerStateOf m = .opened)
    (hallowed : (evaluateBreaker m tickMs).allowed = true) :
    m.breakerRetryAt.getD 0 ≤ tickMs ∧ evaluateBreaker m tickMs =
      ⟨true, .halfOpen, some { breakerState := some .halfOpen }⟩ := by
  unfold evaluateBreaker at hallowed ⊢
  simp only [h] at hallowed ⊢
  split_ifs at hallowed ⊢ with hr
  · exact ⟨hr, rfl⟩

/-- The admitted mode is half-open exactly when the breaker is not closed. -/
lemma evaluateBreaker_mode (hallowed : (evaluateBreaker m tickMs).allowed = true) :
    (evaluateBreaker m tickMs).mode = .halfOpen ↔ breakerStateOf m ≠ .closed := by
  cases h : breakerStateOf m with
  | closed => simp [evaluateBreaker_closed h]
  | halfOpen => simp [evaluateBreaker_halfOpen h]
  | opened => simp [(evaluateBreaker_opened h hallowed).2]

/-- **A successful check leaves the breaker closed.** -/
lemma outcomePatch_up (verdict : BreakerVerdict)
    (hclosed : breakerStateOf m = .closed → verdict.patch = none) :
    (outcomePatch cfg m verdict true failures nowMs).breakerState.getD (breakerStateOf m) =
      .closed := by
  by_cases h : breakerStateOf m = .closed
  · simp [outcomePatch, onCheckSuccess, BreakerPatch.spread, hclosed h, h]
  · simp [outcomePatch, onCheckSuccess, BreakerPatch.spread, h]

/-- **A failed check on a closed breaker** opens it once the run of failures has reached the
threshold, with the first cooldown, and changes nothing before. -/
lemma outcomePatch_down_closed (h : breakerStateOf m = .closed) :
    outcomePatch cfg m (evaluateBreaker m tickMs) false failures nowMs =
      if cfg.breakerFailureThreshold ≤ failures then
        { breakerState := some .opened
          breakerOpenedAt := some (some (newDate nowMs))
          breakerRetryAt := some (some (newDate (afterMs nowMs (cooldownFor cfg 0))))
          breakerConsecutiveOpens := some 1 }
      else {} := by
  rw [evaluateBreaker_closed h]
  by_cases hf : cfg.breakerFailureThreshold ≤ failures
  · simp [outcomePatch, onCheckFailure, BreakerPatch.spread, h, hf]
  · simp [outcomePatch, onCheckFailure, BreakerPatch.spread, h, hf]

/-- **A failed probe of an open breaker** leaves the verdict's patch alone: `onCheckFailure`
looks at the loaded document, which is still `OPEN`, and has no branch for it. -/
lemma outcomePatch_down_opened (h : breakerStateOf m = .opened)
    (hallowed : (evaluateBreaker m tickMs).allowed = true) :
    outcomePatch cfg m (evaluateBreaker m tickMs) false failures nowMs =
      { breakerState := some .halfOpen } := by
  rw [(evaluateBreaker_opened h hallowed).2]
  simp [outcomePatch, onCheckFailure, BreakerPatch.spread, h]

/-- **A failed probe of a half-open breaker** reopens it with a longer cooldown. -/
lemma outcomePatch_down_halfOpen (h : breakerStateOf m = .halfOpen) :
    outcomePatch cfg m (evaluateBreaker m tickMs) false failures nowMs =
      { breakerState := some .opened
        breakerOpenedAt := some (some (newDate nowMs))
        breakerRetryAt := some (some (newDate
          (afterMs nowMs (cooldownFor cfg (m.breakerConsecutiveOpens.getD 0 + 1)))))
        breakerConsecutiveOpens := some (m.breakerConsecutiveOpens.getD 0 + 1) } := by
  rw [evaluateBreaker_halfOpen h]
  simp [outcomePatch, onCheckFailure, BreakerPatch.spread, h]

end WatchTower

import WatchTower.Probe.RetryLadder
import WatchTower.Scheduler.CheckDeadline

set_option relaxedAutoImplicit false
set_option autoImplicit false

/-!
# The retry budget of a check

`runCheck` passes the configured number of retries to `checkMonitor`, and none when the check is
the half-open probe of a breaker.

## Main results

* `WatchTower.maxRetries_ladderEnv_halfOpen` — a half-open probe has no retries.
* `WatchTower.retry_ladder` — what a check returns and does, for every sequence of results.
* `WatchTower.exists_returned_run` — a check can return, unless its requests are refused.
-/

namespace WatchTower

open Transition

/-- A half-open probe has no retries. -/
lemma maxRetries_ladderEnv_halfOpen (node : Node) (env : CheckEnv) (m : Monitor) :
    (ladderEnv node env m .halfOpen).options.maxRetries = 0 := rfl

/-- **The retry ladder.** The loop returns the first result that is UP or not retryable, or the
last one, for every sequence of results and of draws. A call of `checkMonitor` does the same on the
results of its probes, of which it counts every one. A half-open probe is one probe. -/
theorem retry_ladder :
    (∀ (cfg : SchedulerConfig) (maxRetries : ℕ) (results : ℕ → ProbeResult) (draws : ℕ → ℚ),
      (∀ k, 0 ≤ draws k ∧ draws k < 1) →
        ClimbsLadder cfg results maxRetries (retryLoop cfg results draws 0 maxRetries).1
          (retryLoop cfg results draws 0 maxRetries).2) ∧
      (∀ (env : LadderEnv) (t : ℕ) (es : List LadderEvent) (l : LadderLog) (r : CheckResult),
        Run (LoggedStep env) (.start env t) es l → l.ladder.phase = .returned r →
          ∃ results, BeginsWith results l.results ∧
            ClimbsLadder env.config results env.options.maxRetries r l.actions ∧
            l.ladder.probes.length = r.attempts) ∧
      ∀ (node : Node) (env : CheckEnv) (m : Monitor) (t : ℕ) (es : List LadderEvent)
        (l : LadderLog),
        Run (LoggedStep (ladderEnv node env m .halfOpen))
          (.start (ladderEnv node env m .halfOpen) t) es l →
            l.actions = [.probe] ∧ l.ladder.probes.length = 1 := by
  refine ⟨fun cfg maxRetries results draws hdraws => ?_, fun env t es l r hrun hreturned => ?_,
    fun node env m t es l hrun => ?_⟩
  · exact climbsLadder_retryLoop cfg results (fun k => (hdraws k).2) maxRetries
  · exact (climbing_of_run hrun).climbsLadder hreturned
  · exact (climbing_of_run hrun).actions_of_maxRetries_eq_zero
      (maxRetries_ladderEnv_halfOpen node env m)

/-! ## A target that never answers -/

/-- What happens to a call, the clock apart. -/
def CheckEvent.acts : CheckEvent → List LadderEvent
  | .elapse _ => []
  | .act e => [e]

/-- A run with a clock is a run. -/
lemma run_untimed {env : LadderEnv} {s s' : TimedLadder} {es : List CheckEvent}
    (h : Run (TimedStep env) s es s') :
    Run (LadderStep env) s.ladder (es.flatMap CheckEvent.acts) s'.ladder := by
  induction h with
  | nil s => exact .nil _
  | @cons s t u e es hstep _ ih =>
    cases hstep with
    | elapse => exact ih
    | act _ hact => exact .cons hact ih

/-- **A call can return**, DOWN, whenever its requests can be issued. -/
theorem exists_returned_run {env : LadderEnv} (h : env.Issues) (t : ℕ) :
    ∃ es l r, Run (LoggedStep env) (.start env t) es l ∧ l.ladder.phase = .returned r ∧
      r.status = .down := by
  obtain ⟨es, s, r, hrun, -, hreturned, hdown⟩ := exists_slowest_run h t
  obtain ⟨l, hlogged, hl⟩ := exists_logged_run (run_untimed hrun) (.start env t) rfl
  exact ⟨_, l, r, hlogged, by rw [hl, hreturned], hdown⟩

/-- The ladder, with the default tunables and a target that never answers. -/
theorem retry_ladder_unanswered : ∃ es l r results,
    Run (LoggedStep (sampleCheck [])) (.start (sampleCheck []) 0) es l ∧
      l.ladder.phase = .returned r ∧ r.status = .down ∧ BeginsWith results l.results ∧
      ClimbsLadder schedulerConfig results 2 r l.actions := by
  have hissues : (sampleCheck []).Issues := ⟨⟨"http:", "http://a.test"⟩, rfl, .inr rfl, rfl, rfl⟩
  obtain ⟨es, l, r, hrun, hreturned, hdown⟩ := exists_returned_run hissues 0
  obtain ⟨results, hbegins, hclimbs, -⟩ := retry_ladder.2.1 _ 0 es l r hrun hreturned
  exact ⟨es, l, r, results, hrun, hreturned, hdown, hbegins, hclimbs⟩

end WatchTower

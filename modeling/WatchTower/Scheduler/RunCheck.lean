import WatchTower.Scheduler.CircuitBreaker
import WatchTower.Scheduler.Incident

set_option relaxedAutoImplicit false
set_option autoImplicit false

/-!
# One check

`MonitorScheduler.runCheck`: probe the target, fold the result into the monitor's counters,
breaker and status, persist that as one `$set`, write the log row, and open or close an incident
on the edge of the confirmed status.

The metrics, the scheduler's statistics and the socket events are left out; `runCheck` returns
the incident transition that they report.

## Main definitions

* `WatchTower.shouldOpen`, `WatchTower.shouldClose`, `WatchTower.checkUpdate` — what a check
  decides, as a function of the document the tick loaded and the result.
* `WatchTower.transitionIncident`, `WatchTower.runCheck`.

## Main results

* `WatchTower.run_runCheck_of_ok` — what a check does when no call fails.
* `WatchTower.disturb_runCheck_lost`, `WatchTower.disturb_runCheck_kept` — what it leaves behind
  when one does, before and after the incident's write.
-/

namespace WatchTower

open Transition Transition.Prog

/-- `value || fallback` for a number. -/
def orDefault (value : Option Binary64) (fallback : Binary64) : Binary64 :=
  match value with
  | some q => if q = 0 then fallback else q
  | none => fallback

/-- `MIN_INTERVAL_SECONDS`. -/
def minIntervalSeconds : Binary64 := 5

/-- What a check needs besides the documents: the configuration, and the decryption of stored
headers. -/
structure CheckEnv where
  /-- The tunables. -/
  config : SchedulerConfig
  /-- `decryptAuthHeaders`. -/
  decryptAuthHeaders : Option String → Headers

/-- `(monitor.timeout || 10) * 1000`. -/
def timeoutMs (m : Monitor) : Binary64 := orDefault m.timeout 10 * 1000

/-- The options a check passes to `checkMonitor`. -/
def checkOptions (env : CheckEnv) (m : Monitor) (mode : BreakerState) : CheckOptions where
  timeoutMs := timeoutMs m
  maxRetries := if mode = .halfOpen then 0 else env.config.maxRetries
  ignoreTlsErrors := m.ignoreTlsErrors = some true
  headers := env.decryptAuthHeaders m.authHeaders

/-- `failureThreshold` of a check. -/
def failureThresholdOf (m : Monitor) : ℕ := max 1 (m.failureThreshold.getD 3)

/-- `successThreshold` of a check. -/
def successThresholdOf (m : Monitor) : ℕ := max 1 (m.successThreshold.getD 2)

/-- `consecutiveFailures` after a check. -/
def failuresAfter (m : Monitor) (up : Bool) : ℕ :=
  if up then 0 else m.consecutiveFailures.getD 0 + 1

/-- `consecutiveSuccesses` after a check. -/
def successesAfter (m : Monitor) (up : Bool) : ℕ :=
  if up then m.consecutiveSuccesses.getD 0 + 1 else 0

/-- `intervalSeconds` of a check. -/
def intervalSeconds (m : Monitor) : Binary64 := max minIntervalSeconds (orDefault m.interval 60)

/-- `intervalSeconds * 1000`. -/
def intervalMs (m : Monitor) : Binary64 := intervalSeconds m * 1000

/-- `confirmed`: the status the check found. -/
def confirmedOf (m : Monitor) : Status := m.status.getD .up

/-- Whether the check crosses the failure threshold. -/
def shouldOpen (m : Monitor) (up : Bool) : Bool :=
  !up && confirmedOf m = .up && failureThresholdOf m ≤ failuresAfter m up

/-- Whether the check crosses the success threshold. -/
def shouldClose (m : Monitor) (up : Bool) : Bool :=
  up && confirmedOf m = .down && successThresholdOf m ≤ successesAfter m up

/-- Whether a result is `UP`. -/
def CheckResult.up (result : CheckResult) : Bool := result.status = .up

/-- The `$set` object of a check. -/
def checkUpdate (cfg : SchedulerConfig) (m : Monitor) (verdict : BreakerVerdict)
    (result : CheckResult) (now : Time) : MonitorUpdate where
  lastChecked := newDate now
  lastCheckStatus := result.status
  lastStatusCode := result.statusCode
  consecutiveFailures := failuresAfter m result.up
  consecutiveSuccesses := successesAfter m result.up
  nextCheckAt := newDate (afterMs now (intervalMs m))
  breaker := outcomePatch cfg m verdict result.up (failuresAfter m result.up) now
  status :=
    if shouldClose m result.up then some .up
    else if shouldOpen m result.up then some .down
    else none

/-- The log row of a check. -/
def logRow (m : Monitor) (result : CheckResult) (now : Time) : LogRow where
  monitorId := m.id
  status := result.status
  latency := some result.responseTime
  timings := result.timings
  statusCode := result.statusCode
  error := result.error
  attempts := result.attempts
  timestamp := now

/-- `result.error || "Monitor … is down"`. -/
def incidentReason (m : Monitor) (result : CheckResult) : String :=
  match result.error with
  | some error => if error = "" then "Monitor " ++ m.url ++ " is down" else error
  | none => "Monitor " ++ m.url ++ " is down"

/-- The incident transition of a check. A failure is logged, the check stays recorded. -/
def transitionIncident (m : Monitor) (update : MonitorUpdate) (result : CheckResult)
    (incidentAt : Time) : Async (Option IncidentEvent) :=
  catchError
    (do
      if shouldOpen m result.up then
        let (_, opened) ← openIncident (m.set update) (incidentReason m result) incidentAt
        return if opened then some .opened else none
      else if shouldClose m result.up then
        let (_, closed) ← closeIncident (m.set update) incidentAt
        return if closed then some .closed else none
      else return none)
    fun _ => return none

/-- The two clock readings of a check after its probe. -/
structure CheckClock where
  /-- `now`, read when the probe has returned. -/
  now : Time
  /-- The reading inside `openIncident` or `closeIncident`. -/
  incidentAt : Time

/-- One monitor's check, from the document and the verdict of the tick. It returns the probe's
result and the incident transition it made. -/
def runCheck (env : CheckEnv) (m : Monitor) (verdict : BreakerVerdict) (clock : CheckClock) :
    Async (CheckResult × Option IncidentEvent) := do
  let result : CheckResult ← await (Op.checkMonitor m.url (checkOptions env m verdict.mode))
  let update := checkUpdate env.config m verdict result clock.now
  let () ← await (Op.updateMonitor m.id update)
  let () ← await (Op.createLog (logRow m result clock.now))
  let transition ← transitionIncident m update result clock.incidentAt
  return (result, transition)

/-! ## Seconds and milliseconds -/

/-- An interval is at least five seconds. -/
lemma five_le_intervalSeconds (m : Monitor) : (5 : ℚ) ≤ intervalSeconds m := by
  have hmin : (minIntervalSeconds : ℚ) = 5 := Binary64.coe_ofNat (by norm_num)
  have hle : minIntervalSeconds ≤ intervalSeconds m := le_max_left _ _
  rw [← hmin]
  exact hle

/-- Seconds become milliseconds by a product in double precision. -/
lemma coe_mul_thousand (x : Binary64) :
    ((x * 1000 : Binary64) : ℚ) = Binary64.round (x * 1000) := by
  have hthousand : ((1000 : Binary64) : ℚ) = 1000 := Binary64.coe_ofNat (by norm_num)
  rw [Binary64.coe_mul, hthousand]

/-! ## The incident transition -/

variable (ext : External) {db : Db} {m : Monitor}

/-- A check never crosses both thresholds. -/
lemma shouldClose_eq_false_of_shouldOpen {up : Bool} (h : shouldOpen m up = true) :
    shouldClose m up = false := by
  simp only [shouldOpen, Bool.and_eq_true, Bool.not_eq_true'] at h
  simp [shouldClose, h.1.1]

/-- What the incident transition does, given how many incidents of the monitor are ongoing. -/
inductive TransitionEffect (db : Db) (m : Monitor) (result : CheckResult) :
    Option IncidentEvent → Db → Prop
  | opens {db' : Db} : shouldOpen m result.up = true → ongoingCount db m.id = 0 →
      Transitioned db m .opened db' → TransitionEffect db m result (some .opened) db'
  | closes {db' : Db} : shouldClose m result.up = true → ongoingCount db m.id ≠ 0 →
      Transitioned db m .closed db' → TransitionEffect db m result (some .closed) db'
  | stays : (shouldOpen m result.up = true → ongoingCount db m.id ≠ 0) →
      (shouldClose m result.up = true → ongoingCount db m.id = 0) →
      TransitionEffect db m result none db

/-- **The incident transition of a check**, undisturbed. -/
lemma run_transitionIncident (db : Db) (m : Monitor) (update : MonitorUpdate)
    (result : CheckResult) (t : Time) :
    ∃ a db', (transitionIncident m update result t).run (exec ext) db = (.ok a, db') ∧
      TransitionEffect db m result a db' := by
  have hset : ∀ event db', Transitioned db (m.set update) event db' →
      Transitioned db m event db' := fun event db' h =>
    ⟨h.monitors, h.users, h.count_self, h.count_of_ne, h.dispatches⟩
  by_cases ho : shouldOpen m result.up = true
  · have hc := shouldClose_eq_false_of_shouldOpen ho
    by_cases hn : ongoingCount db m.id = 0
    · obtain ⟨i, db', hrun, htr⟩ := run_openIncident_of_none ext (m := m.set update) hn
        (incidentReason m result) t
      exact ⟨some .opened, db', by simp [transitionIncident, ho, hrun],
        .opens ho hn (hset _ _ htr)⟩
    · obtain ⟨i, hrun⟩ := run_openIncident_of_ongoing ext (m := m.set update) hn
        (incidentReason m result) t
      exact ⟨none, db, by simp [transitionIncident, ho, hrun],
        .stays (fun _ => hn) (by simp [hc])⟩
  · by_cases hc : shouldClose m result.up = true
    · by_cases hn : ongoingCount db m.id = 0
      · exact ⟨none, db, by simp [transitionIncident, ho, hc, run_closeIncident_of_none ext
          (m := m.set update) hn], .stays (fun h => absurd h ho) fun _ => hn⟩
      · obtain ⟨i, db', hrun, htr⟩ := run_closeIncident_of_ongoing ext
          (m := m.set update) hn t
        exact ⟨some .closed, db', by simp [transitionIncident, ho, hc, hrun],
          .closes hc hn (hset _ _ htr)⟩
    · exact ⟨none, db, by simp [transitionIncident, ho, hc],
        .stays (fun h => absurd h ho) fun h => absurd h hc⟩

/-! ## The whole check -/

/-- The database with a check recorded: the `$set` applied and the log row written. -/
def recorded (db : Db) (m : Monitor) (update : MonitorUpdate) (row : LogRow) : Db :=
  { db with
    monitors := Function.update db.monitors m.id ((db.monitors m.id).map (·.set update))
    logs := db.logs ++ [row] }

/-- Recording a check writes the loaded document. -/
lemma monitors_recorded {id : ℕ} {update : MonitorUpdate} (row : LogRow) (hid : m.id = id)
    (hm : db.monitors id = some m) : (recorded db m update row).monitors =
      Function.update db.monitors id (some (m.set update)) := by
  simp [recorded, hid, hm]

/-- Recording a check opens and resolves nothing. -/
@[simp] lemma ongoingCount_recorded (update : MonitorUpdate) (row : LogRow) (k : ℕ) :
    ongoingCount (recorded db m update row) k = ongoingCount db k := rfl

variable {env : CheckEnv} {verdict : BreakerVerdict} {clock : CheckClock}
  {update : MonitorUpdate} {result : CheckResult} {t : Time}

/-- The result of a check's probe. -/
def probed (ext : External) (env : CheckEnv) (m : Monitor) (verdict : BreakerVerdict) :
    CheckResult :=
  ext.checkMonitor m.url (checkOptions env m verdict.mode)

/-- A check whose update holds an Invalid Date throws and records nothing. -/
lemma run_runCheck_of_not_casts
    (h : (checkUpdate env.config m verdict (probed ext env m verdict) clock.now).casts = false) :
    (runCheck env m verdict clock).run (exec ext) db = (.error castError, db) := by
  simp only [probed] at h
  simp [runCheck, exec, h]

/-- Any other check records itself and then makes its incident transition. -/
lemma run_runCheck_of_casts
    (hr : result = probed ext env m verdict)
    (hu : update = checkUpdate env.config m verdict result clock.now)
    (h : update.casts = true) :
    (runCheck env m verdict clock).run (exec ext) db =
      match (transitionIncident m update result clock.incidentAt).run (exec ext)
        (recorded db m update (logRow m result clock.now)) with
      | (.ok a, db') => (.ok (result, a), db')
      | (.error e, db') => (.error e, db') := by
  subst hr
  rw [hu] at h
  simp only [probed] at h
  simp only [runCheck, bind_eq, run_bind, run_await, exec, h, if_true, hu, recorded, probed]
  rcases (transitionIncident m _ _ _).run (exec ext) _ with ⟨_ | _, _⟩ <;> rfl

/-- **A check in which no call fails**: its update is accepted and recorded with the log row, and
its incident transition follows. -/
theorem run_runCheck_of_ok {a : Option IncidentEvent} {db' : Db}
    (h : (runCheck env m verdict clock).run (exec ext) db = (.ok (result, a), db')) :
    result = probed ext env m verdict ∧
      (checkUpdate env.config m verdict result clock.now).casts = true ∧
      TransitionEffect (recorded db m (checkUpdate env.config m verdict result clock.now)
        (logRow m result clock.now)) m result a db' := by
  by_cases hc :
      (checkUpdate env.config m verdict (probed ext env m verdict) clock.now).casts = true
  · rw [run_runCheck_of_casts ext rfl rfl hc] at h
    obtain ⟨a', db'', hrun, heff⟩ := run_transitionIncident ext
      (recorded db m (checkUpdate env.config m verdict (probed ext env m verdict) clock.now)
        (logRow m (probed ext env m verdict) clock.now)) m
      (checkUpdate env.config m verdict (probed ext env m verdict) clock.now)
      (probed ext env m verdict) clock.incidentAt
    rw [hrun] at h
    simp only [Prod.mk.injEq, Except.ok.injEq] at h
    obtain ⟨⟨rfl, rfl⟩, rfl⟩ := h
    exact ⟨rfl, hc, heff⟩
  · rw [run_runCheck_of_not_casts ext (by simpa using hc)] at h
    simp at h

/-! ## Checks struck by a fault -/

/-- The calls that write neither a monitor nor a log row. -/
def Op.KeepsRecords : Op → Prop
  | .updateMonitor _ _ | .createLog _ => False
  | _ => True

/-- The calls that follow a transition are among them. -/
lemma Op.FollowsTransition.keepsRecords {o : Op} (h : o.FollowsTransition) : o.KeepsRecords := by
  cases o <;> trivial

/-- **The incident transition of a check**: nothing, or a write that opens or resolves, and calls
that follow it. -/
lemma transitionIncident_writes (m : Monitor) (update : MonitorUpdate) (result : CheckResult)
    (t : Time) :
    shouldOpen m result.up = false ∧ shouldClose m result.up = false ∧
        transitionIncident m update result t = ret none ∨
      (shouldOpen m result.up = true ∧ ∃ ins k, transitionIncident m update result t =
        call (Op.upsertIncident m.id ins) k ∧ ∀ r, (k r).AllCalls Op.FollowsTransition) ∨
      (shouldClose m result.up = true ∧ ∃ k, transitionIncident m update result t =
        call (Op.resolveIncident m.id t) k ∧ ∀ r, (k r).AllCalls Op.FollowsTransition) := by
  by_cases ho : shouldOpen m result.up = true
  · refine .inr (.inl ⟨ho, ⟨m.userId, t, incidentReason m result⟩, _,
      by simp only [transitionIncident, ho, if_true]; rfl, fun r => ?_⟩)
    refine AllCalls.catchError (AllCalls.bind ?_ fun _ => trivial) fun _ => trivial
    rcases r with err | ⟨incident, updatedExisting⟩
    · change AllCalls _ (if err.code = some (.num 11000) then _ else _)
      split_ifs
      · exact AllCalls.bind (allCalls_await.2 trivial) fun _ => trivial
      · trivial
    · change AllCalls _ (if updatedExisting = true then _ else _)
      split_ifs
      · trivial
      · exact AllCalls.bind (summarise_follows _ _) fun i =>
          AllCalls.bind (notifyOwner_follows _ _ _ _) fun _ => trivial
  · by_cases hc : shouldClose m result.up = true
    · refine .inr (.inr ⟨hc, _, by simp only [transitionIncident, ho, hc, if_true]; rfl,
        fun r => ?_⟩)
      refine AllCalls.catchError (AllCalls.bind ?_ fun _ => trivial) fun _ => trivial
      rcases r with err | _ | incident
      · trivial
      · trivial
      · change AllCalls _ (Prog.bind (Incident.save _ _) _)
        exact AllCalls.bind (save_follows _ _) fun i =>
          AllCalls.bind (notifyOwner_follows _ _ _ _) fun _ => trivial
    · exact .inl ⟨by simpa using ho, by simpa using hc,
        by simp [transitionIncident, ho, hc, catchError]⟩

/-- The first call of an incident transition is the write that opens or resolves, and the rest
follow it. -/
lemma transitionIncident_cases (m : Monitor) (update : MonitorUpdate) (result : CheckResult)
    (t : Time) :
    transitionIncident m update result t = ret none ∨
      ∃ o k, transitionIncident m update result t = call o k ∧ o.KeepsRecords ∧
        ∀ r, (k r).AllCalls Op.FollowsTransition := by
  rcases transitionIncident_writes m update result t with
    ⟨-, -, h⟩ | ⟨-, ins, k, h, hk⟩ | ⟨-, k, h, hk⟩
  · exact .inl h
  · exact .inr ⟨_, k, h, trivial, hk⟩
  · exact .inr ⟨_, k, h, trivial, hk⟩

/-- Equal states have the same outages. -/
lemma SameOutages.refl (db : Db) : SameOutages db db := ⟨rfl, rfl, fun _ => rfl⟩

/-- A fault at the incident's write: the transition is not made. -/
lemma disturb_transitionIncident_zero (fault : Fault JsError) :
    SameOutages db ((transitionIncident m update result t).disturb (exec ext) fault 0 db) := by
  rcases transitionIncident_cases m update result t with h | ⟨o, k, h, -, hk⟩
  · rw [h]
    exact .refl db
  · rw [h]
    have hk' := fun r => (hk r).mono fun _ => Op.FollowsTransition.keepsOutages
    cases fault with
    | kill => exact .refl db
    | reject e =>
      exact (hk' (.error e)).run_invariant (exec ext) (sameOutages_exec ext db) (.refl db)

/-- A fault after the incident's write: the transition is the one of the undisturbed run. -/
lemma disturb_transitionIncident_succ (db : Db) (m : Monitor) (update : MonitorUpdate)
    (result : CheckResult) (t : Time) (fault : Fault JsError) (n : ℕ) :
    ∃ db₁, SameOutages db₁ ((transitionIncident m update result t).run (exec ext) db).2 ∧
      SameOutages db₁
        ((transitionIncident m update result t).disturb (exec ext) fault (n + 1) db) := by
  rcases transitionIncident_cases m update result t with h | ⟨o, k, h, -, hk⟩
  · rw [h]
    exact ⟨db, .refl db, .refl db⟩
  · rw [h]
    have hk' := fun r => (hk r).mono fun _ => Op.FollowsTransition.keepsOutages
    exact ⟨(exec ext o db).2,
      (hk' _).run_invariant (exec ext) (sameOutages_exec ext _) (.refl _),
      (hk' _).disturb_invariant (exec ext) fault (sameOutages_exec ext _) (.refl _)⟩

/-- A check is a sequence of four awaited parts: the probe, the `$set`, the log row and the
incident transition. -/
lemma runCheck_eq : runCheck env m verdict clock =
    (await (Op.checkMonitor m.url (checkOptions env m verdict.mode))).bind fun result =>
      (await (Op.updateMonitor m.id
        (checkUpdate env.config m verdict result clock.now))).bind fun _ =>
      (await (Op.createLog (logRow m result clock.now))).bind fun _ =>
      (transitionIncident m (checkUpdate env.config m verdict result clock.now) result
        clock.incidentAt).bind fun a => ret (result, a) := rfl

section Faults

variable (fault : Fault JsError)

/-- The answer of a check's probe. -/
lemma exec_checkMonitor : exec ext (Op.checkMonitor m.url (checkOptions env m verdict.mode)) db =
    (.ok (probed ext env m verdict), db) := rfl

/-- The database after the `$set` of a check. -/
lemma exec_updateMonitor (h : update.casts = true) : exec ext (Op.updateMonitor m.id update) db =
    (.ok (), { db with
      monitors := Function.update db.monitors m.id ((db.monitors m.id).map (·.set update)) }) := by
  simp [exec, h]

/-- A fault at the probe leaves the check unrecorded, -/
lemma disturb_runCheck_zero :
    (runCheck env m verdict clock).disturb (exec ext) fault 0 db = db := by
  rw [runCheck_eq, disturb_await_bind_zero]

/-- and so does one at the `$set`. -/
lemma disturb_runCheck_one : (runCheck env m verdict clock).disturb (exec ext) fault 1 db = db := by
  rw [runCheck_eq, disturb_await_bind_succ _ _ _ _ (exec_checkMonitor ext),
    disturb_await_bind_zero]

/-- A fault at the log row or later strikes after the `$set`. -/
lemma disturb_runCheck_add_two (hr : result = probed ext env m verdict)
    (hu : update = checkUpdate env.config m verdict result clock.now) (h : update.casts = true)
    (n : ℕ) : (runCheck env m verdict clock).disturb (exec ext) fault (n + 2) db =
      ((await (Op.createLog (logRow m result clock.now))).bind fun _ =>
        (transitionIncident m update result clock.incidentAt).bind fun a =>
          ret (result, a)).disturb (exec ext) fault n
        { db with
          monitors := Function.update db.monitors m.id
            ((db.monitors m.id).map (·.set update)) } := by
  subst hr
  rw [runCheck_eq, disturb_await_bind_succ _ _ _ _ (exec_checkMonitor ext), ← hu,
    disturb_await_bind_succ _ _ _ _ (exec_updateMonitor ext h)]

/-- A fault later than the log row strikes in the incident transition. -/
lemma disturb_runCheck_add_three (hr : result = probed ext env m verdict)
    (hu : update = checkUpdate env.config m verdict result clock.now) (h : update.casts = true)
    (n : ℕ) : (runCheck env m verdict clock).disturb (exec ext) fault (n + 3) db =
      (transitionIncident m update result clock.incidentAt).disturb (exec ext) fault n
        (recorded db m update (logRow m result clock.now)) := by
  rw [disturb_runCheck_add_two ext fault hr hu h (n + 1)]
  exact disturb_bind_ret _ _ _ _ _ _

/-- **A fault at the log row or at the incident's write**: the check is recorded on the monitor,
and its incident transition is lost. -/
theorem disturb_runCheck_lost (hr : result = probed ext env m verdict)
    (hu : update = checkUpdate env.config m verdict result clock.now) (h : update.casts = true)
    {n : ℕ} (hn : n = 2 ∨ n = 3) :
    SameOutages (recorded db m update (logRow m result clock.now))
      ((runCheck env m verdict clock).disturb (exec ext) fault n db) := by
  rcases hn with rfl | rfl
  · rw [disturb_runCheck_add_two ext fault hr hu h 0, disturb_await_bind_zero]
    exact ⟨rfl, rfl, fun _ => rfl⟩
  · rw [disturb_runCheck_add_three ext fault hr hu h 0]
    exact disturb_transitionIncident_zero ext fault

/-- **A fault later than that**: the transition is the one of the undisturbed check. -/
theorem disturb_runCheck_kept (hr : result = probed ext env m verdict)
    (hu : update = checkUpdate env.config m verdict result clock.now) (h : update.casts = true)
    {n : ℕ} (hn : 4 ≤ n) :
    ∃ db₁, SameOutages db₁ ((runCheck env m verdict clock).run (exec ext) db).2 ∧
      SameOutages db₁ ((runCheck env m verdict clock).disturb (exec ext) fault n db) := by
  obtain ⟨k, rfl⟩ : ∃ k, n = (k + 1) + 3 := ⟨n - 4, by omega⟩
  obtain ⟨db₁, h₁, h₂⟩ := disturb_transitionIncident_succ ext
    (recorded db m update (logRow m result clock.now)) m update result clock.incidentAt fault k
  refine ⟨db₁, ?_, ?_⟩
  · rw [run_runCheck_of_casts ext hr hu h]
    rcases hrun : (transitionIncident m update result clock.incidentAt).run (exec ext) _ with
      ⟨_ | _, _⟩ <;> simpa [hrun] using h₁
  · rw [disturb_runCheck_add_three ext fault hr hu h (k + 1)]
    exact h₂

end Faults

end WatchTower

import WatchTower.Scheduler.Faults

set_option relaxedAutoImplicit false
set_option autoImplicit false

/-!
# Interrupted checks

The process can be killed at any call of `runCheck`; the restarted process works from what the
database holds. A check is recorded in two collections by two awaited writes, the `$set` on the
monitor and then the log row.

## Main definitions

* `WatchTower.LifeStep` — the world with checks that a fault interrupts.
* `WatchTower.CheckRecorded` — both writes of a check are in the database.
* `WatchTower.NotHalfRecorded` — all of a check is recorded, or nothing.

## Main results

* `WatchTower.killed_of_not_casts`, `WatchTower.checkRecorded_of_faulted` — what a kill leaves
  behind when the `$set` is refused, and what a fault does after the log row.
* `WatchTower.notHalfRecorded_iff` — a killed check is not half recorded exactly when the kill
  does not fall between the two writes.
* `WatchTower.not_due_of_betweenWrites` — the restarted scheduler does not repeat the check.
-/

namespace WatchTower

open Transition Transition.Prog

/-- What happens to the process: it works, or a fault strikes call `n` of a check. -/
inductive LifeEvent
  | works (e : Event)
  | struck (c : Check) (m : Monitor) (fault : Fault JsError) (n : ℕ)

/-- The steps of the world, with interrupted checks. -/
inductive LifeStep (env : CheckEnv) : World → LifeEvent → World → Prop
  | works {w w' : World} {e : Event} : Step env w e w' → LifeStep env w (.works e) w'
  | struck {w : World} {c : Check} {m : Monitor} {fault : Fault JsError} {n : ℕ} :
      w.db.monitors c.id = some m →
      due m c.tickAt = true →
      (c.verdict m).allowed = true →
      c.tickAt ≤ c.clock.now →
      LifeStep env w (.struck c m fault n) (faultedWorld env w c m fault n)

/-- The update of a check, from the result of its probe. -/
abbrev Check.probedUpdate (env : CheckEnv) (c : Check) (m : Monitor) : MonitorUpdate :=
  c.update env m (probed c.ext env m (c.verdict m))

/-- The log row of a check, from the result of its probe. -/
abbrev Check.probedRow (env : CheckEnv) (c : Check) (m : Monitor) : LogRow :=
  logRow m (probed c.ext env m (c.verdict m)) c.clock.now

/-- Both writes of a check are in the database: the fields of the monitor, and the log row. -/
structure CheckRecorded (env : CheckEnv) (c : Check) (m : Monitor) (db db' : Db) : Prop where
  monitor : db'.monitors =
    Function.update db.monitors c.id (some (m.set (c.probedUpdate env m)))
  log : db'.logs = db.logs ++ [c.probedRow env m]

/-- An interrupted check has left the state before it, or one in which it is recorded. -/
def NotHalfRecorded (env : CheckEnv) (c : Check) (m : Monitor) (db db' : Db) : Prop :=
  db' = db ∨ CheckRecorded env c m db db'

/-- The kill falls between the two writes that record the check: at the log row (call `2`),
after a `$set` (call `1`) that the database has accepted. -/
def BetweenWrites (env : CheckEnv) (c : Check) (m : Monitor) (n : ℕ) : Prop :=
  n = 2 ∧ (c.probedUpdate env m).casts = true

variable {env : CheckEnv} {w w' : World} {c : Check} {m : Monitor} {n : ℕ}
  {fault : Fault JsError}

/-! ## What a fault leaves behind -/

/-- A `$set` that the database refuses ends the check: nothing is recorded. -/
lemma killed_of_not_casts (h : (c.probedUpdate env m).casts = false) :
    (faultedWorld env w c m fault n).db = w.db := by
  have hrefused : exec c.ext (Op.updateMonitor m.id (c.probedUpdate env m)) w.db =
      (.error castError, w.db) := by
    simp [exec, h]
  rw [faultedWorld, runCheck_eq]
  cases n with
  | zero => exact disturb_await_bind_zero _ _ _ _ _
  | succ n =>
    rw [disturb_await_bind_succ _ _ _ _ (exec_checkMonitor c.ext)]
    cases n with
    | zero => exact disturb_await_bind_zero _ _ _ _ _
    | succ n => exact disturb_await_bind_error _ _ n _ hrefused

/-- A fault at the probe or at the `$set` leaves the check unrecorded. -/
lemma faulted_of_lt_two (fault : Fault JsError) (hn : n < 2) :
    (faultedWorld env w c m fault n).db = w.db := by
  obtain rfl | rfl : n = 0 ∨ n = 1 := by omega
  · rw [faultedWorld, runCheck_eq, disturb_await_bind_zero]
  · exact disturb_runCheck_one c.ext fault

/-- A fault at the log row leaves the fields of the monitor, and no log row. -/
lemma faulted_two (fault : Fault JsError) (h : (c.probedUpdate env m).casts = true) :
    (faultedWorld env w c m fault 2).db =
      { w.db with
        monitors := Function.update w.db.monitors m.id
          ((w.db.monitors m.id).map (·.set (c.probedUpdate env m))) } := by
  rw [faultedWorld, disturb_runCheck_add_two c.ext fault rfl rfl h 0, disturb_await_bind_zero]

/-- Calls that write neither a monitor nor a log row keep both collections. -/
lemma exec_keepsRecords (ext : External) (db₀ : Db) (o : Op) (db : Db) (ho : o.KeepsRecords)
    (h : db.monitors = db₀.monitors ∧ db.logs = db₀.logs) :
    (exec ext o db).2.monitors = db₀.monitors ∧ (exec ext o db).2.logs = db₀.logs := by
  cases o with
  | updateMonitor => exact ho.elim
  | createLog => exact ho.elim
  | upsertIncident monitorId ins =>
    rw [exec]
    split <;> exact h
  | _ => exact h

/-- The incident transition writes neither a monitor nor a log row. -/
lemma transitionIncident_keepsRecords (m : Monitor) (update : MonitorUpdate)
    (result : CheckResult) (t : Time) :
    (transitionIncident m update result t).AllCalls Op.KeepsRecords := by
  rcases transitionIncident_cases m update result t with h | ⟨o, k, h, ho, hk⟩
  · rw [h]
    trivial
  · rw [h]
    exact ⟨ho, fun r => (hk r).mono fun _ => Op.FollowsTransition.keepsRecords⟩

/-- **A fault after the log row leaves a recorded check.** -/
theorem checkRecorded_of_faulted (fault : Fault JsError) (hm : w.db.monitors c.id = some m)
    (hid : m.id = c.id) (h : (c.probedUpdate env m).casts = true) (hn : 3 ≤ n) :
    CheckRecorded env c m w.db (faultedWorld env w c m fault n).db := by
  obtain ⟨k, rfl⟩ : ∃ k, n = k + 3 := ⟨n - 3, by omega⟩
  have hkeeps := (transitionIncident_keepsRecords m (c.probedUpdate env m)
    (probed c.ext env m (c.verdict m)) c.clock.incidentAt).disturb_invariant (exec c.ext) fault
    (exec_keepsRecords c.ext (recorded w.db m (c.probedUpdate env m) (c.probedRow env m)))
    (n := k) ⟨rfl, rfl⟩
  rw [faultedWorld, disturb_runCheck_add_three c.ext fault rfl rfl h k]
  exact ⟨hkeeps.1.trans (monitors_recorded _ hid hm), hkeeps.2⟩

/-- The fields of the monitor are written, or it is left alone. -/
lemma monitors_faulted (fault : Fault JsError) (hm : w.db.monitors c.id = some m)
    (hid : m.id = c.id) :
    (faultedWorld env w c m fault n).db.monitors = w.db.monitors ∨
      (faultedWorld env w c m fault n).db.monitors =
        Function.update w.db.monitors c.id (some (m.set (c.probedUpdate env m))) := by
  cases h : (c.probedUpdate env m).casts with
  | false => exact .inl (by rw [killed_of_not_casts h])
  | true =>
    rcases Nat.lt_trichotomy n 2 with hn | rfl | hn
    · exact .inl (by rw [faulted_of_lt_two fault hn])
    · refine .inr ?_
      rw [faulted_two fault h, hid, hm]
      rfl
    · exact .inr (checkRecorded_of_faulted fault hm hid h hn).monitor

/-! ## Whole lives -/

/-- Worlds stay keyed, whatever interrupts the checks. -/
lemma LifeStep.keyed {e : LifeEvent} (hw : Keyed w.db) (h : LifeStep env w e w') :
    Keyed w'.db := by
  cases h with
  | works h => exact hw.step h
  | @struck c m fault n hm =>
    rcases @monitors_faulted env w c m n fault hm (hw _ _ hm) with h | h
    · intro k m' hk
      rw [h] at hk
      exact hw k m' hk
    · exact hw.write h (show m.id = c.id from hw _ _ hm)

/-- The worlds of a life are keyed. -/
lemma keyed_of_life {users : ℕ → Bool} {es : List LifeEvent}
    (hrun : Run (LifeStep env) (.empty users) es w) : Keyed w.db := by
  have hstep : ∀ w e w', Keyed w.db → LifeStep env w e w' → Keyed w'.db :=
    fun _ _ _ => LifeStep.keyed
  exact hrun.invariant hstep (consistent_empty users).keyed

/-- A check changes its monitor: one of the two counters is raised. -/
lemma set_update_ne (env : CheckEnv) (c : Check) (m : Monitor) (result : CheckResult) :
    m.set (c.update env m result) ≠ m := by
  intro h
  cases hup : result.up with
  | false =>
    have hcount : some (failuresAfter m result.up) = m.consecutiveFailures :=
      congrArg Monitor.consecutiveFailures h
    rw [failuresAfter, hup, ← hcount] at hcount
    simp at hcount
  | true =>
    have hcount : some (successesAfter m result.up) = m.consecutiveSuccesses :=
      congrArg Monitor.consecutiveSuccesses h
    rw [successesAfter, hup, ← hcount] at hcount
    simp at hcount

/-- A fault between the two writes leaves a half-recorded check. -/
lemma halfRecorded_of_betweenWrites (fault : Fault JsError) (hm : w.db.monitors c.id = some m)
    (hid : m.id = c.id) (hbetween : BetweenWrites env c m n) :
    ¬NotHalfRecorded env c m w.db (faultedWorld env w c m fault n).db := by
  obtain ⟨rfl, h⟩ := hbetween
  rw [NotHalfRecorded, faulted_two fault h]
  rintro (hbefore | hrec)
  · have hmon := congrFun (congrArg Db.monitors hbefore) c.id
    simp only [hid, Function.update_self, hm, Option.map_some, Option.some.injEq] at hmon
    exact set_update_ne _ _ _ _ hmon
  · simpa using hrec.log

/-- **A killed check is not half recorded exactly when the kill does not fall between the two
writes.** In every reachable world, for every check of it, every outcome of its calls and every
call at which the process can die.

**Proof sketch.** Before the `$set`, or when it is refused, nothing is written; after the log row
both writes are there and no later call undoes them. In between, the monitor differs from the
one before, since a check always raises one of its counters, and the log is the one before. -/
theorem notHalfRecorded_iff {users : ℕ → Bool} {es : List LifeEvent}
    (hrun : Run (LifeStep env) (.empty users) es w)
    (hkill : LifeStep env w (.struck c m .kill n) w') :
    NotHalfRecorded env c m w.db w'.db ↔ ¬BetweenWrites env c m n := by
  have hkeyed := keyed_of_life hrun
  cases hkill with
  | struck hm =>
    have hid := hkeyed _ _ hm
    by_cases hbetween : BetweenWrites env c m n
    · exact iff_of_false (halfRecorded_of_betweenWrites .kill hm hid hbetween) (by simpa)
    · refine iff_of_true ?_ hbetween
      cases h : (c.probedUpdate env m).casts with
      | false => exact .inl (killed_of_not_casts h)
      | true =>
        have hne : n ≠ 2 := fun hn => hbetween ⟨hn, h⟩
        by_cases hn : n < 2
        · exact .inl (faulted_of_lt_two .kill hn)
        · exact .inr (checkRecorded_of_faulted .kill hm hid h (by omega))

/-- **A half-recorded check is not repeated**: until the next check is due by the fields it has
written, the restarted scheduler leaves the monitor alone. -/
theorem not_due_of_betweenWrites {users : ℕ → Bool} {es : List LifeEvent}
    (hrun : Run (LifeStep env) (.empty users) es w)
    (hkill : LifeStep env w (.struck c m .kill n) w') (hbetween : BetweenWrites env c m n)
    {t : Time} (hafter : c.clock.now ≤ t)
    (hbefore : ∀ d, (c.probedUpdate env m).nextCheckAt = some d → t < d) :
    ∃ m', w'.db.monitors c.id = some m' ∧ due m' t = false := by
  obtain ⟨rfl, hcasts⟩ := hbetween
  cases hkill with
  | struck hm =>
    have hid := keyed_of_life hrun _ _ hm
    refine ⟨m.set (c.probedUpdate env m), ?_, ?_⟩
    · rw [faulted_two .kill hcasts, hid, hm]
      simp
    · have hchecked : ∀ d, (m.set (c.probedUpdate env m)).lastChecked = some d → d ≤ t := by
        intro d hd
        obtain rfl := eq_of_newDate_eq_some (t := d) hd
        exact hafter
      have hnext : ∀ d, (m.set (c.probedUpdate env m)).nextCheckAt = some d → t < d := hbefore
      cases hl : (m.set (c.probedUpdate env m)).lastChecked <;>
        cases hn : (m.set (c.probedUpdate env m)).nextCheckAt <;>
        simp_all [due]

/-- A new monitor. -/
def newMonitor : Monitor := .fresh 0 (some 7) "http://a" 0

/-- The world in which it was created. -/
def createdWorld : World :=
  { World.empty fun _ => true with db := { (World.empty fun _ => true).db with
      monitors := Function.update (fun _ => none) 0 (some newMonitor) } }

/-- The process can be killed before the log row of its first check is written. -/
lemma exists_killed_between :
    ∃ es, Run (LifeStep defaultEnv) (.empty fun _ => true) es createdWorld ∧
      LifeStep defaultEnv createdWorld (.struck (checkAt 0 0 .down) newMonitor .kill 2)
        (faultedWorld defaultEnv createdWorld (checkAt 0 0 .down) newMonitor .kill 2) := by
  have hcreate : Step defaultEnv (.empty fun _ => true) (.create 0 (some 7) "http://a" 0)
      createdWorld := .create rfl
  refine ⟨_, run_singleton_iff.2 (.works hcreate), .struck rfl ?_ ?_ le_rfl⟩
  · decide
  · decide

/-- Not every killed check is all recorded or not at all. -/
theorem half_recorded_by_kill :
    ¬∀ es w c m n w', Run (LifeStep defaultEnv) (.empty fun _ => true) es w →
      LifeStep defaultEnv w (.struck c m .kill n) w' →
      NotHalfRecorded defaultEnv c m w.db w'.db := by
  intro h
  obtain ⟨es, hrun, hkill⟩ := exists_killed_between
  refine halfRecorded_of_betweenWrites .kill rfl rfl ?_ (h _ _ _ _ _ _ hrun hkill)
  exact ⟨rfl, by decide +kernel⟩

/-- The same life, under the condition that tells it apart. -/
theorem notHalfRecorded_iff_killed :
    NotHalfRecorded defaultEnv (checkAt 0 0 .down) newMonitor createdWorld.db
        (faultedWorld defaultEnv createdWorld (checkAt 0 0 .down) newMonitor .kill 2).db ↔
      ¬BetweenWrites defaultEnv (checkAt 0 0 .down) newMonitor 2 := by
  obtain ⟨es, hrun, hkill⟩ := exists_killed_between
  exact notHalfRecorded_iff hrun hkill

end WatchTower

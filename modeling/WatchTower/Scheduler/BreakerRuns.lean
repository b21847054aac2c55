import WatchTower.Scheduler.Tick

set_option relaxedAutoImplicit false
set_option autoImplicit false

/-!
# The breaker over whole runs

The breaker fields of a monitor are computed by three functions from the document the tick
loaded. This module follows them through the scheduler's runs: which states are reached, what an
open breaker's retry time is, and how the breaker relates to the confirmed status.

## Main definitions

* `WatchTower.BreakerLaws` — what a check is to do to the breaker: a failed probe reopens it, no
  check leaves it half-open, and a cooldown separates consecutive checks.
* `WatchTower.FailsFromOpen` — the checks at which these laws break.
* `WatchTower.NoHiddenOutage` — a breaker that is not closed belongs to a confirmed outage.
* `WatchTower.OpensUnconfirmed` — the checks at which that breaks.

## Main results

* `WatchTower.breakerLaws_iff` — the laws hold throughout a run exactly when no probe of an open
  breaker fails in it.
* `WatchTower.noHiddenOutage_iff` — no outage is hidden throughout a run exactly when no check
  opens a breaker before the monitor's own threshold is reached.
-/

namespace WatchTower

open Transition

section OneCheck

variable {env : CheckEnv} {w w' : World} {c : Check} {m : Monitor} {r : CheckResult}
  {a : Option IncidentEvent}

/-- The document after a check. -/
lemma Checked.monitor (h : Checked env w c m r a w') :
    w'.db.monitors c.id = some (m.set (c.update env m r)) := by
  rw [h.monitors, Function.update_self]

/-- The breaker part of a check's update. -/
lemma update_breaker : (c.update env m r).breaker =
    outcomePatch env.config m (c.verdict m) r.up (failuresAfter m r.up) c.clock.now := rfl

/-- A successful check leaves the breaker closed. -/
lemma Checked.breaker_up (hup : r.up = true) :
    breakerStateOf (m.set (c.update env m r)) = .closed := by
  rw [breakerStateOf_set, update_breaker, hup]
  exact outcomePatch_up _ fun h => congrArg BreakerVerdict.patch (evaluateBreaker_closed h)

/-- A failed check of a closed breaker opens it when the run of failures is long enough. -/
lemma Checked.breaker_down_closed (hup : r.up = false) (hm : breakerStateOf m = .closed) :
    breakerStateOf (m.set (c.update env m r)) =
      if env.config.breakerFailureThreshold ≤ failuresAfter m false then .opened
      else .closed := by
  rw [breakerStateOf_set, update_breaker, hup, outcomePatch_down_closed hm]
  split_ifs <;> simp [hm]

/-- **A failed probe of an open breaker leaves it half-open.** -/
lemma Checked.breaker_down_opened (h : Checked env w c m r a w') (hup : r.up = false)
    (hm : breakerStateOf m = .opened) :
    breakerStateOf (m.set (c.update env m r)) = .halfOpen := by
  rw [breakerStateOf_set, update_breaker, hup, outcomePatch_down_opened hm h.admitted]
  rfl

/-- The check that opens a closed breaker records when it was made and when to retry. -/
lemma Checked.retryAt_of_opens (h : Checked env w c m r a w') (hup : r.up = false)
    (hm : breakerStateOf m = .closed)
    (hopens : env.config.breakerFailureThreshold ≤ failuresAfter m false) :
    (c.update env m r).lastChecked = some c.clock.now ∧ ∃ retryAt,
      (c.update env m r).breaker.breakerRetryAt = some (some (some retryAt)) ∧
        (m.set (c.update env m r)).breakerRetryAt = some retryAt := by
  have hb : (c.update env m r).breaker =
      outcomePatch env.config m (c.verdict m) r.up (failuresAfter m r.up) c.clock.now :=
    update_breaker
  rw [hup, outcomePatch_down_closed hm, if_pos hopens] at hb
  have hcasts := h.casts
  simp only [MonitorUpdate.casts, hb, Bool.and_eq_true] at hcasts
  obtain ⟨⟨⟨hnow, -⟩, -⟩, hretry⟩ := hcasts
  obtain ⟨now, hnow⟩ := Option.isSome_iff_exists.1 hnow
  obtain rfl : now = c.clock.now := eq_of_newDate_eq_some hnow
  cases hd : newDate (afterMs c.clock.now (cooldownFor env.config 0)) with
  | none => simp [hd, castsToDate] at hretry
  | some retryAt => exact ⟨hnow, retryAt, by rw [hb, hd], by rw [set_breakerRetryAt, hb, hd]; rfl⟩

end OneCheck

/-! ## The laws of the breaker -/

/-- The laws of the breaker at one step. For a check: a failed probe leaves the breaker open, to
be retried strictly later than the check, with one more open counted; no check leaves it
half-open; and a check that finds the breaker not closed is no earlier than the cooldown which
the monitor's previous check set. -/
def BreakerLaws (w : World) (e : Event) (w' : World) : Prop :=
  match e with
  | .check c m r _ =>
    ((c.verdict m).mode = .halfOpen → r.up = false → ∃ m' retryAt,
      w'.db.monitors c.id = some m' ∧ m'.breakerState = some .opened ∧
        m'.breakerRetryAt = some retryAt ∧ c.clock.now < retryAt ∧
        m.breakerConsecutiveOpens.getD 0 < m'.breakerConsecutiveOpens.getD 0) ∧
    (∀ m', w'.db.monitors c.id = some m' → breakerStateOf m' ≠ .halfOpen) ∧
    ∀ u, w.last c.id = some u → breakerStateOf m ≠ .closed → ∃ checkedAt retryAt,
      u.lastChecked = some checkedAt ∧ u.breaker.breakerRetryAt = some (some (some retryAt)) ∧
        retryAt - checkedAt ≤ c.clock.now - checkedAt
  | _ => True

/-- The checks at which the laws break: a failed probe of a breaker persisted as `OPEN`. -/
def FailsFromOpen (e : Event) : Prop :=
  match e with
  | .check _ m r _ => breakerStateOf m = .opened ∧ r.up = false
  | _ => False

/-- The breaker is closed, or open with the retry time its monitor's last check set. -/
def ClosedOrOpened (w : World) (id : ℕ) (m : Monitor) : Prop :=
  breakerStateOf m = .closed ∨ breakerStateOf m = .opened ∧ ∃ u checkedAt retryAt,
    w.last id = some u ∧ u.lastChecked = some checkedAt ∧
      u.breaker.breakerRetryAt = some (some (some retryAt)) ∧ m.breakerRetryAt = some retryAt

/-- A consistent world in which no breaker is half-open. -/
structure Cooling (w : World) : Prop where
  consistent : Consistent w.db
  breaker : ∀ id m, w.db.monitors id = some m → ClosedOrOpened w id m

variable {env : CheckEnv} {w w' : World} {e : Event}

/-- What a check does to a breaker that is closed or open, when no probe of an open one fails. -/
lemma Checked.closedOrOpened {c : Check} {m : Monitor} {r : CheckResult}
    {a : Option IncidentEvent} (h : Checked env w c m r a w') (hm : ClosedOrOpened w c.id m)
    (hok : ¬FailsFromOpen (.check c m r a)) :
    ClosedOrOpened w' c.id (m.set (c.update env m r)) := by
  cases hup : r.up with
  | true => exact .inl (Checked.breaker_up hup)
  | false =>
    rcases hm with hm | ⟨hm, -⟩
    · by_cases hopens : env.config.breakerFailureThreshold ≤ failuresAfter m false
      · obtain ⟨hlast, retryAt, hset, hdoc⟩ := h.retryAt_of_opens hup hm hopens
        refine .inr ⟨by rw [Checked.breaker_down_closed hup hm, if_pos hopens], ?_⟩
        exact ⟨_, _, retryAt, by rw [h.last, Function.update_self], hlast, hset, hdoc⟩
      · exact .inl (by rw [Checked.breaker_down_closed hup hm, if_neg hopens])
    · exact absurd ⟨hm, hup⟩ hok

/-- **At one step**, the laws hold exactly when the step is no failed probe of an open breaker. -/
theorem breakerLaws_step_iff (hw : Cooling w) (h : Step env w e w') :
    BreakerLaws w e w' ↔ ¬FailsFromOpen e := by
  cases e with
  | create => simp [BreakerLaws, FailsFromOpen]
  | edit => simp [BreakerLaws, FailsFromOpen]
  | check c m r a =>
    have hc := h.checked hw.consistent.keyed
    have hm := hw.breaker _ _ hc.loaded
    constructor
    · rintro ⟨-, hnot, -⟩ ⟨hopen, hup⟩
      exact hnot _ hc.monitor (hc.breaker_down_opened hup hopen)
    · intro hok
      refine ⟨fun hmode hup => ?_, fun m' hm' hhalf => ?_, fun u hu hne => ?_⟩
      · -- A probe that fails would be one of an open breaker: no breaker here is half-open.
        have hne := (evaluateBreaker_mode hc.admitted).1 hmode
        rcases hm with hm | ⟨hm, -⟩
        · exact absurd hm hne
        · exact absurd ⟨hm, hup⟩ hok
      · obtain rfl := Option.some.inj (hm'.symm.trans hc.monitor)
        rcases hc.closedOrOpened hm hok with h | ⟨h, -⟩ <;> simp [h] at hhalf
      · rcases hm with hm | ⟨hm, u', t₁, t₂, hu', hlast, hset, hdoc⟩
        · exact absurd hm hne
        · obtain rfl := Option.some.inj (hu.symm.trans hu')
          have hretry := (evaluateBreaker_opened hm hc.admitted).1
          rw [hdoc] at hretry
          have hclock := hc.clock
          simp only [Option.getD_some] at hretry
          exact ⟨t₁, t₂, hlast, hset, Int.sub_le_sub_right (hretry.trans hclock) t₁⟩

/-- A step that is no failed probe of an open breaker leaves no breaker half-open. -/
theorem Cooling.step (hw : Cooling w) (h : Step env w e w') (hok : ¬FailsFromOpen e) :
    Cooling w' where
  consistent := hw.consistent.step h
  breaker id m' hm' := by
    rcases h.monitor_cases hw.consistent.keyed hm' with
      ⟨hm, hlast⟩ | ⟨u, url, t, -, -, -, rfl⟩ | ⟨o, m, -, hm, hlast, rfl⟩ |
        ⟨c, m, r, a, rfl, rfl, hc, rfl⟩
    · have := hw.breaker id m' hm
      rwa [ClosedOrOpened, ← hlast] at this
    · exact .inl rfl
    · have := hw.breaker id m hm
      rwa [ClosedOrOpened, ← hlast] at this
    · exact hc.closedOrOpened (hw.breaker _ _ hc.loaded) hok

/-- An empty world has no breakers. -/
lemma cooling_empty (users : ℕ → Bool) : Cooling (.empty users) where
  consistent := consistent_empty users
  breaker := by simp [World.empty]

/-- **The laws of the breaker hold throughout a run exactly when no probe of an open breaker
fails in it.** Such a probe leaves the breaker `HALF_OPEN`, without a new retry time: the
outcome's patch is computed from the loaded document, which is still `OPEN`. -/
theorem breakerLaws_iff (users : ℕ → Bool) (es : List Event) :
    AllSteps (Step env) BreakerLaws (.empty users) es ↔
      AllSteps (Step env) (fun _ e _ => ¬FailsFromOpen e) (.empty users) es := by
  have hiff : ∀ w e w', Cooling w → Step env w e w' → (BreakerLaws w e w' ↔ ¬FailsFromOpen e) :=
    fun _ _ _ => breakerLaws_step_iff
  have hinv : ∀ w e w', Cooling w → Step env w e w' → ¬FailsFromOpen e → Cooling w' :=
    fun _ _ _ => Cooling.step
  exact allSteps_iff hiff hinv (cooling_empty users) es

/-- With the default configuration, five failed checks open the breaker, and the failed probe
after its cooldown leaves it half-open. -/
theorem breakerLaws_fail_at_failed_probe :
    ∃ es w e w', Run (Step defaultEnv) (.empty fun _ => true) es w ∧ Step defaultEnv w e w' ∧
      ¬BreakerLaws w e w' := by
  obtain ⟨es, w, hrun, hp⟩ := exists_run_of_performAll defaultEnv (.empty fun _ => true)
    [.create 0 (some 7) "http://a" 0, .check (checkAt 0 0 .down), .check (checkAt 0 60000 .down),
      .check (checkAt 0 120000 .down), .check (checkAt 0 180000 .down),
      .check (checkAt 0 240000 .down)]
    (fun x => checkLeaves defaultEnv x.2 (checkAt 0 300000 .down) fun _ _ w' =>
      (w'.db.monitors 0).any fun m => breakerStateOf m = .halfOpen)
    (by decide +kernel)
  obtain ⟨m, r, transition, w', hstep, hp⟩ := exists_step_of_checkLeaves hp
  obtain ⟨m', hm', hhalf⟩ := (Option.any_eq_true _ _).1 hp
  refine ⟨es, w, _, w', hrun, hstep, fun h => ?_⟩
  exact h.2.1 m' hm' (by simpa using hhalf)

/-! ## The breaker and the confirmed status -/

/-- A monitor whose breaker is not closed has the confirmed status `DOWN`, and an incident is
open for it. -/
def NoHiddenOutage (db : Db) : Prop :=
  ∀ id m, db.monitors id = some m → breakerStateOf m ≠ .closed →
    m.status = some .down ∧ ongoingCount db id = 1

/-- The checks at which that breaks: a failure opens the closed breaker of a monitor whose
status is still `UP`, and the monitor's own threshold is not reached. -/
def OpensUnconfirmed (env : CheckEnv) (e : Event) : Prop :=
  match e with
  | .check _ m r _ => breakerStateOf m = .closed ∧ r.up = false ∧
      env.config.breakerFailureThreshold ≤ failuresAfter m false ∧
      confirmedOf m = .up ∧ failuresAfter m false < failureThresholdOf m
  | _ => False

/-- A persisted status is `DOWN` exactly when it is read as `DOWN`. -/
lemma confirmedOf_eq_down_iff {m : Monitor} : confirmedOf m = .down ↔ m.status = some .down := by
  rcases h : m.status with _ | _ | _ <;> simp [confirmedOf, h]

/-- The status after a failed check: `DOWN` once the threshold is reached, unchanged before. -/
lemma confirmedAfter_down {m : Monitor} : confirmedAfter m false =
    if failureThresholdOf m ≤ failuresAfter m false then .down else confirmedOf m := by
  cases h : confirmedOf m <;> by_cases hf : failureThresholdOf m ≤ failuresAfter m false <;>
    simp [confirmedAfter, transitionOf, shouldOpen, shouldClose, h, hf]

/-- **At one step**, no outage becomes hidden exactly when the step opens no breaker before its
monitor's threshold is reached. -/
theorem noHiddenOutage_step_iff (hcons : Consistent w.db) (hw : NoHiddenOutage w.db)
    (h : Step env w e w') : NoHiddenOutage w'.db ↔ ¬OpensUnconfirmed env e := by
  constructor
  · intro hno hopens
    cases e with
    | create => exact hopens
    | edit => exact hopens
    | check c m r a =>
      obtain ⟨hclosed, hup, hB, hconf, hlt⟩ := hopens
      have hc := h.checked hcons.keyed
      have hopened : breakerStateOf (m.set (c.update env m r)) = .opened := by
        rw [Checked.breaker_down_closed hup hclosed, if_pos hB]
      have hdown := (hno c.id _ hc.monitor (by simp [hopened])).1
      rw [← confirmedOf_eq_down_iff, confirmedOf_set, hup, confirmedAfter_down,
        if_neg (by omega), hconf] at hdown
      cases hdown
  · intro hok id m' hm' hne
    rw [← confirmedOf_eq_down_iff, (hcons.step h).agrees id m' hm']
    suffices hdown : confirmedOf m' = .down by simp [hdown]
    rcases h.monitor_cases hcons.keyed hm' with ⟨hm, -⟩ | ⟨u, url, t, -, -, -, rfl⟩ |
      ⟨o, m, -, hm, -, rfl⟩ | ⟨c, m, r, a, rfl, rfl, hc, rfl⟩
    · exact confirmedOf_eq_down_iff.2 (hw id m' hm hne).1
    · exact absurd rfl hne
    · exact confirmedOf_eq_down_iff.2 (hw id m hm hne).1
    · rw [confirmedOf_set]
      cases hup : r.up with
      | true => exact absurd (Checked.breaker_up hup) hne
      | false =>
        rw [confirmedAfter_down]
        split_ifs with hf
        · rfl
        · by_cases hclosed : breakerStateOf m = .closed
          · rw [Checked.breaker_down_closed hup hclosed] at hne
            have hB : env.config.breakerFailureThreshold ≤ failuresAfter m false := by
              by_contra hB
              exact hne (if_neg hB)
            cases hconf : confirmedOf m with
            | down => rfl
            | up => exact absurd ⟨hclosed, hup, hB, hconf, by omega⟩ hok
          · exact confirmedOf_eq_down_iff.2 (hw _ m hc.loaded hclosed).1

/-- **No outage is hidden throughout a run exactly when no check of it opens a breaker before the
monitor's own threshold is reached.** The breaker's threshold is one for all monitors, and a
monitor's own may be larger. -/
theorem noHiddenOutage_iff (users : ℕ → Bool) (es : List Event) :
    AllSteps (Step env) (fun _ _ w => NoHiddenOutage w.db) (.empty users) es ↔
      AllSteps (Step env) (fun _ e _ => ¬OpensUnconfirmed env e) (.empty users) es := by
  have hiff : ∀ w e w', (Consistent w.db ∧ NoHiddenOutage w.db) → Step env w e w' →
      (NoHiddenOutage w'.db ↔ ¬OpensUnconfirmed env e) :=
    fun _ _ _ hw h => noHiddenOutage_step_iff hw.1 hw.2 h
  have hinv : ∀ w e w', (Consistent w.db ∧ NoHiddenOutage w.db) → Step env w e w' →
      ¬OpensUnconfirmed env e → (Consistent w'.db ∧ NoHiddenOutage w'.db) :=
    fun w e w' hw h hok => ⟨hw.1.step h, (hiff w e w' hw h).2 hok⟩
  exact allSteps_iff hiff hinv
    (s := .empty users) ⟨consistent_empty users, by simp [NoHiddenOutage, World.empty]⟩ es

/-- With the default configuration and the threshold `10`, five failed checks open the breaker
of a monitor that is still `UP`. -/
theorem noHiddenOutage_fails_above_breaker_threshold :
    ∃ es w, Run (Step defaultEnv) (.empty fun _ => true) es w ∧ ¬NoHiddenOutage w.db := by
  obtain ⟨es, w, hrun, hp⟩ := exists_run_of_performAll defaultEnv (.empty fun _ => true)
    [.create 0 (some 7) "http://a" 0, .edit 0 { failureThreshold := some 10 },
      .check (checkAt 0 0 .down), .check (checkAt 0 60000 .down),
      .check (checkAt 0 120000 .down), .check (checkAt 0 180000 .down),
      .check (checkAt 0 240000 .down)]
    (fun x => (x.2.db.monitors 0).any fun m =>
      breakerStateOf m = .opened ∧ m.status = some .up)
    (by decide +kernel)
  obtain ⟨m, hm, hp⟩ := (Option.any_eq_true _ _).1 hp
  simp only [decide_eq_true_eq] at hp
  refine ⟨es, w, hrun, fun h => ?_⟩
  have hdown := (h 0 m hm (by simp [hp.1])).1
  simp [hp.2] at hdown

end WatchTower

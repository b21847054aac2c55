import WatchTower.Scheduler.RunCheck
import WatchTower.Transition.Run

set_option relaxedAutoImplicit false
set_option autoImplicit false

/-!
# Runs of the scheduler

The world a single leader works in: monitors are created and edited by their owners, and the
ticks check those that are due and admitted. The checks of one monitor never overlap, and those
of different monitors touch different documents, so a run lists them in the order in which they
complete.

Everything a check reads is in the database, so a restart of the process between two checks is
no event at all.

## Main definitions

* `WatchTower.due` — the filter of `findDueMonitors`.
* `WatchTower.World`, `WatchTower.Event`, `WatchTower.Step` — the system.
* `WatchTower.perform`, `WatchTower.performAll` — the same, computed.
* `WatchTower.Consistent` — a monitor's confirmed status and its incidents agree.
* `WatchTower.Checked` — what a completed check has done.

## Main results

* `WatchTower.Step.checked`, `WatchTower.Checked.consistent` — a completed check, in full.
* `WatchTower.Step.monitor_cases` — what a step can do to a monitor.
* `WatchTower.Consistent.step`, `WatchTower.consistent_of_run` — worlds stay consistent.
-/

namespace WatchTower

open Transition

/-- The filter of `findDueMonitors`: active, and overdue or last checked in the future. -/
def due (m : Monitor) (now : Time) : Bool :=
  m.active ≠ some false && (m.nextCheckAt.any (· ≤ now) || m.lastChecked.any (now < ·))

/-- One admitted check of a tick: the monitor, the services' answers and the clock readings. -/
structure Check where
  /-- The monitor's `_id`. -/
  id : ℕ
  /-- The answers of the probe and of the analysis. -/
  ext : External
  /-- `now` of the tick that loaded the monitor. -/
  tickAt : Time
  /-- The later readings. -/
  clock : CheckClock

/-- The database, and for each monitor the update of its last completed check. -/
structure World where
  /-- The database. -/
  db : Db
  /-- The `$set` object of the last check of each monitor. -/
  last : ℕ → Option MonitorUpdate

/-- A world without monitors. -/
def World.empty (users : ℕ → Bool) : World where
  db := { monitors := fun _ => none, incidents := [], logs := [], users, dispatches := [] }
  last := fun _ => none

/-- What happens, with what is observed of it: for a check the document it loaded, the result of
its probe and the incident transition it made. -/
inductive Event
  | create (id : ℕ) (userId : Option ℕ) (url : String) (createdAt : Time)
  | edit (id : ℕ) (e : OwnerEdit)
  | check (c : Check) (m : Monitor) (result : CheckResult) (transition : Option IncidentEvent)

/-- The verdict of the tick on a loaded monitor. -/
abbrev Check.verdict (c : Check) (m : Monitor) : BreakerVerdict := evaluateBreaker m c.tickAt

/-- The update of a check. -/
abbrev Check.update (env : CheckEnv) (c : Check) (m : Monitor) (result : CheckResult) :
    MonitorUpdate :=
  checkUpdate env.config m (c.verdict m) result c.clock.now

/-- The steps of the world. A check is a step when no call of it fails. -/
inductive Step (env : CheckEnv) : World → Event → World → Prop
  | create {w : World} {id : ℕ} {userId : Option ℕ} {url : String} {createdAt : Time} :
      w.db.monitors id = none →
      Step env w (.create id userId url createdAt)
        { w with db := { w.db with
          monitors :=
            Function.update w.db.monitors id (some (.fresh id userId url createdAt)) } }
  | edit {w : World} {id : ℕ} {m : Monitor} {e : OwnerEdit} :
      w.db.monitors id = some m →
      Step env w (.edit id e)
        { w with db := { w.db with
          monitors := Function.update w.db.monitors id (some (m.edit e)) } }
  | check {w : World} {c : Check} {m : Monitor} {result : CheckResult}
      {transition : Option IncidentEvent} {db' : Db} :
      w.db.monitors c.id = some m →
      due m c.tickAt = true →
      (c.verdict m).allowed = true →
      c.tickAt ≤ c.clock.now →
      (runCheck env m (c.verdict m) c.clock).run (exec c.ext) w.db =
        (.ok (result, transition), db') →
      Step env w (.check c m result transition)
        ⟨db', Function.update w.last c.id (some (c.update env m result))⟩

/-- What is done in the world, without what is observed of it. -/
inductive Action
  | create (id : ℕ) (userId : Option ℕ) (url : String) (createdAt : Time)
  | edit (id : ℕ) (e : OwnerEdit)
  | check (c : Check)

/-- Perform an action, if it is possible and fails no call. -/
def perform (env : CheckEnv) (w : World) : Action → Option (Event × World)
  | .create id userId url createdAt =>
    match w.db.monitors id with
    | some _ => none
    | none => some (.create id userId url createdAt, { w with db := { w.db with
        monitors := Function.update w.db.monitors id (some (.fresh id userId url createdAt)) } })
  | .edit id e =>
    match w.db.monitors id with
    | none => none
    | some m => some (.edit id e, { w with db := { w.db with
        monitors := Function.update w.db.monitors id (some (m.edit e)) } })
  | .check c =>
    match w.db.monitors c.id with
    | none => none
    | some m =>
      if due m c.tickAt = true ∧ (c.verdict m).allowed = true ∧ c.tickAt ≤ c.clock.now then
        match (runCheck env m (c.verdict m) c.clock).run (exec c.ext) w.db with
        | (.error _, _) => none
        | (.ok (result, transition), db') => some (.check c m result transition,
            ⟨db', Function.update w.last c.id (some (c.update env m result))⟩)
      else none

/-- Perform a list of actions. -/
def performAll (env : CheckEnv) (w : World) : List Action → Option (List Event × World)
  | [] => some ([], w)
  | a :: as => do
    let (e, w₁) ← perform env w a
    let (es, w₂) ← performAll env w₁ as
    return (e :: es, w₂)

/-- What is performed is a step. -/
lemma step_of_perform {env : CheckEnv} {w w' : World} {a : Action} {e : Event}
    (h : perform env w a = some (e, w')) : Step env w e w' := by
  cases a with
  | create id userId url createdAt =>
    rw [perform] at h
    split at h
    · simp at h
    · simp only [Option.some.injEq, Prod.mk.injEq] at h
      obtain ⟨rfl, rfl⟩ := h
      exact .create ‹_›
  | edit id o =>
    rw [perform] at h
    split at h
    · simp at h
    · simp only [Option.some.injEq, Prod.mk.injEq] at h
      obtain ⟨rfl, rfl⟩ := h
      exact .edit ‹_›
  | check c =>
    rw [perform] at h
    split at h
    · simp at h
    · split_ifs at h with hc
      split at h
      · simp at h
      · simp only [Option.some.injEq, Prod.mk.injEq] at h
        obtain ⟨rfl, rfl⟩ := h
        exact .check ‹_› hc.1 hc.2.1 hc.2.2 ‹_›

/-- What is performed one after the other is a run. -/
lemma run_of_performAll {env : CheckEnv} {w w' : World} {as : List Action} {es : List Event}
    (h : performAll env w as = some (es, w')) : Run (Step env) w es w' := by
  induction as generalizing w es with
  | nil =>
    simp only [performAll, Option.some.injEq, Prod.mk.injEq] at h
    obtain ⟨rfl, rfl⟩ := h
    exact .nil w
  | cons a as ih =>
    simp only [performAll, Option.bind_eq_bind, Option.bind_eq_some_iff, Option.pure_def,
      Option.some.injEq, Prod.mk.injEq, Prod.exists] at h
    obtain ⟨e, w₁, h₁, es', w₂, h₂, rfl, rfl⟩ := h
    exact .cons (step_of_perform h₁) (ih h₂)

/-! ## Consistent worlds -/

/-- Every monitor is stored under its own `_id`. -/
def Keyed (db : Db) : Prop := ∀ id m, db.monitors id = some m → m.id = id

/-- Every monitor has one ongoing incident when its confirmed status is `DOWN`, and none
otherwise. -/
structure Consistent (db : Db) : Prop where
  keyed : Keyed db
  absent : ∀ id, db.monitors id = none → ongoingCount db id = 0
  agrees : ∀ id m, db.monitors id = some m →
    ongoingCount db id = if confirmedOf m = .down then 1 else 0

/-- The empty world is consistent. -/
lemma consistent_empty (users : ℕ → Bool) : Consistent (World.empty users).db where
  keyed := by simp [Keyed, World.empty]
  absent := by simp [World.empty, ongoingCount]
  agrees := by simp [World.empty]

/-- Writing one monitor's document under its own `_id` keeps the store keyed. -/
lemma Keyed.write {db db' : Db} (h : Keyed db) {id : ℕ} {m : Monitor}
    (hmon : db'.monitors = Function.update db.monitors id (some m)) (hid : m.id = id) :
    Keyed db' := by
  intro k m' hk
  rw [hmon] at hk
  by_cases hki : k = id
  · subst hki
    simp only [Function.update_self, Option.some.injEq] at hk
    rw [← hk, hid]
  · rw [Function.update_of_ne hki] at hk
    exact h k m' hk

/-- Writing one monitor's document keeps the world consistent, if that monitor's ongoing
incidents fit the new document and the other monitors' incidents are left alone. -/
lemma Consistent.write {db db' : Db} (h : Consistent db) {id : ℕ} {m : Monitor}
    (hmon : db'.monitors = Function.update db.monitors id (some m)) (hid : m.id = id)
    (hself : ongoingCount db' id = if confirmedOf m = .down then 1 else 0)
    (hne : ∀ k, k ≠ id → ongoingCount db' k = ongoingCount db k) : Consistent db' where
  keyed := h.keyed.write hmon hid
  absent k hk := by
    rw [hmon] at hk
    by_cases hki : k = id
    · subst hki
      simp at hk
    · rw [Function.update_of_ne hki] at hk
      rw [hne k hki]
      exact h.absent k hk
  agrees k m' hk := by
    rw [hmon] at hk
    by_cases hki : k = id
    · subst hki
      simp only [Function.update_self, Option.some.injEq] at hk
      rw [← hk]
      exact hself
    · rw [Function.update_of_ne hki] at hk
      rw [hne k hki]
      exact h.agrees k m' hk

/-! ## What a check does -/

/-- The incident transition that a check of a consistent monitor makes. -/
def transitionOf (m : Monitor) (up : Bool) : Option IncidentEvent :=
  if shouldOpen m up then some .opened else if shouldClose m up then some .closed else none

/-- The confirmed status after a check. -/
def confirmedAfter (m : Monitor) (up : Bool) : Status :=
  match transitionOf m up with
  | some .opened => .down
  | some .closed => .up
  | none => confirmedOf m

/-- The dispatches of a check: those of its transition, if it made one. -/
def Dispatched (db : Db) (m : Monitor) (transition : Option IncidentEvent) (db' : Db) : Prop :=
  match transition with
  | some event => ∃ i t, db'.dispatches = db.dispatches ++ notices db m event i t
  | none => db'.dispatches = db.dispatches

/-- What a completed check has done. -/
structure Checked (env : CheckEnv) (w : World) (c : Check) (m : Monitor) (result : CheckResult)
    (transition : Option IncidentEvent) (w' : World) : Prop where
  loaded : w.db.monitors c.id = some m
  id_eq : m.id = c.id
  isDue : due m c.tickAt = true
  admitted : (c.verdict m).allowed = true
  clock : c.tickAt ≤ c.clock.now
  probe : result = probed c.ext env m (c.verdict m)
  casts : (c.update env m result).casts = true
  monitors : w'.db.monitors =
    Function.update w.db.monitors c.id (some (m.set (c.update env m result)))
  last : w'.last = Function.update w.last c.id (some (c.update env m result))
  users : w'.db.users = w.db.users
  effect : TransitionEffect
    (recorded w.db m (c.update env m result) (logRow m result c.clock.now)) m result transition
    w'.db
  count_of_ne : ∀ k, k ≠ c.id → ongoingCount w'.db k = ongoingCount w.db k
  dispatches : Dispatched w.db m transition w'.db

section Confirmed

variable {cfg : SchedulerConfig} {m : Monitor} {verdict : BreakerVerdict} {result : CheckResult}
  {now : Time} {up : Bool}

/-- An opening check finds the status `UP`. -/
lemma confirmedOf_of_shouldOpen (h : shouldOpen m up = true) : confirmedOf m = .up := by
  simp only [shouldOpen, Bool.and_eq_true, decide_eq_true_eq] at h
  exact h.1.2

/-- A closing check finds the status `DOWN`. -/
lemma confirmedOf_of_shouldClose (h : shouldClose m up = true) : confirmedOf m = .down := by
  simp only [shouldClose, Bool.and_eq_true, decide_eq_true_eq] at h
  exact h.1.2

/-- The status a check persists. -/
lemma confirmedOf_set :
    confirmedOf (m.set (checkUpdate cfg m verdict result now)) = confirmedAfter m result.up := by
  by_cases ho : shouldOpen m result.up = true
  · have hc := shouldClose_eq_false_of_shouldOpen ho
    simp [confirmedOf, checkUpdate, confirmedAfter, transitionOf, ho, hc]
  · by_cases hc : shouldClose m result.up = true
    · simp [confirmedOf, checkUpdate, confirmedAfter, transitionOf, ho, hc]
    · simp [confirmedOf, checkUpdate, confirmedAfter, transitionOf, ho, hc]

end Confirmed

/-- The transition a check makes in a consistent database, and the incidents it leaves. -/
lemma TransitionEffect.consistent {db db' : Db} {m : Monitor} {result : CheckResult}
    {a : Option IncidentEvent} (h : TransitionEffect db m result a db')
    (hagrees : ongoingCount db m.id = if confirmedOf m = .down then 1 else 0) :
    a = transitionOf m result.up ∧
      ongoingCount db' m.id = if confirmedAfter m result.up = .down then 1 else 0 := by
  cases h with
  | opens ho hn htr =>
    have htr' : transitionOf m result.up = some .opened := by simp [transitionOf, ho]
    refine ⟨htr'.symm, ?_⟩
    simp [htr.count_self, hn, IncidentEvent.count, confirmedAfter, htr']
  | closes hc hn htr =>
    have hdown := confirmedOf_of_shouldClose hc
    have ho : ¬shouldOpen m result.up = true := fun ho => by
      simp [confirmedOf_of_shouldOpen ho] at hdown
    have htr' : transitionOf m result.up = some .closed := by simp [transitionOf, ho, hc]
    refine ⟨htr'.symm, ?_⟩
    simp [htr.count_self, hagrees, hdown, IncidentEvent.count, confirmedAfter, htr']
  | stays ho hc =>
    have ho' : ¬shouldOpen m result.up = true := fun h =>
      ho h (by simp [hagrees, confirmedOf_of_shouldOpen h])
    have hc' : ¬shouldClose m result.up = true := fun h => by
      simpa [hagrees, confirmedOf_of_shouldClose h] using hc h
    have htr' : transitionOf m result.up = none := by simp [transitionOf, ho', hc']
    exact ⟨htr'.symm, by simp [hagrees, confirmedAfter, htr']⟩

/-- A check that crosses no threshold opens and closes nothing. -/
lemma TransitionEffect.ongoingCount_eq {db db' : Db} {m : Monitor} {result : CheckResult}
    {a : Option IncidentEvent} (h : TransitionEffect db m result a db')
    (htr : transitionOf m result.up = none) : ongoingCount db' m.id = ongoingCount db m.id := by
  cases h with
  | opens ho => simp [transitionOf, ho] at htr
  | closes hc => simp [transitionOf, hc] at htr; split_ifs at htr
  | stays => rfl

/-- What a transition leaves of the rest of the database. -/
lemma TransitionEffect.frame {db db' : Db} {m : Monitor} {result : CheckResult}
    {a : Option IncidentEvent} (h : TransitionEffect db m result a db') :
    db'.monitors = db.monitors ∧ db'.users = db.users ∧
      (∀ k, k ≠ m.id → ongoingCount db' k = ongoingCount db k) ∧ Dispatched db m a db' := by
  cases h with
  | opens _ _ htr => exact ⟨htr.monitors, htr.users, htr.count_of_ne, htr.dispatches⟩
  | closes _ _ htr => exact ⟨htr.monitors, htr.users, htr.count_of_ne, htr.dispatches⟩
  | stays => exact ⟨rfl, rfl, fun _ _ => rfl, rfl⟩

variable {env : CheckEnv} {w w' : World} {c : Check} {m : Monitor} {result : CheckResult}
  {transition : Option IncidentEvent}

/-- **A completed check, in full.** -/
theorem Step.checked (hw : Keyed w.db) (h : Step env w (.check c m result transition) w') :
    Checked env w c m result transition w' := by
  cases h with
  | check hm hdue hadm hclock hrun =>
    have hid := hw _ _ hm
    obtain ⟨hprobe, hcasts, heff⟩ := run_runCheck_of_ok c.ext hrun
    obtain ⟨hmon, husers, hne, hdisp⟩ := heff.frame
    exact
      { loaded := hm
        id_eq := hid
        isDue := hdue
        admitted := hadm
        clock := hclock
        probe := hprobe
        casts := hcasts
        monitors := hmon.trans (monitors_recorded _ hid hm)
        last := rfl
        users := husers
        effect := heff
        count_of_ne := fun k hk => hne k (hid ▸ hk)
        dispatches := hdisp }

/-- In a consistent world a check makes the transition its thresholds ask for, and leaves one
ongoing incident or none, as the confirmed status after it says. -/
theorem Checked.consistent (h : Checked env w c m result transition w')
    (hw : Consistent w.db) : transition = transitionOf m result.up ∧
      ongoingCount w'.db c.id = if confirmedAfter m result.up = .down then 1 else 0 := by
  have hagrees := hw.agrees _ _ h.loaded
  rw [← h.id_eq] at hagrees ⊢
  exact h.effect.consistent hagrees

/-- Worlds stay keyed. -/
lemma Keyed.step {w w' : World} {e : Event} (hw : Keyed w.db) (h : Step env w e w') :
    Keyed w'.db := by
  cases e with
  | create => cases h with | create => exact hw.write rfl rfl
  | edit id e =>
    cases h with
    | edit hm =>
      rename_i m
      exact hw.write rfl (show m.id = id from hw _ _ hm)
  | check =>
    have hc := h.checked hw
    exact hw.write hc.monitors hc.id_eq

/-- **Worlds stay consistent.** -/
theorem Consistent.step {w w' : World} {e : Event} (hw : Consistent w.db)
    (h : Step env w e w') : Consistent w'.db := by
  cases e with
  | create id userId url createdAt =>
    cases h with
    | create hnone =>
      refine hw.write rfl rfl ?_ fun _ _ => rfl
      simpa [confirmedOf, Monitor.fresh] using! hw.absent id hnone
  | edit id e =>
    cases h with
    | edit hm =>
      rename_i m
      exact hw.write rfl (show m.id = id from hw.keyed _ _ hm) (hw.agrees _ m hm) fun _ _ => rfl
  | check c m result transition =>
    have hc := h.checked hw.keyed
    exact hw.write hc.monitors hc.id_eq (by rw [confirmedOf_set]; exact (hc.consistent hw).2)
      hc.count_of_ne

/-- A run from a consistent world ends in one. -/
theorem consistent_of_run {es : List Event} (hrun : Run (Step env) w es w')
    (hw : Consistent w.db) : Consistent w'.db :=
  have hstep : ∀ w e w', Consistent w.db → Step env w e w' → Consistent w'.db :=
    fun _ _ _ => Consistent.step
  hrun.invariant hstep hw

/-- The worlds reached from an empty one are consistent. -/
lemma consistent_of_run_empty {users : ℕ → Bool} {es : List Event}
    (hrun : Run (Step env) (.empty users) es w) : Consistent w.db :=
  consistent_of_run hrun (consistent_empty users)

/-! ## What a step does to a monitor -/

/-- **The cases of a step**, for a monitor that exists afterwards: another one was written, or
this one was created, edited or checked. -/
theorem Step.monitor_cases {e : Event} (hw : Keyed w.db) (h : Step env w e w') {id : ℕ}
    {m' : Monitor} (hm' : w'.db.monitors id = some m') :
    (w.db.monitors id = some m' ∧ w'.last id = w.last id) ∨
      (∃ u url t, e = .create id u url t ∧ w.db.monitors id = none ∧ w'.last = w.last ∧
        m' = .fresh id u url t) ∨
      (∃ o m, e = .edit id o ∧ w.db.monitors id = some m ∧ w'.last = w.last ∧ m' = m.edit o) ∨
      ∃ c m r a, e = .check c m r a ∧ c.id = id ∧ Checked env w c m r a w' ∧
        m' = m.set (c.update env m r) := by
  cases e with
  | create k u url t =>
    cases h with
    | create hnone =>
      by_cases hk : id = k
      · subst hk
        simp only [Function.update_self, Option.some.injEq] at hm'
        exact .inr (.inl ⟨u, url, t, rfl, hnone, rfl, hm'.symm⟩)
      · simp only [Function.update_of_ne hk] at hm'
        exact .inl ⟨hm', rfl⟩
  | edit k o =>
    cases h with
    | edit hm =>
      by_cases hk : id = k
      · subst hk
        simp only [Function.update_self, Option.some.injEq] at hm'
        exact .inr (.inr (.inl ⟨o, _, rfl, hm, rfl, hm'.symm⟩))
      · simp only [Function.update_of_ne hk] at hm'
        exact .inl ⟨hm', rfl⟩
  | check c m r a =>
    have hc := h.checked hw
    rw [hc.monitors] at hm'
    by_cases hk : id = c.id
    · subst hk
      rw [Function.update_self, Option.some.injEq] at hm'
      exact .inr (.inr (.inr ⟨c, m, r, a, rfl, rfl, hc, hm'.symm⟩))
    · rw [Function.update_of_ne hk] at hm'
      exact .inl ⟨hm', by rw [hc.last, Function.update_of_ne hk]⟩

/-- No step changes which accounts exist. -/
lemma Step.users {e : Event} (hw : Keyed w.db) (h : Step env w e w') :
    w'.db.users = w.db.users := by
  cases e with
  | create => cases h with | create => rfl
  | edit => cases h with | edit => rfl
  | check => exact (h.checked hw).users

/-! ## Concrete runs -/

/-- A list of actions that can all be performed gives a run, and what can be computed of its
outcome holds of that run. -/
lemma exists_run_of_performAll (env : CheckEnv) (w : World) (as : List Action)
    (p : List Event × World → Bool) (h : (performAll env w as).any p = true) :
    ∃ es w', Run (Step env) w es w' ∧ p (es, w') = true := by
  rcases hx : performAll env w as with _ | ⟨es, w'⟩
  · simp [hx] at h
  · exact ⟨es, w', run_of_performAll hx, by simpa [hx] using h⟩

/-- Whether a check can be performed and its monitor, its result and the world it leaves satisfy
`p`. -/
def checkLeaves (env : CheckEnv) (w : World) (c : Check)
    (p : Monitor → CheckResult → World → Bool) : Bool :=
  match perform env w (.check c) with
  | some (.check _ m r _, w') => p m r w'
  | _ => false

/-- A check that leaves something is a step. -/
lemma exists_step_of_checkLeaves {p : Monitor → CheckResult → World → Bool}
    (h : checkLeaves env w c p = true) :
    ∃ m r transition w', Step env w (.check c m r transition) w' ∧ p m r w' = true := by
  unfold checkLeaves at h
  split at h
  · rename_i c' m r transition w' hperform
    have hstep := step_of_perform hperform
    have hc : c' = c := by
      simp only [perform] at hperform
      split at hperform
      · cases hperform
      · split_ifs at hperform
        split at hperform
        · cases hperform
        · simp only [Option.some.injEq, Prod.mk.injEq, Event.check.injEq] at hperform
          exact hperform.1.1.symm
    subst hc
    exact ⟨m, r, transition, w', hstep, h⟩
  · cases h

/-- The default configuration, with no stored headers. -/
def defaultEnv : CheckEnv := ⟨schedulerConfig, fun _ => []⟩

/-- A check of monitor `id` at one instant, with the given outcome. -/
def checkAt (id : ℕ) (t : Time) (status : Status) : Check := ⟨id, answering status, t, ⟨t, t⟩⟩

end WatchTower

import WatchTower.Scheduler.Tick

set_option relaxedAutoImplicit false
set_option autoImplicit false

/-!
# Checks struck by a fault

A check writes three documents in sequence: the monitor, with the new confirmed status already
in it, the log row, and the incident. The incident transition is triggered by the edge of the
confirmed status, so a fault between the first and the third write leaves a status that no later
check sees as an edge.

## Main definitions

* `WatchTower.Faulted` — a check in which exactly one call goes wrong, after its probe.
* `WatchTower.LosesTransition` — the fault strikes a transition between the two writes.
* `WatchTower.Stranded` — a status whose incident transition was lost.

## Main results

* `WatchTower.Faulted.consistent`, `WatchTower.Faulted.stranded` — what the fault leaves behind.
* `WatchTower.Stranded.step` — further checks with the same outcome do not repair it.
* `WatchTower.outage_recovered_iff` — an incident is there (or gone) after the next check that
  reaches its threshold, exactly when the fault lost no transition.
-/

namespace WatchTower

open Transition Transition.Prog

/-- A check in which nothing goes wrong but one fault, at a call after the probe. -/
structure Faulted (env : CheckEnv) (w : World) (c : Check) (m : Monitor) (result : CheckResult)
    (fault : Fault JsError) (n : ℕ) (w' : World) : Prop where
  loaded : w.db.monitors c.id = some m
  isDue : due m c.tickAt = true
  admitted : (c.verdict m).allowed = true
  clock : c.tickAt ≤ c.clock.now
  single : ∃ transition db', (runCheck env m (c.verdict m) c.clock).run (exec c.ext) w.db =
    (.ok (result, transition), db')
  probed : 1 ≤ n
  left : w'.db = (runCheck env m (c.verdict m) c.clock).disturb (exec c.ext) fault n w.db

/-- The fault strikes a check that crosses a threshold, after the monitor was written (calls `0`
and `1` are the probe and that write) and no later than at the incident's write (call `3`). -/
def LosesTransition (m : Monitor) (up : Bool) (n : ℕ) : Prop :=
  transitionOf m up ≠ none ∧ (n = 2 ∨ n = 3)

/-- The status of a monitor has been changed to the one that its checks' outcome confirms, and
its incidents have not followed. -/
structure Stranded (id : ℕ) (up : Bool) (db : Db) : Prop where
  keyed : Keyed db
  count : ongoingCount db id = if up then 1 else 0
  confirmed : ∃ m, db.monitors id = some m ∧ confirmedOf m = if up then .up else .down

/-- Every check of the monitor has the given outcome. -/
def SameOutcome (id : ℕ) (up : Bool) (e : Event) : Prop :=
  match e with
  | .check c _ r _ => c.id = id → r.up = up
  | _ => True

/-- The run of results of the check's own outcome has reached the threshold for it. -/
def ReachesThreshold (m : Monitor) (up : Bool) : Prop :=
  if up then successThresholdOf m ≤ successesAfter m up
  else failureThresholdOf m ≤ failuresAfter m up

variable {env : CheckEnv} {w w' : World} {c : Check} {m : Monitor} {result : CheckResult}
  {fault : Fault JsError} {n : ℕ} {id : ℕ} {up : Bool}

/-- Consistency is a matter of the monitors and the ongoing incidents. -/
lemma Consistent.of_sameOutages {db db' : Db} (h : Consistent db) (hs : SameOutages db db') :
    Consistent db' where
  keyed k m hk := h.keyed k m (hs.monitors ▸ hk)
  absent k hk := (hs.count k).trans (h.absent k (hs.monitors ▸ hk))
  agrees k m hk := (hs.count k).trans (h.agrees k m (hs.monitors ▸ hk))

/-- Having the same outages is symmetric. -/
lemma SameOutages.symm {db db' : Db} (h : SameOutages db db') : SameOutages db' db :=
  ⟨h.monitors.symm, h.users.symm, fun k => (h.count k).symm⟩

/-- The status that an outcome confirms. -/
abbrev confirms (up : Bool) : Status := if up then .up else .down

/-- A check that finds the status its outcome confirms makes no transition. -/
lemma transitionOf_eq_none (h : confirmedOf m = confirms up) : transitionOf m up = none := by
  cases up <;> simp [transitionOf, shouldOpen, shouldClose, h]

/-- A check that makes a transition finds the other status, and persists the one its outcome
confirms. -/
lemma confirmed_of_transition (h : transitionOf m up ≠ none) :
    confirmedOf m = confirms (!up) ∧ confirmedAfter m up = confirms up := by
  cases hc : confirmedOf m <;> cases up <;>
    by_cases hf : failureThresholdOf m ≤ failuresAfter m false <;>
    by_cases hs : successThresholdOf m ≤ successesAfter m true <;>
    simp_all [transitionOf, shouldOpen, shouldClose, confirmedAfter]

/-- A check that reaches its threshold persists the status its outcome confirms. -/
lemma confirmedAfter_of_reaches (h : ReachesThreshold m up) :
    confirmedAfter m up = confirms up := by
  by_cases htr : transitionOf m up = none
  · cases hc : confirmedOf m <;> cases up <;>
      simp_all [transitionOf, shouldOpen, shouldClose, confirmedAfter, ReachesThreshold]
  · exact (confirmed_of_transition htr).2

/-! ## What a fault leaves behind -/

/-- The undisturbed check would have been a step. -/
lemma Faulted.undisturbed (h : Faulted env w c m result fault n w') :
    ∃ transition w₁, Step env w (.check c m result transition) w₁ ∧
      w₁.db = ((runCheck env m (c.verdict m) c.clock).run (exec c.ext) w.db).2 := by
  obtain ⟨transition, db', hrun⟩ := h.single
  exact ⟨transition, _, .check h.loaded h.isDue h.admitted h.clock hrun, by rw [hrun]⟩

/-- A fault between the monitor's write and the incident's leaves the check recorded, with the
incidents as they were. -/
lemma Faulted.sameOutages (h : Faulted env w c m result fault n w') (hn : n = 2 ∨ n = 3) :
    SameOutages (recorded w.db m (c.update env m result) (logRow m result c.clock.now))
      w'.db := by
  obtain ⟨_, _, hrun⟩ := h.single
  obtain ⟨hprobe, hcasts, -⟩ := run_runCheck_of_ok c.ext hrun
  rw [h.left]
  exact disturb_runCheck_lost c.ext fault hprobe rfl hcasts hn

/-- **A fault that loses no transition leaves a consistent world**: the check is not recorded at
all, or it asked for no transition, or its transition was made. -/
theorem Faulted.consistent (h : Faulted env w c m result fault n w') (hw : Consistent w.db)
    (hkeeps : ¬LosesTransition m result.up n) : Consistent w'.db := by
  obtain ⟨transition, w₁, hstep, hw₁⟩ := h.undisturbed
  have hc := hstep.checked hw.keyed
  by_cases hn : n = 2 ∨ n = 3
  · have htr : transitionOf m result.up = none := by
      by_contra htr
      exact hkeeps ⟨htr, hn⟩
    refine Consistent.of_sameOutages ?_ (h.sameOutages hn)
    refine hw.write (monitors_recorded _ hc.id_eq h.loaded) hc.id_eq ?_ fun _ _ => rfl
    rw [confirmedOf_set, confirmedAfter, htr]
    exact hw.agrees _ _ h.loaded
  · have hcases : n = 1 ∨ 4 ≤ n := by
      have := h.probed
      omega
    rcases hcases with rfl | hn
    · rw [h.left, disturb_runCheck_one]
      exact hw
    · obtain ⟨db₁, h₁, h₂⟩ := disturb_runCheck_kept c.ext fault hc.probe rfl hc.casts hn
      rw [h.left]
      refine Consistent.of_sameOutages (Consistent.of_sameOutages ?_ h₁.symm) h₂
      rw [← hw₁]
      exact hw.step hstep

/-- **A fault that loses a transition strands the status.** -/
theorem Faulted.stranded (h : Faulted env w c m result fault n w') (hw : Consistent w.db)
    (hloses : LosesTransition m result.up n) : Stranded c.id result.up w'.db := by
  obtain ⟨htr, hn⟩ := hloses
  obtain ⟨transition, w₁, hstep, -⟩ := h.undisturbed
  have hc := hstep.checked hw.keyed
  have hrec := h.sameOutages hn
  obtain ⟨hbefore, hafter⟩ := confirmed_of_transition htr
  have hmon := hrec.monitors.trans (monitors_recorded _ hc.id_eq h.loaded)
  refine ⟨hw.keyed.write hmon hc.id_eq, ?_, ?_⟩
  · rw [hrec.count, ongoingCount_recorded, hw.agrees _ _ h.loaded, hbefore]
    cases result.up <;> rfl
  · refine ⟨m.set (c.update env m result), ?_, ?_⟩
    · rw [hmon, Function.update_self]
    · rw [confirmedOf_set, hafter]

/-- **A stranded status stays stranded** while the outcome of the checks stays the same: it
already is what the outcome confirms, so no check makes a transition. -/
theorem Stranded.step {e : Event} (h : Stranded id up w.db) (he : SameOutcome id up e)
    (hstep : Step env w e w') : Stranded id up w'.db := by
  obtain ⟨hkeyed, hcount, m, hm, hconf⟩ := h
  refine ⟨hkeyed.step hstep, ?_, ?_⟩
  · cases e with
    | create => cases hstep with | create => exact hcount
    | edit => cases hstep with | edit => exact hcount
    | check c m₂ r a =>
      have hc := hstep.checked hkeyed
      by_cases hid : c.id = id
      · subst hid
        obtain rfl := Option.some.inj (hm.symm.trans hc.loaded)
        have htr : transitionOf m r.up = none := transitionOf_eq_none (by rw [hconf, he rfl])
        rw [← hcount, ← hc.id_eq, hc.effect.ongoingCount_eq htr, ongoingCount_recorded]
      · rw [hc.count_of_ne id (Ne.symm hid), hcount]
  · cases e with
    | create k u url t =>
      cases hstep with
      | create hnone =>
        have hk : id ≠ k := fun hk => by simp [← hk, hm] at hnone
        exact ⟨m, (Function.update_of_ne hk _ _).trans hm, hconf⟩
    | edit k o =>
      cases hstep with
      | edit hk =>
        by_cases hid : id = k
        · subst hid
          obtain rfl := Option.some.inj (hm.symm.trans hk)
          exact ⟨m.edit o, Function.update_self _ _ _, hconf⟩
        · exact ⟨m, (Function.update_of_ne hid _ _).trans hm, hconf⟩
    | check c m₂ r a =>
      have hc := hstep.checked hkeyed
      by_cases hid : c.id = id
      · subst hid
        obtain rfl := Option.some.inj (hm.symm.trans hc.loaded)
        have htr : transitionOf m r.up = none := transitionOf_eq_none (by rw [hconf, he rfl])
        refine ⟨_, by rw [hc.monitors, Function.update_self], ?_⟩
        rw [confirmedOf_set, confirmedAfter, htr]
        exact hconf
      · exact ⟨m, by rw [hc.monitors, Function.update_of_ne (Ne.symm hid), hm], hconf⟩

/-! ## Recovery -/

/-- After a check that reaches its threshold in a consistent world, there is an ongoing incident
exactly when the check failed. -/
lemma ongoingCount_of_reaches {a : Option IncidentEvent} (hw : Consistent w.db)
    (h : Step env w (.check c m result a) w') (hreaches : ReachesThreshold m result.up) :
    ongoingCount w'.db c.id = if result.up then 0 else 1 := by
  have hc := h.checked hw.keyed
  rw [(hc.consistent hw).2, confirmedAfter_of_reaches hreaches]
  cases result.up <;> rfl

/-- **An outage is recovered exactly when the fault lost no transition.** One check of a run is
struck by a single fault; afterwards the target's checks keep coming out as that one did, without
faults. After every one of them whose run of results has reached its threshold, the monitor has
an ongoing incident (if they fail) or none (if they succeed), exactly when the fault did not
strike a threshold-crossing check between the monitor's write and the incident's.

**Proof sketch.** If it did not, the world after it is consistent (`Faulted.consistent`), so the
later check crosses its threshold or finds its work done. If it did, the status is stranded
(`Faulted.stranded`) and stays so (`Stranded.step`), with the wrong number of incidents. -/
theorem outage_recovered_iff {users : ℕ → Bool} {es : List Event} {w₀ : World}
    (hrun : Run (Step env) (.empty users) es w₀) {w₁ : World}
    (hfault : Faulted env w₀ c m result fault n w₁) {fs : List Event} {w₂ w₃ : World}
    (hcont : Run (Step env) w₁ fs w₂) (hfs : ∀ e ∈ fs, SameOutcome c.id result.up e)
    {c' : Check} {m' : Monitor} {r' : CheckResult} {a' : Option IncidentEvent}
    (hnext : Step env w₂ (.check c' m' r' a') w₃) (hid : c'.id = c.id)
    (hup : r'.up = result.up) (hreaches : ReachesThreshold m' r'.up) :
    (if result.up then ongoingCount w₃.db c.id = 0 else ongoingCount w₃.db c.id ≠ 0) ↔
      ¬LosesTransition m result.up n := by
  have hw₀ := consistent_of_run_empty hrun
  by_cases hloses : LosesTransition m result.up n
  · have hstep : ∀ w e w', Stranded c.id result.up w.db → SameOutcome c.id result.up e →
        Step env w e w' → Stranded c.id result.up w'.db := fun _ _ _ => Stranded.step
    have hw₂ : Stranded c.id result.up w₂.db :=
      hcont.invariant_of_forall hstep hfs (hfault.stranded hw₀ hloses)
    have hout : SameOutcome c.id result.up (.check c' m' r' a') := fun _ => hup
    have hw₃ := (hw₂.step hout hnext).count
    simp only [hw₃, hloses, not_true_eq_false, iff_false]
    cases result.up <;> simp
  · have hw₂ := consistent_of_run hcont (hfault.consistent hw₀ hloses)
    have hw₃ := ongoingCount_of_reaches hw₂ hnext hreaches
    rw [hid, hup] at hw₃
    simp only [hw₃, hloses, not_false_eq_true, iff_true]
    cases result.up <;> simp

/-- The world left by a fault at a check. -/
def faultedWorld (env : CheckEnv) (w : World) (c : Check) (m : Monitor) (fault : Fault JsError)
    (n : ℕ) : World :=
  ⟨(runCheck env m (c.verdict m) c.clock).disturb (exec c.ext) fault n w.db, w.last⟩

/-- Any check that could be performed can be struck by a fault. -/
lemma faulted_of_step {a : Option IncidentEvent} (h : Step env w (.check c m result a) w')
    (fault : Fault JsError) (hn : 1 ≤ n) :
    Faulted env w c m result fault n (faultedWorld env w c m fault n) := by
  cases h with
  | check hm hdue hadm hclock hrun => exact ⟨hm, hdue, hadm, hclock, ⟨_, _, hrun⟩, hn, rfl⟩

/-- A monitor with threshold `1` fails its first check, and the process is killed before that
check's log row is written. The second check fails too. -/
lemma exists_killed_run :
    ∃ es w₀ m r w₁ m' r' a' w₂, Run (Step defaultEnv) (.empty fun _ => true) es w₀ ∧
      Faulted defaultEnv w₀ (checkAt 0 0 .down) m r .kill 2 w₁ ∧
      Step defaultEnv w₁ (.check (checkAt 0 60000 .down) m' r' a') w₂ ∧
      r.up = false ∧ r'.up = false ∧ ReachesThreshold m' r'.up ∧
      ongoingCount w₂.db 0 = 0 := by
  obtain ⟨es, w₀, hrun, hp⟩ := exists_run_of_performAll defaultEnv (.empty fun _ => true)
    [.create 0 (some 7) "http://a" 0, .edit 0 { failureThreshold := some 1 }]
    (fun x => checkLeaves defaultEnv x.2 (checkAt 0 0 .down) fun m r _ => r.up = false ∧
      checkLeaves defaultEnv (faultedWorld defaultEnv x.2 (checkAt 0 0 .down) m .kill 2)
        (checkAt 0 60000 .down) fun m' r' w₂ => r'.up = false ∧
          failureThresholdOf m' ≤ failuresAfter m' r'.up ∧ ongoingCount w₂.db 0 = 0)
    (by decide +kernel)
  obtain ⟨m, r, a, w', hstep, hp⟩ := exists_step_of_checkLeaves hp
  obtain ⟨hup, hp⟩ := of_decide_eq_true hp
  obtain ⟨m', r', a', w₂, hstep', hp⟩ := exists_step_of_checkLeaves hp
  obtain ⟨hup', hreaches, hcount⟩ := of_decide_eq_true hp
  exact ⟨es, w₀, m, r, _, m', r', a', w₂, hrun, faulted_of_step hstep .kill (by decide), hstep',
    hup, hup', by simpa [ReachesThreshold, hup'] using hreaches, hcount⟩

/-- The target keeps failing, the check after the fault reaches its threshold, and there is no
ongoing incident. -/
theorem outage_lost_by_kill :
    ¬∀ es w₀ c m r fault n w₁ fs w₂ c' m' r' a' w₃,
      Run (Step defaultEnv) (.empty fun _ => true) es w₀ →
      Faulted defaultEnv w₀ c m r fault n w₁ →
      Run (Step defaultEnv) w₁ fs w₂ → (∀ e ∈ fs, SameOutcome c.id r.up e) →
      Step defaultEnv w₂ (.check c' m' r' a') w₃ → c'.id = c.id → r'.up = r.up →
      ReachesThreshold m' r'.up → r.up = false → ongoingCount w₃.db c.id ≠ 0 := by
  intro h
  obtain ⟨es, w₀, m, r, w₁, m', r', a', w₂, hrun, hfault, hstep, hup, hup', hreaches, hcount⟩ :=
    exists_killed_run
  exact h es w₀ _ m r _ _ w₁ [] w₁ _ m' r' a' w₂ hrun hfault (.nil w₁) (by simp) hstep rfl
    (hup'.trans hup.symm) hreaches hup hcount

/-- The same run, under the condition that tells it apart. -/
theorem outage_recovered_iff_killed :
    ∃ w₀ m r w₁, ∃ w₂ : World, Faulted defaultEnv w₀ (checkAt 0 0 .down) m r .kill 2 w₁ ∧
      ((if r.up then ongoingCount w₂.db 0 = 0 else ongoingCount w₂.db 0 ≠ 0) ↔
        ¬LosesTransition m r.up 2) := by
  obtain ⟨es, w₀, m, r, w₁, m', r', a', w₂, hrun, hfault, hstep, hup, hup', hreaches, -⟩ :=
    exists_killed_run
  exact ⟨w₀, m, r, w₁, w₂, hfault, outage_recovered_iff hrun hfault (.nil w₁) (by simp) hstep rfl
    (hup'.trans hup.symm) hreaches⟩

end WatchTower

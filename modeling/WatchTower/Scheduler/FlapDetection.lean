import WatchTower.Hysteresis.Machine
import WatchTower.Scheduler.Tick

set_option relaxedAutoImplicit false
set_option autoImplicit false

/-!
# Flap detection

The two counters and the confirmed status that a monitor carries from check to check are an
implementation of the hysteresis machine: the incident actions of a monitor's checks are the
signals of that machine on the checks' outcomes, each judged by the thresholds its check read.

## Main definitions

* `WatchTower.samples`, `WatchTower.actions` — the inputs and the observed actions of the checks
  of one monitor in a run.
* `WatchTower.Tracks` — a monitor's counters and status, as a state of the machine.

## Main results

* `WatchTower.Tracks.step`, `WatchTower.Tracks.run` — one step, and a run, of the simulation.
* `WatchTower.flap_detection_refines` — the refinement, with what follows from it.
-/

namespace WatchTower

open Transition Hysteresis

/-- Bad observations are failed checks. -/
def isDown (s : Status) : Bool := s = .down

/-- The signal that reports an incident transition. -/
def signalOf : Option IncidentEvent → Signal
  | some .opened => .raise
  | some .closed => .clear
  | none => .stay

/-- What a step shows the machine of one monitor. -/
def sampleOf (id : ℕ) : Event → Option (Sample Status)
  | .check c m r _ =>
    if c.id = id then some ⟨r.status, failureThresholdOf m, successThresholdOf m⟩ else none
  | _ => none

/-- What the scheduler does at a step to the incidents of one monitor. -/
def actionOf (id : ℕ) : Event → Option Signal
  | .check c _ _ a => if c.id = id then some (signalOf a) else none
  | _ => none

/-- The outcomes of a monitor's checks in a run, with the thresholds they were judged by. -/
def samples (id : ℕ) (es : List Event) : List (Sample Status) := es.filterMap (sampleOf id)

/-- The incident actions of a monitor's checks in a run. -/
def actions (id : ℕ) (es : List Event) : List Signal := es.filterMap (actionOf id)

/-- A monitor's document represents a state of the machine. -/
structure Represents (m : Monitor) (s : State Status) : Prop where
  high : s.high = decide (confirmedOf m = .down)
  failures : m.consecutiveFailures.getD 0 = trailing isDown s.history
  successes : m.consecutiveSuccesses.getD 0 = trailing (fun a => !isDown a) s.history

/-- The state of the machine that follows a monitor; before the monitor exists, the initial
state. -/
def Tracks (id : ℕ) (w : World) (s : State Status) : Prop :=
  match w.db.monitors id with
  | some m => Represents m s
  | none => s = init

/-- A fresh monitor represents the initial state. -/
lemma represents_fresh (id : ℕ) (u : Option ℕ) (url : String) (t : Time) :
    Represents (.fresh id u url t) init where
  high := by simp [confirmedOf, Monitor.fresh, init]
  failures := by simp [Monitor.fresh, init]
  successes := by simp [Monitor.fresh, init]

/-- An owner's edit changes nothing that the machine sees between two checks. -/
lemma Represents.edit {m : Monitor} {s : State Status} (h : Represents m s) (o : OwnerEdit) :
    Represents (m.edit o) s := ⟨h.high, h.failures, h.successes⟩

section OneCheck

variable {m : Monitor} {s : State Status} {r : CheckResult}

/-- What the machine sees of a check. -/
abbrev sampleFor (m : Monitor) (r : CheckResult) : Sample Status :=
  ⟨r.status, failureThresholdOf m, successThresholdOf m⟩

/-- The counter of failures after a check is the run of failures ending with it. -/
lemma failuresAfter_eq (h : Represents m s) :
    failuresAfter m r.up = trailing isDown (r.status :: s.history) := by
  cases hr : r.status with
  | up => rw [trailing_cons_of_neg rfl]; simp [failuresAfter, CheckResult.up, hr]
  | down =>
    rw [trailing_cons_of_pos rfl, ← h.failures]
    simp [failuresAfter, CheckResult.up, hr]

/-- The counter of successes after a check is the run of successes ending with it. -/
lemma successesAfter_eq (h : Represents m s) :
    successesAfter m r.up = trailing (fun a => !isDown a) (r.status :: s.history) := by
  cases hr : r.status with
  | up =>
    rw [trailing_cons_of_pos rfl, ← h.successes]
    simp [successesAfter, CheckResult.up, hr]
  | down => rw [trailing_cons_of_neg rfl]; simp [successesAfter, CheckResult.up, hr]

/-- A check opens exactly when it finds the status `UP` and its run of failures is long enough:
the threshold is at least one, so a long enough run ends in a failure. -/
lemma shouldOpen_iff {up : Bool} : shouldOpen m up = true ↔
    confirmedOf m = .up ∧ failureThresholdOf m ≤ failuresAfter m up := by
  have hN : 1 ≤ failureThresholdOf m := Nat.le_max_left _ _
  cases up with
  | true => simp [shouldOpen, failuresAfter]; omega
  | false => simp [shouldOpen]

/-- A check closes exactly when it finds the status `DOWN` and its run of successes is long
enough. -/
lemma shouldClose_iff {up : Bool} : shouldClose m up = true ↔
    confirmedOf m = .down ∧ successThresholdOf m ≤ successesAfter m up := by
  have hM : 1 ≤ successThresholdOf m := Nat.le_max_left _ _
  cases up with
  | true => simp [shouldClose]
  | false => simp [shouldClose, successesAfter]; omega

/-- **A check acts as the machine signals.** -/
lemma signalOf_transitionOf (h : Represents m s) :
    signalOf (transitionOf m r.up) = signal isDown s (sampleFor m r) := by
  have hf := failuresAfter_eq (r := r) h
  have hs := successesAfter_eq (r := r) h
  have hhigh := h.high
  unfold transitionOf signal
  simp only [shouldOpen_iff, shouldClose_iff, ← hf, ← hs, hhigh]
  cases confirmedOf m <;> simp only [signalOf, true_and, decide_true, reduceCtorEq, false_and,
    if_false, decide_false, Bool.true_eq_false] <;> split_ifs <;> rfl

/-- The mode after a check is the confirmed status after it. -/
lemma mode_signalOf (h : Represents m s) :
    (signalOf (transitionOf m r.up)).mode s.high = decide (confirmedAfter m r.up = .down) := by
  unfold confirmedAfter
  rcases transitionOf m r.up with _ | _ | _
  · exact h.high
  · rfl
  · rfl

/-- The document after a check represents the machine's next state. -/
lemma Represents.set (h : Represents m s) (cfg : SchedulerConfig) (verdict : BreakerVerdict)
    (now : Time) : Represents (m.set (checkUpdate cfg m verdict r now))
      (Hysteresis.step isDown s (sampleFor m r)) where
  high := by
    rw [confirmedOf_set, ← mode_signalOf h, signalOf_transitionOf h]
    rfl
  failures := by simpa [checkUpdate, Hysteresis.step] using failuresAfter_eq h
  successes := by simpa [checkUpdate, Hysteresis.step] using successesAfter_eq h

end OneCheck

variable {env : CheckEnv} {w w' : World} {id : ℕ} {s : State Status}

/-- The machine's state after what a step shows it. -/
def observe (id : ℕ) (e : Event) (s : State Status) : State Status :=
  ((sampleOf id e).map (Hysteresis.step isDown s)).getD s

/-- A write to another monitor leaves this one tracked. -/
lemma Tracks.of_eq (h : Tracks id w s) (heq : w'.db.monitors id = w.db.monitors id) :
    Tracks id w' s := by
  unfold Tracks at h ⊢
  rwa [heq]

/-- **One step of the simulation.** A step that is a check of the monitor acts as the machine
signals, and every step leaves the monitor tracked by the machine's next state. -/
theorem Tracks.step {e : Event} (h : Tracks id w s) (hw : Consistent w.db)
    (hstep : Step env w e w') :
    actionOf id e = (sampleOf id e).map (signal isDown s) ∧ Tracks id w' (observe id e s) := by
  cases e with
  | create k u url t =>
    refine ⟨rfl, ?_⟩
    cases hstep with
    | create hnone =>
      by_cases hk : id = k
      · subst hk
        rw [Tracks, hnone] at h
        subst h
        simpa [Tracks] using! represents_fresh id u url t
      · exact h.of_eq (Function.update_of_ne hk _ _)
  | edit k o =>
    refine ⟨rfl, ?_⟩
    cases hstep with
    | edit hm =>
      by_cases hk : id = k
      · subst hk
        rw [Tracks, hm] at h
        simpa [Tracks] using! h.edit o
      · exact h.of_eq (Function.update_of_ne hk _ _)
  | check c m r a =>
    have hc := hstep.checked hw.keyed
    by_cases hk : c.id = id
    · subst hk
      rw [Tracks, hc.loaded] at h
      refine ⟨?_, ?_⟩
      · simp only [actionOf, sampleOf, if_true, Option.map_some, (hc.consistent hw).1]
        rw [signalOf_transitionOf h]
      · rw [Tracks, hc.monitors, Function.update_self]
        simpa [observe, sampleOf] using h.set env.config (c.verdict m) c.clock.now
    · refine ⟨by simp [actionOf, sampleOf, hk], ?_⟩
      have heq : w'.db.monitors id = w.db.monitors id := by
        rw [hc.monitors, Function.update_of_ne (Ne.symm hk)]
      simpa [observe, sampleOf, hk] using h.of_eq heq

/-- The actions of a longer run. -/
lemma actions_cons (id : ℕ) (e : Event) (es : List Event) :
    actions id (e :: es) = (actionOf id e).toList ++ actions id es := by
  cases h : actionOf id e <;> simp [actions, h]

/-- The machine's signals on a longer run. -/
lemma signals_samples_cons (id : ℕ) (e : Event) (es : List Event) (s : State Status) :
    signals isDown s (samples id (e :: es)) =
      ((sampleOf id e).map (signal isDown s)).toList ++
        signals isDown (observe id e s) (samples id es) := by
  cases h : sampleOf id e <;> simp [samples, observe, h, signals]

/-- **A run of the simulation.** -/
theorem Tracks.run {es : List Event} (hrun : Run (Step env) w es w') (hw : Consistent w.db)
    (h : Tracks id w s) : actions id es = signals isDown s (samples id es) := by
  induction hrun generalizing s with
  | nil w => rfl
  | cons hstep _ ih =>
    obtain ⟨haction, htracks⟩ := h.step hw hstep
    rw [actions_cons, signals_samples_cons, haction, ih (hw.step hstep) htracks]

/-! ## Dispatches -/

/-- The transitions of a monitor that were dispatched, oldest first. -/
def dispatched (id : ℕ) (db : Db) : List Signal :=
  (db.dispatches.filter fun n => n.monitorId = id).map fun n => signalOf (some n.event)

/-- The owner of a monitor loads at each of its checks. -/
def OwnerLoads (id : ℕ) (users : ℕ → Bool) : Event → Bool
  | .check c m _ _ => c.id ≠ id || (m.userId.filter users).isSome
  | _ => true

/-- **A step dispatches its incident action**, to an owner that loads, and nothing else for the
monitor. -/
theorem dispatched_step {e : Event} (hw : Consistent w.db) (hstep : Step env w e w')
    (howner : OwnerLoads id w.db.users e) :
    dispatched id w'.db = dispatched id w.db ++ edges (actionOf id e).toList := by
  cases e with
  | create => cases hstep with | create => simp [dispatched, actionOf, edges]
  | edit => cases hstep with | edit => simp [dispatched, actionOf, edges]
  | check c m r a =>
    have hc := hstep.checked hw.keyed
    have hid := hc.id_eq
    cases a with
    | none =>
      have hd : w'.db.dispatches = w.db.dispatches := hc.dispatches
      by_cases hk : c.id = id <;> simp [dispatched, hd, actionOf, hk, edges, signalOf]
    | some event =>
      obtain ⟨i, t, hd⟩ := hc.dispatches
      by_cases hk : c.id = id
      · obtain ⟨uid, huid⟩ := Option.isSome_iff_exists.1
          (show (m.userId.filter w.db.users).isSome by simpa [OwnerLoads, hk] using howner)
        have hn : notices w.db m event i t = [⟨event, m.id, uid, i, t⟩] := by
          simp [notices, loadableOwner, huid]
        have hne : signalOf (some event) ≠ .stay := by cases event <;> simp [signalOf]
        simp [dispatched, hd, hn, actionOf, hk, edges, hid, hne]
      · have hn : (notices w.db m event i t).filter (fun n => n.monitorId = id) = [] := by
          rw [List.filter_eq_nil_iff]
          intro n hmem
          simp only [notices, Option.mem_toList, Option.map_eq_some_iff] at hmem
          obtain ⟨uid, -, rfl⟩ := hmem
          simpa [hid] using hk
        simp [dispatched, hd, hn, actionOf, hk, edges]

/-- **A run dispatches its incident actions**, one dispatch each. -/
theorem dispatched_run (id : ℕ) {es : List Event} (hrun : Run (Step env) w es w')
    (hw : Consistent w.db) (howner : ∀ e ∈ es, OwnerLoads id w.db.users e) :
    dispatched id w'.db = dispatched id w.db ++ edges (actions id es) := by
  induction hrun with
  | nil w => simp [actions, edges]
  | cons hstep _ ih =>
    simp only [List.mem_cons, forall_eq_or_imp] at howner
    have ih' := ih (hw.step hstep) (by rw [hstep.users hw.keyed]; exact howner.2)
    rw [ih', dispatched_step hw hstep howner.1, actions_cons, edges, edges, edges,
      List.filter_append, List.append_assoc]

/-- **Flap detection refines the hysteresis machine.** In every run from the empty world, a
monitor's incident actions are those of the machine, started in the low mode, on the outcomes of
its checks, each with the thresholds read at that check. So opens and closes alternate, an open
first; each is dispatched once; and at the end, which may be any point of a longer run, the
persisted status is `DOWN` exactly when the monitor has one ongoing incident.

**Proof sketch.** The counters and the status track the machine's state through every step
(`Tracks.run`); alternation is a fact about the machine (`isChain_edges`); the dispatches follow
the actions (`dispatched_run`); status and incidents agree in consistent worlds. -/
theorem flap_detection_refines (id : ℕ) {users : ℕ → Bool} {es : List Event}
    (hrun : Run (Step env) (.empty users) es w) (howner : ∀ e ∈ es, OwnerLoads id users e) :
    actions id es = signals isDown init (samples id es) ∧
      (edges (actions id es)).IsChain (· ≠ ·) ∧
      (∀ a ∈ (edges (actions id es)).head?, a = .raise) ∧
      dispatched id w.db = edges (actions id es) ∧
      ∀ m, w.db.monitors id = some m → (m.status = some .down ↔ ongoingCount w.db id = 1) := by
  have hempty := consistent_empty users
  have hactions : actions id es = signals isDown init (samples id es) :=
    Tracks.run hrun hempty (show Tracks id (.empty users) init from rfl)
  refine ⟨hactions, ?_, ?_, ?_, ?_⟩
  · rw [hactions]
    exact isChain_edges isDown init _
  · rw [hactions]
    exact head_edges isDown init _
  · simpa [dispatched, World.empty] using dispatched_run id hrun hempty howner
  · intro m hm
    rw [(consistent_of_run hrun hempty).agrees id m hm]
    rcases hs : m.status with _ | _ | _ <;> simp [confirmedOf, hs]

/-- A monitor with thresholds `2` and `1`: the second failure opens, the first success closes. -/
theorem flap_detection_refines_open_close :
    ∃ es w, Run (Step defaultEnv) (.empty fun u => u = 7) es w ∧
      actions 0 es = [.stay, .raise, .clear] ∧
      actions 0 es = signals isDown init (samples 0 es) ∧
      dispatched 0 w.db = [.raise, .clear] := by
  obtain ⟨es, w, hrun, hp⟩ := exists_run_of_performAll defaultEnv (.empty fun u => u = 7)
    [.create 0 (some 7) "http://a" 0,
      .edit 0 { failureThreshold := some 2, successThreshold := some 1 },
      .check (checkAt 0 0 .down), .check (checkAt 0 60000 .down), .check (checkAt 0 120000 .up)]
    (fun x => actions 0 x.1 = [.stay, .raise, .clear] ∧
      ∀ e ∈ x.1, OwnerLoads 0 (fun u => u = 7) e = true)
    (by decide +kernel)
  simp only [decide_eq_true_eq] at hp
  obtain ⟨hactions, howner⟩ := hp
  obtain ⟨h₁, -, -, h₂, -⟩ := flap_detection_refines 0 hrun howner
  exact ⟨es, w, hrun, hactions, h₁, by rw [h₂, hactions]; decide⟩

end WatchTower

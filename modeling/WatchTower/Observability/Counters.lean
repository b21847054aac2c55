import Mathlib.Algebra.Order.BigOperators.Group.Finset
import WatchTower.Scheduler.Deletion
import WatchTower.Transition.Metered

set_option relaxedAutoImplicit false
set_option autoImplicit false

/-!
# The counters of the scheduler

`observability/metrics.js`: a check counts itself, by its outcome, when its probe has answered, and
the opening or closing of an incident when the incident service has reported it. The counters are
those of all instances, added up. They are set against the database, while any number of checks are
interleaved with each other and with the requests of the owners, and while any call may fail.

## Main definitions

* `WatchTower.Counter`, `WatchTower.meteredRunCheck` — the counters, and a check with them.
* `WatchTower.MeteringStep` — the checks beside the owners.
* `WatchTower.unreported` — the service has failed after it had opened or closed an incident.
* `WatchTower.CountersAgree` — what the counters say of the database.

## Main results

* `WatchTower.unmetered_meteredRunCheck` — without the counters, it is the check.
* `WatchTower.meteredRunCheck_spec` — what one check has counted when it ends.
* `WatchTower.countersAgree_of_run` — the counters never run ahead of the database; when all checks
  have ended they are behind by what was lost, exactly.
-/

namespace WatchTower

open Documents Transition Transition.Prog

/-! ## A check with its counters -/

/-- What `runCheck` increments. The counts of `stats` that go with the metrics are theirs. -/
inductive Counter
  /-- `checksExecutedTotal`, by its label. -/
  | checksExecuted (status : Status)
  /-- `incidentsOpenedTotal` and `incidentsClosedTotal`. -/
  | incidents (event : IncidentEvent)
  /-- `stats.errors`. -/
  | errors
  deriving DecidableEq

/-- An asynchronous function that counts. -/
abbrev MeteredAsync := Prog (Metered Op Counter) (MeteredResp Op.Resp) JsError

/-- The incident transition of a check. -/
def meteredTransition (m : Monitor) (update : MonitorUpdate) (result : CheckResult)
    (incidentAt : Time) : MeteredAsync (Option IncidentEvent) :=
  catchError
    (do
      if shouldOpen m result.up then
        let (_, opened) ←
          (openIncident (m.set update) (incidentReason m result) incidentAt).metered
        if opened then
          let () ← inc (.incidents .opened)
          return some .opened
        else return none
      else if shouldClose m result.up then
        let (_, closed) ← (closeIncident (m.set update) incidentAt).metered
        if closed then
          let () ← inc (.incidents .closed)
          return some .closed
        else return none
      else return none)
    fun _ => do
      let () ← inc .errors
      return none

/-- One monitor's check. -/
def meteredRunCheck (env : CheckEnv) (m : Monitor) (verdict : BreakerVerdict) (clock : CheckClock) :
    MeteredAsync (CheckResult × Option IncidentEvent) := do
  let result : CheckResult ←
    (await (Op.checkMonitor m.url (checkOptions env m verdict.mode))).metered
  let () ← inc (.checksExecuted result.status)
  let update := checkUpdate env.config m verdict result clock.now
  let () ← (await (Op.updateMonitor m.id update)).metered
  let () ← (await (Op.createLog (logRow m result clock.now))).metered
  let transition ← meteredTransition m update result clock.incidentAt
  return (result, transition)

/-- Without the counters, it is the incident transition. -/
lemma unmetered_meteredTransition (m : Monitor) (update : MonitorUpdate) (result : CheckResult)
    (t : Time) : (meteredTransition m update result t).unmetered =
      transitionIncident m update result t := by
  rw [meteredTransition, transitionIncident, unmetered_catchError]
  congr 1
  split_ifs
  · rw [bind_eq, bind_eq, unmetered_bind, unmetered_metered]
    congr 1
    funext reported
    obtain ⟨_, opened⟩ := reported
    cases opened <;> rfl
  · rw [bind_eq, bind_eq, unmetered_bind, unmetered_metered]
    congr 1
    funext reported
    obtain ⟨_, closed⟩ := reported
    cases closed <;> rfl
  · rfl

/-- **Without the counters, it is the check.** -/
theorem unmetered_meteredRunCheck (env : CheckEnv) (m : Monitor) (verdict : BreakerVerdict)
    (clock : CheckClock) : (meteredRunCheck env m verdict clock).unmetered =
      runCheck env m verdict clock := by
  simp only [meteredRunCheck, bind_eq, unmetered_bind, unmetered_metered,
    unmetered_meteredTransition]
  rfl

/-! ## What a history amounts to -/

/-- The transition that a call makes. -/
def noteEvent (a : Answered Op.Resp JsError) : Option IncidentEvent :=
  (noteTransition a).map (·.1)

/-- Whether a call makes a transition. -/
def makesEvent (event : IncidentEvent) (a : Answered Op.Resp JsError) : Bool :=
  noteEvent a = some event

/-- Whether a call fails without which a transition that has been made is not reported. -/
def breaksReport (event : IncidentEvent) : Answered Op.Resp JsError → Bool
  | ⟨.dispatch _, .error _⟩ => true
  | ⟨.saveIncident _ _, .error _⟩ => event = .closed
  | _ => false

/-- A transition was made, and was not reported because of a call that failed. -/
def unreported (event : IncidentEvent) (h : List (Answered Op.Resp JsError)) : Bool :=
  h.any (makesEvent event) && h.any (breaksReport event)

/-- Whether a call writes a log row. -/
def writesLog : Answered Op.Resp JsError → Bool
  | ⟨.createLog _, .ok _⟩ => true
  | _ => false

/-- Whether a call fails without which there is no log row. -/
def leavesUnlogged : Answered Op.Resp JsError → Bool
  | ⟨.updateMonitor _ _, .error _⟩ => true
  | ⟨.createLog _, .error _⟩ => true
  | _ => false

/-- The transitions of a history, and whether they are broken off, stay as they are. -/
structure SameTransitions (h h' : List (Answered Op.Resp JsError)) : Prop where
  events : h'.filterMap noteEvent = h.filterMap noteEvent
  opened : h'.any (breaksReport .opened) = h.any (breaksReport .opened)

variable {h : List (Answered Op.Resp JsError)}

/-- Any answer. -/
abbrev AnyAnswer (o : Op) (_ : Except JsError o.Resp) : Prop := True

/-- Any call. -/
abbrev AnyCall (_ : List (Answered Op.Resp JsError)) (_ : Op) : Prop := True

/-- Summarising an incident does not fail, and makes no transition. -/
lemma summarise_transits (i : Incident) (reason : String) :
    (summarise i reason).Spec AnyAnswer AnyCall
      (fun h' out => SameTransitions h h' ∧ ∃ saved, out = .ok saved) h := by
  have hsame : ∀ r, SameTransitions h (h ++ [⟨.analyzeIncident reason, r⟩]) := fun r =>
    ⟨by simp [noteEvent, noteTransition], by simp [breaksReport]⟩
  refine Spec.catchError (Spec.bind (spec_await.2 ⟨trivial, fun r _ => ?_⟩))
  rcases r with err | summary
  · exact ⟨hsame _, _, rfl⟩
  · rcases summary with _ | summary
    · exact ⟨hsame _, _, rfl⟩
    · dsimp only
      split_ifs
      · exact ⟨hsame _, _, rfl⟩
      · refine Spec.catchError (Spec.bind (spec_await.2 ⟨trivial, fun r _ => ?_⟩))
        have hboth : SameTransitions h (h ++ [⟨.analyzeIncident reason, .ok (some summary)⟩] ++
            [⟨.saveIncident _ _, r⟩]) :=
          ⟨by simp [noteEvent, noteTransition], by cases r <;> simp [breaksReport]⟩
        cases r with
        | error err => exact ⟨hboth, _, rfl⟩
        | ok a => exact ⟨hboth, _, rfl⟩

/-- Notifying the owner makes no transition. If it fails, one that has been made is broken off. -/
lemma notifyOwner_transits (m : Monitor) (event : IncidentEvent) (i : Incident) (t : Time) :
    (notifyOwner m event i t).Spec AnyAnswer AnyCall
      (fun h' out => h'.filterMap noteEvent = h.filterMap noteEvent ∧
        (out = .ok () ∧ (∀ e, h'.any (breaksReport e) = h.any (breaksReport e)) ∨
          (∃ err, out = .error err) ∧ ∀ e, h'.any (breaksReport e) = true)) h := by
  have hdispatch : ∀ (h : List (Answered Op.Resp JsError)) payload,
      (await (Op.dispatch payload) : Async Unit).Spec AnyAnswer AnyCall
        (fun h' out => h'.filterMap noteEvent = h.filterMap noteEvent ∧
          (out = .ok () ∧ (∀ e, h'.any (breaksReport e) = h.any (breaksReport e)) ∨
            (∃ err, out = .error err) ∧ ∀ e, h'.any (breaksReport e) = true)) h := by
    intro h payload
    refine spec_await.2 ⟨trivial, fun r _ => ⟨by simp [noteEvent, noteTransition], ?_⟩⟩
    cases r with
    | ok a => exact .inl ⟨rfl, fun e => by simp [breaksReport]⟩
    | error err => exact .inr ⟨⟨err, rfl⟩, fun e => by simp [breaksReport]⟩
  unfold notifyOwner loadOwner
  cases m.userId with
  | none => exact ⟨rfl, .inl ⟨rfl, fun _ => rfl⟩⟩
  | some uid =>
    refine Spec.bind (Spec.bind (spec_attempt.2 ⟨trivial, fun r _ => ?_⟩))
    let found : Answered Op.Resp JsError := ⟨.findUser uid, r⟩
    have hfind : (h ++ [found]).filterMap noteEvent = h.filterMap noteEvent ∧
        ∀ e, (h ++ [found]).any (breaksReport e) = h.any (breaksReport e) :=
      ⟨by simp [found, noteEvent, noteTransition], fun e => by simp [found, breaksReport]⟩
    rcases r with err | _ | _
    · exact ⟨hfind.1, .inl ⟨rfl, hfind.2⟩⟩
    · exact ⟨hfind.1, .inl ⟨rfl, hfind.2⟩⟩
    · refine (hdispatch _ _).mono fun h' out hout => ⟨hout.1.trans hfind.1, ?_⟩
      exact hout.2.imp_left fun hok => ⟨hok.1, fun e => (hok.2 e).trans (hfind.2 e)⟩

/-- How a call of the incident service ends that has made no transition before: without one, or with
one that it reports unless a call has failed. -/
def Transits (event : IncidentEvent) (h : List (Answered Op.Resp JsError))
    (out : Except JsError (Option Incident × Bool)) : Prop :=
  (h.filterMap noteEvent = [] ∧ ∀ i, out ≠ .ok (i, true)) ∨
  (h.filterMap noteEvent = [event] ∧
    ((∃ i, out = .ok (i, true)) ∧ h.any (breaksReport event) = false ∨
      (∃ err, out = .error err) ∧ h.any (breaksReport event) = true))

/-- Nothing has happened to incidents yet. -/
structure Untouched (h : List (Answered Op.Resp JsError)) : Prop where
  events : h.filterMap noteEvent = []
  unbroken : ∀ event, h.any (breaksReport event) = false

/-- After the transition, the owner is notified, and the service reports. -/
lemma report_transits {event : IncidentEvent} (m : Monitor) (i saved : Incident) (t : Time)
    (hevents : h.filterMap noteEvent = [event]) (hunbroken : h.any (breaksReport event) = false) :
    ((notifyOwner m event i t).bind fun _ => ret (some saved, true)).Spec AnyAnswer AnyCall
      (Transits event) h := by
  refine Spec.bind ((notifyOwner_transits m event i t).mono fun h' out hout => ?_)
  obtain ⟨hsame, ⟨rfl, hkept⟩ | ⟨⟨err, rfl⟩, hbroken⟩⟩ := hout
  · exact .inr ⟨hsame.trans hevents, .inl ⟨⟨_, rfl⟩, (hkept event).trans hunbroken⟩⟩
  · exact .inr ⟨hsame.trans hevents, .inr ⟨⟨err, rfl⟩, hbroken event⟩⟩

/-- **Opening an incident.** -/
lemma openIncident_transits (m : Monitor) (reason : String) (t : Time) (hh : Untouched h) :
    (openIncident m reason t).Spec AnyAnswer AnyCall (Transits .opened) h := by
  refine Spec.bind (spec_attempt.2 ⟨trivial, fun r _ => ?_⟩)
  rcases r with err | ⟨incident, updatedExisting⟩
  · dsimp only
    split_ifs
    · refine Spec.bind (spec_await.2 ⟨trivial, fun r _ => ?_⟩)
      let refused : Answered Op.Resp JsError :=
        ⟨.upsertIncident m.id ⟨m.userId, t, reason⟩, .error err⟩
      let read : Answered Op.Resp JsError := ⟨.findOngoing m.id, r⟩
      have hnone : (h ++ [refused] ++ [read]).filterMap noteEvent = [] := by
        simp [refused, read, hh.events, noteEvent, noteTransition]
      cases r with
      | error err => exact .inl ⟨hnone, fun i => by simp⟩
      | ok existing => exact .inl ⟨hnone, fun i => by simp⟩
    · exact .inl ⟨by simp [hh.events, noteEvent, noteTransition], fun i => by simp⟩
  · cases updatedExisting with
    | true => exact .inl ⟨by simp [hh.events, noteEvent, noteTransition], fun i => by simp⟩
    | false =>
      refine Spec.bind ((summarise_transits incident reason).mono fun h' out hout => ?_)
      obtain ⟨hsame, saved, rfl⟩ := hout
      refine report_transits m saved saved t ?_ ?_
      · rw [hsame.events]
        simp [hh.events, noteEvent, noteTransition]
      · rw [hsame.opened]
        simp [hh.unbroken, breaksReport]

/-- **Closing one.** -/
lemma closeIncident_transits (m : Monitor) (t : Time) (hh : Untouched h) :
    (closeIncident m t).Spec AnyAnswer AnyCall (Transits .closed) h := by
  refine Spec.bind (spec_await.2 ⟨trivial, fun r _ => ?_⟩)
  rcases r with err | _ | incident
  · exact .inl ⟨by simp [hh.events, noteEvent, noteTransition], fun i => by simp⟩
  · exact .inl ⟨by simp [hh.events, noteEvent, noteTransition], fun i => by simp⟩
  · refine Spec.bind (Spec.bind (spec_await.2 ⟨trivial, fun r _ => ?_⟩))
    cases r with
    | error err =>
      refine .inr ⟨by simp [hh.events, noteEvent, noteTransition], .inr ⟨⟨err, rfl⟩, ?_⟩⟩
      simp [breaksReport]
    | ok a =>
      refine report_transits m _ _ t ?_ ?_
      · simp [hh.events, noteEvent, noteTransition]
      · simp [hh.unbroken, breaksReport]

/-- Neither touches log rows. -/
lemma openIncident_keepsRecords (m : Monitor) (reason : String) (t : Time) :
    (openIncident m reason t).AllCalls Op.KeepsRecords := by
  refine AllCalls.bind (allCalls_attempt.2 trivial) fun r => ?_
  rcases r with err | ⟨incident, updatedExisting⟩
  · dsimp only
    split_ifs
    · exact AllCalls.bind (allCalls_await.2 trivial) fun _ => trivial
    · trivial
  · cases updatedExisting with
    | true => trivial
    | false =>
      refine AllCalls.bind ((summarise_follows _ _).mono fun _ => Op.FollowsTransition.keepsRecords)
        fun saved => AllCalls.bind ?_ fun _ => trivial
      exact (notifyOwner_follows _ _ _ _).mono fun _ => Op.FollowsTransition.keepsRecords

lemma closeIncident_keepsRecords (m : Monitor) (t : Time) :
    (closeIncident m t).AllCalls Op.KeepsRecords := by
  refine AllCalls.bind (allCalls_await.2 trivial) fun found => ?_
  cases found with
  | none => trivial
  | some incident =>
    refine AllCalls.bind ((save_follows _ _).mono fun _ => Op.FollowsTransition.keepsRecords)
      fun saved => AllCalls.bind ?_ fun _ => trivial
    exact (notifyOwner_follows _ _ _ _).mono fun _ => Op.FollowsTransition.keepsRecords

/-! ## What one check has counted -/

/-- A history of a check that counts. -/
abbrev MeteredHistory := List (Answered (MeteredResp (M := Counter) Op.Resp) JsError)

/-- An incident is counted after it has been opened or closed. -/
def Permits (h : MeteredHistory) : Metered Op Counter → Prop
  | .inc (.incidents event) =>
    (incsIn h).count (.incidents event) < (opsIn h).countP (makesEvent event)
  | _ => True

/-- What a check that has ended has counted. -/
structure Balanced (h : MeteredHistory) : Prop where
  incidents : ∀ event, (incsIn h).count (.incidents event) + (unreported event (opsIn h)).toNat =
    (opsIn h).countP (makesEvent event)
  errors : (unreported .opened (opsIn h)).toNat + (unreported .closed (opsIn h)).toNat ≤
    (incsIn h).count .errors
  checks : (incsIn h).count (.checksExecuted .up) + (incsIn h).count (.checksExecuted .down) =
    (opsIn h).countP writesLog + (opsIn h).countP leavesUnlogged

/-- A check that has been logged and counted, and has done nothing else. -/
structure Logged (h : MeteredHistory) : Prop where
  untouched : Untouched (opsIn h)
  counted : ∃ status, incsIn h = [.checksExecuted status]
  logged : (opsIn h).countP writesLog + (opsIn h).countP leavesUnlogged = 1

variable {g g' : MeteredHistory}

/-- The transitions of a history. -/
lemma countP_makesEvent (event : IncidentEvent) (h : List (Answered Op.Resp JsError)) :
    h.countP (makesEvent event) = (h.filterMap noteEvent).count event := by
  rw [List.count, List.countP_filterMap]
  refine List.countP_congr fun a _ => ?_
  rcases ha : noteEvent a with _ | e <;> simp [makesEvent, ha]

/-- Nothing is lost that was not made. -/
lemma unreported_eq (event : IncidentEvent) (h : List (Answered Op.Resp JsError)) :
    unreported event h =
      (decide (event ∈ h.filterMap noteEvent) && h.any (breaksReport event)) := by
  rw [unreported]
  congr 1
  rw [Bool.eq_iff_iff]
  simp [makesEvent]

/-- Calls that touch no log rows leave the log rows as they are. -/
lemma logged_of_keepsRecords {added : List (Answered Op.Resp JsError)}
    (hadded : ∀ a ∈ added, a.1.KeepsRecords) :
    added.countP writesLog = 0 ∧ added.countP leavesUnlogged = 0 := by
  constructor
  · refine List.countP_eq_zero.2 fun a ha => ?_
    have := hadded a ha
    rcases a with ⟨o, r⟩
    cases o <;> first | exact this.elim | simp [writesLog]
  · refine List.countP_eq_zero.2 fun a ha => ?_
    have := hadded a ha
    rcases a with ⟨o, r⟩
    cases o <;> first | exact this.elim | simp [leavesUnlogged]

/-- A check has been logged and counted, and more has been counted since. -/
lemma balanced_of (status : Status) (more : List Counter)
    (hincs : incsIn g = .checksExecuted status :: more)
    (hmore : ∀ s, more.count (.checksExecuted s) = 0)
    (hlogged : (opsIn g).countP writesLog + (opsIn g).countP leavesUnlogged = 1)
    (hevents : ∀ e, more.count (.incidents e) + (unreported e (opsIn g)).toNat =
      ((opsIn g).filterMap noteEvent).count e)
    (herrors : (unreported .opened (opsIn g)).toNat + (unreported .closed (opsIn g)).toNat ≤
      more.count .errors) : Balanced g where
  incidents e := by
    rw [countP_makesEvent, ← hevents, hincs]
    simp
  errors := by
    rw [hincs]
    simpa using herrors
  checks := by
    rw [hlogged, hincs, List.count_cons, List.count_cons, hmore, hmore]
    cases status <;> rfl

/-- A check that makes no incident transition. -/
lemma balanced_of_untouched {status : Status} (hincs : incsIn g = [.checksExecuted status])
    (hlogged : (opsIn g).countP writesLog + (opsIn g).countP leavesUnlogged = 1)
    (hevents : (opsIn g).filterMap noteEvent = []) : Balanced g := by
  have hreported : ∀ e, unreported e (opsIn g) = false := fun e => by
    simp [unreported_eq, hevents]
  refine balanced_of status [] hincs (fun _ => rfl) hlogged ?_ ?_
  · simp [hreported, hevents]
  · simp [hreported]

/-- **A call of the service, its report and the counters.** -/
lemma report_balanced {event : IncidentEvent} {p : Async (Option Incident × Bool)} (hg : Logged g)
    (hp : p.Spec AnyAnswer AnyCall (Transits event) (opsIn g))
    (hrecords : p.AllCalls Op.KeepsRecords) :
    ((p.metered.bind fun x => if x.2 = true then (inc (.incidents event)).bind fun _ =>
        ret (some event) else ret none).catchError fun _ =>
      (inc .errors).bind fun _ => ret none).Spec (MeteredAnswers AnyAnswer) Permits
      (fun g' _ => Balanced g') g := by
  have hboth := hp.and (hrecords.spec (I := AnyCall) fun _ _ _ => trivial)
  refine Spec.catchError (Spec.bind
    ((Spec.metered (I := Permits) (fun _ _ _ => trivial) hboth).mono ?_))
  rintro g' out ⟨⟨htransits, added, hops, hadded⟩, hincs⟩
  obtain ⟨status, hstatus⟩ := hg.counted
  rw [hstatus] at hincs
  have hlogged : (opsIn g').countP writesLog + (opsIn g').countP leavesUnlogged = 1 := by
    obtain ⟨hlogs, hunlogged⟩ := logged_of_keepsRecords hadded
    rw [hops, List.countP_append, List.countP_append, hlogs, hunlogged]
    exact hg.logged
  rcases htransits with ⟨hnone, hout⟩ | ⟨hevent, ⟨⟨i, rfl⟩, hkept⟩ | ⟨⟨err, rfl⟩, hbroken⟩⟩
  · have hreported : ∀ e, unreported e (opsIn g') = false := fun e => by
      simp [unreported_eq, hnone]
    rcases out with err | ⟨i, made⟩
    · refine Spec.bind (spec_inc.2 ⟨trivial, ?_⟩)
      refine balanced_of status [.errors] ?_ (fun _ => rfl) ?_ ?_ ?_
      · simp [hincs]
      · simpa using hlogged
      · simp [hreported, hnone]
      · simp [hreported]
    · cases made with
      | true => exact absurd rfl (hout i)
      | false =>
        exact balanced_of_untouched hincs hlogged hnone
  · have hreported : ∀ e, unreported e (opsIn g') = false := fun e => by
      rw [unreported_eq, hevent]
      by_cases he : e = event
      · rw [he, hkept, Bool.and_false]
      · simp [he]
    refine Spec.bind (spec_inc.2 ⟨?_, ?_⟩)
    · change _ < _
      rw [countP_makesEvent, hevent, hincs]
      simp
    · refine balanced_of status [.incidents event] ?_ (fun _ => rfl) ?_ ?_ ?_
      · simp [hincs]
      · simpa using hlogged
      · intro e
        by_cases he : e = event
        · simp [hreported, hevent, he]
        · simp [hreported, hevent, Ne.symm he]
      · simp [hreported]
  · have hlost : ∀ e, unreported e (opsIn g') = decide (e = event) := fun e => by
      rw [unreported_eq, hevent]
      by_cases he : e = event
      · simp [he, hbroken]
      · simp [he]
    refine Spec.bind (spec_inc.2 ⟨trivial, ?_⟩)
    refine balanced_of status [.errors] ?_ (fun _ => rfl) ?_ ?_ ?_
    · simp [hincs]
    · simpa using hlogged
    · intro e
      by_cases he : e = event
      · simp [hlost, hevent, he]
      · simp [hlost, hevent, he, Ne.symm he]
    · simp only [opsIn_inc, hlost]
      cases event <;> decide

/-- **The incident transition of a check, with its counters.** -/
lemma meteredTransition_balanced (m : Monitor) (update : MonitorUpdate) (result : CheckResult)
    (t : Time) (hg : Logged g) :
    (meteredTransition m update result t).Spec (MeteredAnswers AnyAnswer) Permits
      (fun g' _ => Balanced g') g := by
  unfold meteredTransition
  split_ifs
  · exact report_balanced hg (openIncident_transits _ _ _ hg.untouched)
      (openIncident_keepsRecords _ _ _)
  · exact report_balanced hg (closeIncident_transits _ _ hg.untouched)
      (closeIncident_keepsRecords _ _)
  · obtain ⟨status, hstatus⟩ := hg.counted
    exact balanced_of_untouched hstatus hg.logged hg.untouched.events

/-- **What one check has counted** when it ends, whichever of its calls fail. -/
theorem meteredRunCheck_spec (env : CheckEnv) (m : Monitor) (verdict : BreakerVerdict)
    (clock : CheckClock) :
    (meteredRunCheck env m verdict clock).Spec (MeteredAnswers AnyAnswer) Permits
      (fun g _ => Balanced g) [] := by
  refine Spec.bind (spec_metered_await.2 ⟨trivial, fun r _ => ?_⟩)
  rcases r with err | result
  · -- the probe has no result: nothing is counted or written
    exact ⟨fun _ => rfl, le_rfl, rfl⟩
  refine Spec.bind (spec_inc.2 ⟨trivial, ?_⟩)
  refine Spec.bind (spec_metered_await.2 ⟨trivial, fun r _ => ?_⟩)
  cases r with
  | error err => exact balanced_of_untouched rfl rfl rfl
  | ok a =>
    refine Spec.bind (spec_metered_await.2 ⟨trivial, fun r _ => ?_⟩)
    cases r with
    | error err => exact balanced_of_untouched rfl rfl rfl
    | ok a =>
      refine Spec.bind ((meteredTransition_balanced _ _ _ _ ?_).mono fun g out hg => ?_)
      · exact ⟨⟨rfl, fun _ => rfl⟩, ⟨result.status, rfl⟩, rfl⟩
      cases out with
      | error err => exact hg
      | ok a => exact hg

/-! ## All checks -/

variable {ι : Type}

/-- The database with the counters, and the checks. -/
abbrev MeteredWorld (ι : Type) :=
  Shared ι (Db × (Counter → ℕ)) (MeteredResp (M := Counter) Op.Resp) JsError
    (CheckResult × Option IncidentEvent)

/-- What happens. -/
abbrev MeteringEvent (ι : Type) :=
  BesideEvent ι (MeteredResp (M := Counter) Op.Resp) JsError (CheckResult × Option IncidentEvent)
    OwnerRequest

/-- A check starts from the document that the tick has loaded. -/
def MetersLoaded (checks : ι → PlannedCheck) (i : ι) (s : Db × (Counter → ℕ))
    (p : MeteredAsync (CheckResult × Option IncidentEvent)) : Prop :=
  ∃ m, s.1.monitors (checks i).monitorId = some m ∧ m.id = (checks i).monitorId ∧
    p = meteredRunCheck (checks i).env m ((checks i).verdict m) (checks i).clock

/-- An owner's request writes, and leaves the counters alone. -/
def RequestsBeside (a : OwnerRequest) (s s' : Db × (Counter → ℕ)) : Prop :=
  a.Performs s.1 s'.1 ∧ s'.2 = s.2

variable [DecidableEq ι]

/-- A check starts, performs its next call or counts, or an owner's request writes. -/
abbrev MeteringStep (checks : ι → PlannedCheck) :
    MeteredWorld ι → MeteringEvent ι → MeteredWorld ι → Prop :=
  BesideStep (MetersLoaded checks) (MeteredActs Attempts) RequestsBeside

/-- The database before the first check, with all counters at zero. -/
def MeteredWorld.start (db : Db) : MeteredWorld ι := .idle (db, fun _ => 0)

/-- Every check that has started has ended. -/
def MeteredWorld.Drained (w : MeteredWorld ι) : Prop :=
  ∀ i p, w.todo i = some p → ∃ out, p = .done out

/-- How many incidents have been opened, and resolved. -/
def transitionCount (db : Db) : IncidentEvent → ℕ
  | .opened => db.incidents.length
  | .closed => db.incidents.countP (·.status = .resolved)

/-- How many checks have made a transition and failed to report it. -/
def unreportedCount (event : IncidentEvent) (es : List (MeteringEvent ι)) : ℕ :=
  ((callers (ofPrograms es)).filter fun i =>
    unreported event (opsIn (callsOf i (ofPrograms es)))).card

/-- How many checks have failed to write their log row. -/
def unloggedCount (es : List (MeteringEvent ι)) : ℕ :=
  callCount leavesUnlogged (ofPrograms (unmeteredEvents es))

/-- **What the counters say of the database.** -/
structure CountersAgree (db : Db) (es : List (MeteringEvent ι)) (w : MeteredWorld ι) : Prop where
  /-- No more incidents are counted than have been opened or closed. -/
  never_ahead : ∀ event,
    transitionCount db event + w.store.2 (.incidents event) ≤ transitionCount w.store.1 event
  /-- When all checks have ended, those are not that could not be reported. -/
  incidents : w.Drained → ∀ event,
    transitionCount db event + w.store.2 (.incidents event) + unreportedCount event es =
      transitionCount w.store.1 event
  /-- Each of these is an error. -/
  errors : w.Drained →
    unreportedCount .opened es + unreportedCount .closed es ≤ w.store.2 .errors
  /-- Each check has a log row, unless it could not be written. -/
  checks : w.Drained →
    db.logs.length + w.store.2 (.checksExecuted .up) + w.store.2 (.checksExecuted .down) =
      w.store.1.logs.length + unloggedCount es

variable {checks : ι → PlannedCheck} {db db' : Db} {w : MeteredWorld ι}
  {es : List (MeteringEvent ι)}

/-- **One call** makes the transition that it is noted for. -/
lemma transitionCount_of_attempts {o : Op} {r : Except JsError o.Resp} (h : Attempts o db r db')
    (event : IncidentEvent) : transitionCount db' event =
      transitionCount db event + (makesEvent event ⟨o, r⟩).toNat := by
  have hnone : ∀ (o : Op) (r : Except JsError o.Resp), noteTransition ⟨o, r⟩ = none →
      makesEvent event ⟨o, r⟩ = false := fun o r h => by simp [makesEvent, noteEvent, h]
  rcases h with (⟨ext, h⟩ | ⟨rfl, rfl, k, ins, rfl, -⟩ | ⟨rfl, reason, rfl⟩) | ⟨⟨err, rfl⟩, rfl⟩
  · cases o with
    | upsertIncident k ins =>
      simp only [exec] at h
      split at h
      · obtain ⟨rfl, rfl⟩ := Prod.mk.inj h
        rw [hnone _ _ rfl]
        rfl
      · obtain ⟨rfl, rfl⟩ := Prod.mk.inj h
        cases event <;> simp [transitionCount, makesEvent, noteEvent, noteTransition,
          Incident.inserted]
    | resolveIncident k t =>
      obtain ⟨rfl, rfl⟩ := Prod.mk.inj h
      cases hfind : db.incidents.find? (isOngoing k) with
      | none =>
        rw [updateFirst_of_countP_eq_zero (find_eq_none_iff_countP.1 hfind), hnone _ _ rfl]
        rfl
      | some i =>
        cases event with
        | opened =>
          simp [transitionCount, makesEvent, noteEvent, noteTransition, length_updateFirst]
        | closed =>
          refine countP_updateFirst_of_enters (q := (·.status = .resolved)) (f := (·.resolve t))
            (fun a ha => ?_) (fun _ _ => decide_eq_true rfl) (Option.isSome_of_eq_some hfind)
          simp [(of_decide_eq_true ha).2]
    | saveIncident id changes =>
      obtain ⟨rfl, rfl⟩ := Prod.mk.inj h
      rw [hnone _ _ rfl]
      cases event with
      | opened => simp [transitionCount, updateAll]
      | closed => exact countP_updateAll_of_iff (f := Incident.change changes) (fun _ _ => rfl) _
    | updateMonitor id update =>
      simp only [exec] at h
      split_ifs at h
      · obtain ⟨rfl, rfl⟩ := Prod.mk.inj h
        rw [hnone _ _ rfl]
        rfl
      · obtain ⟨rfl, rfl⟩ := Prod.mk.inj h
        rw [hnone _ _ rfl]
        rfl
    | _ =>
      obtain ⟨rfl, rfl⟩ := Prod.mk.inj h
      rw [hnone _ _ rfl]
      rfl
  · rw [hnone _ _ rfl]
    rfl
  · rw [hnone _ _ rfl]
    rfl
  · rw [hnone]
    · rfl
    · cases o <;> rfl

/-- It writes the log row that it is noted for. -/
lemma length_logs_of_attempts {o : Op} {r : Except JsError o.Resp} (h : Attempts o db r db') :
    db'.logs.length = db.logs.length + (writesLog ⟨o, r⟩).toNat := by
  rcases h with (⟨ext, h⟩ | ⟨rfl, rfl, k, ins, rfl, -⟩ | ⟨rfl, reason, rfl⟩) | ⟨⟨err, rfl⟩, rfl⟩
  · cases o with
    | upsertIncident k ins =>
      simp only [exec] at h
      split at h
      · obtain ⟨-, rfl⟩ := Prod.mk.inj h
        rfl
      · obtain ⟨-, rfl⟩ := Prod.mk.inj h
        rfl
    | updateMonitor id update =>
      simp only [exec] at h
      split_ifs at h
      · obtain ⟨-, rfl⟩ := Prod.mk.inj h
        rfl
      · obtain ⟨-, rfl⟩ := Prod.mk.inj h
        rfl
    | createLog row =>
      obtain ⟨rfl, rfl⟩ := Prod.mk.inj h
      exact List.length_append
    | _ =>
      obtain ⟨-, rfl⟩ := Prod.mk.inj h
      rfl
  · rfl
  · rfl
  · cases o <;> rfl

/-- The requests of owners open and resolve nothing. -/
lemma transitionCount_write (a : OwnerRequest) (db : Db) (event : IncidentEvent) :
    transitionCount (a.write db) event = transitionCount db event := by
  cases a <;> cases event <;> rfl

/-- They write no log row. -/
lemma logs_write (a : OwnerRequest) (db : Db) : (a.write db).logs = db.logs := by
  cases a <;> rfl

/-- What the database holds after a run of the checks. -/
lemma transitionCount_of_run {w : OverlapWorld ι} {es : List (DeletionEvent ι)}
    (h : Run (DeletionStep checks) (.idle db) es w) :
    (∀ event, transitionCount w.store event =
      transitionCount db event + callCount (makesEvent event) (ofPrograms es)) ∧
    w.store.logs.length = db.logs.length + callCount writesLog (ofPrograms es) := by
  refine h.induction_from (P := fun es w => (∀ event, transitionCount w.store event =
      transitionCount db event + callCount (makesEvent event) (ofPrograms es)) ∧
    w.store.logs.length = db.logs.length + callCount writesLog (ofPrograms es))
    ⟨fun _ => rfl, rfl⟩ ?_
  rintro es a e b - ⟨hevents, hlogs⟩ hstep
  cases hstep with
  | @other a _ hacts =>
    obtain ⟨rfl, -⟩ := hacts
    rw [ofPrograms_other]
    exact ⟨fun event => (transitionCount_write a _ event).trans (hevents event),
      (congrArg List.length (logs_write a _)).trans hlogs⟩
  | program hstep =>
    rw [ofPrograms_program]
    cases hstep with
    | start => simpa using ⟨hevents, hlogs⟩
    | call hi hH =>
      refine ⟨fun event => ?_, ?_⟩
      · rw [transitionCount_of_attempts hH, hevents, callCount_call, Nat.add_assoc]
      · rw [length_logs_of_attempts hH, hlogs, callCount_call, Nat.add_assoc]

/-- The counts of all checks, as those of each. -/
lemma countP_incs (m : Counter) (g : MeteredHistory) : g.countP (incs m) = (incsIn g).count m := by
  rw [incsIn, List.count, List.countP_filterMap]
  refine List.countP_congr fun a _ => ?_
  rcases ha : incOf a with _ | m' <;> simp [incs, ha]

omit [DecidableEq ι] in
/-- Checks start as they should. -/
lemma spec_of_metersLoaded (i : ι) (s : Db × (Counter → ℕ))
    (p : MeteredAsync (CheckResult × Option IncidentEvent)) (h : MetersLoaded checks i s p) :
    p.Spec (MeteredAnswers AnyAnswer) Permits (fun g _ => Balanced g) [] := by
  obtain ⟨m, -, -, rfl⟩ := h
  exact meteredRunCheck_spec _ _ _ _

/-- What they are answered. -/
lemma answers_of_meteredActs (o : Metered Op Counter) (s : Db × (Counter → ℕ))
    (r : Except JsError (MeteredResp Op.Resp o)) (s' : Db × (Counter → ℕ))
    (h : MeteredActs Attempts o s r s') : MeteredAnswers AnyAnswer o r := by
  cases o with
  | op o => trivial
  | inc m => exact h.1

/-- When all checks have ended, each of them is balanced. -/
lemma balanced_of_drained (h : Run (MeteringStep checks) (.start db) es w) (hw : w.Drained)
    (i : ι) : Balanced (callsOf i (ofPrograms es)) := by
  have hspec := h.beside_spec (I := fun _ => Permits) (Q := fun _ g _ => Balanced g)
    spec_of_metersLoaded answers_of_meteredActs i
  cases hi : w.todo i with
  | none =>
    rw [hi] at hspec
    rw [show callsOf i (ofPrograms es) = [] from hspec]
    exact ⟨fun _ => rfl, le_rfl, rfl⟩
  | some p =>
    obtain ⟨out, rfl⟩ := hw i p hi
    rw [hi] at hspec
    cases out with
    | ok a => exact hspec
    | error err => exact hspec

/-- No check counts an incident that it has not opened or closed. -/
lemma count_le_of_run (h : Run (MeteringStep checks) (.start db) es w) (i : ι)
    (event : IncidentEvent) : (incsIn (callsOf i (ofPrograms es))).count (.incidents event) ≤
      (opsIn (callsOf i (ofPrograms es))).countP (makesEvent event) := by
  refine h.beside_history (I := fun _ => Permits) (Q := fun _ g _ => Balanced g)
    (P := fun g => (incsIn g).count (.incidents event) ≤ (opsIn g).countP (makesEvent event))
    spec_of_metersLoaded answers_of_meteredActs le_rfl fun g o r hle ho => ?_
  cases o with
  | op o =>
    rw [incsIn_op, opsIn_op, List.countP_append]
    exact hle.trans (Nat.le_add_right _ _)
  | inc m =>
    rw [incsIn_inc, opsIn_inc, List.count_append, List.count_singleton]
    split_ifs with hm
    · obtain rfl := eq_of_beq hm
      exact ho
    · exact hle

/-- **The counters agree with the database.** They never run ahead of it, in any interleaving of
checks and requests, and whatever fails. When all checks have ended, they are behind by exactly the
transitions whose report failed, each of which is counted as an error.

**Proof sketch.** Without the counters, the run is one of the checks, so the database holds what
their calls have made. The counters hold what has been counted. Both are sums over the checks, and
one check balances. -/
theorem countersAgree_of_run (h : Run (MeteringStep checks) (.start db) es w) :
    CountersAgree db es w := by
  have hrun : Run (DeletionStep checks) (.idle db) (unmeteredEvents es) w.unmetered :=
    h.unmetered (fun i s p hp => by
      obtain ⟨m, hm, hid, rfl⟩ := hp
      exact ⟨m, hm, hid, unmetered_meteredRunCheck _ _ _ _⟩) fun a s s' ha => ha.1
  obtain ⟨hevents, hlogs⟩ := transitionCount_of_run hrun
  let s := callers (ofPrograms es)
  have hs : ∀ i, callsOf i (ofPrograms es) ≠ [] → i ∈ s := fun i => mem_callers
  have hcounter : ∀ m, w.store.2 m = ∑ i ∈ s, (incsIn (callsOf i (ofPrograms es))).count m := by
    intro m
    rw [counter_eq_of_run (fun a s s' ha => ha.2) h m, callCount_eq_sum _ hs]
    simp only [countP_incs]
    exact Nat.zero_add _
  have hmade : ∀ p, callCount p (ofPrograms (unmeteredEvents es)) =
      ∑ i ∈ s, (opsIn (callsOf i (ofPrograms es))).countP p := by
    intro p
    rw [callCount_eq_sum (s := s) p fun i hi => hs i fun hnil => hi ?_]
    · simp only [callsOf_unmeteredEvents]
    · rw [callsOf_unmeteredEvents, hnil]
      rfl
  have hunreported : ∀ event, unreportedCount event es =
      ∑ i ∈ s, (unreported event (opsIn (callsOf i (ofPrograms es)))).toNat := by
    intro event
    rw [unreportedCount, Finset.card_filter]
    refine Finset.sum_congr rfl fun i _ => ?_
    cases unreported event (opsIn (callsOf i (ofPrograms es))) <;> rfl
  refine ⟨fun event => ?_, fun hw event => ?_, fun hw => ?_, fun hw => ?_⟩
  · refine (Nat.add_le_add_left ?_ _).trans (hevents event).ge
    rw [hcounter, hmade]
    exact Finset.sum_le_sum fun i _ => count_le_of_run h i event
  · refine Eq.trans ?_ (hevents event).symm
    rw [hcounter, hmade, hunreported, Nat.add_assoc, ← Finset.sum_add_distrib]
    exact congrArg _ (Finset.sum_congr rfl fun i _ => (balanced_of_drained h hw i).incidents event)
  · rw [hcounter, hunreported, hunreported, ← Finset.sum_add_distrib]
    exact Finset.sum_le_sum fun i _ => (balanced_of_drained h hw i).errors
  · have hchecks : ∑ i ∈ s, ((incsIn (callsOf i (ofPrograms es))).count (.checksExecuted .up) +
        (incsIn (callsOf i (ofPrograms es))).count (.checksExecuted .down)) =
        ∑ i ∈ s, ((opsIn (callsOf i (ofPrograms es))).countP writesLog +
          (opsIn (callsOf i (ofPrograms es))).countP leavesUnlogged) :=
      Finset.sum_congr rfl fun i _ => (balanced_of_drained h hw i).checks
    have hlength : w.store.1.logs.length = _ := hlogs
    rw [Finset.sum_add_distrib, Finset.sum_add_distrib] at hchecks
    rw [hlength, hcounter, hcounter, unloggedCount, hmade, hmade]
    omega

/-- Calls that do what they should, with the counters. -/
def meteredExec (ext : External) : (o : Metered Op Counter) → Db × (Counter → ℕ) →
    Except JsError (MeteredResp Op.Resp o) × (Db × (Counter → ℕ))
  | .op o, s => ((exec ext o s.1).1, ((exec ext o s.1).2, s.2))
  | .inc m, s => (.ok (), (s.1, Function.update s.2 m (s.2 m + 1)))

/-- `countersAgree_of_run` for one check, which opens an incident. -/
theorem countersAgree_of_run_opened : ∃ (es : _) (w : MeteredWorld Unit), w.Drained ∧
    w.store.2 (.checksExecuted .down) = 1 ∧ w.store.2 (.incidents .opened) = 1 ∧
    transitionCount w.store.1 .opened = 1 ∧ CountersAgree edgyDb es w := by
  let check := edgyCheck ()
  let p := meteredRunCheck check.env edgyMonitor (check.verdict edgyMonitor) check.clock
  let loaded : MeteredWorld Unit :=
    ⟨(edgyDb, fun _ => 0), Function.update (fun _ => none) () (some p)⟩
  have hstart : SharedStep (MetersLoaded edgyCheck) (MeteredActs Attempts)
      (MeteredWorld.start edgyDb) (.start () p) loaded := .start rfl ⟨edgyMonitor, rfl, rfl, rfl⟩
  have hacts : ∀ o s, MeteredActs Attempts o s (meteredExec (answering .down) o s).1
      (meteredExec (answering .down) o s).2 := by
    rintro (o | m) s
    · exact ⟨.inl (.inl ⟨_, rfl⟩), rfl⟩
    · exact ⟨rfl, rfl, rfl⟩
  let outcome := p.run (meteredExec (answering .down)) loaded.store
  let ended : MeteredWorld Unit :=
    ⟨outcome.2, Function.update loaded.todo () (some (.done outcome.1))⟩
  obtain ⟨es, hrun⟩ :
      ∃ es, Run (SharedStep (MetersLoaded edgyCheck) (MeteredActs Attempts)) loaded es ended :=
    exists_run_alone hacts p loaded rfl
  refine ⟨_, ended, fun i q hi => ?_, ?_, ?_, ?_, countersAgree_of_run (hrun.cons hstart).beside⟩
  · exact ⟨outcome.1, (Option.some.inj hi).symm⟩
  · decide +kernel
  · decide +kernel
  · decide +kernel

end WatchTower

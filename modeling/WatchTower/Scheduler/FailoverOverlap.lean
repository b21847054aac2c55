import WatchTower.Scheduler.IncidentCalls
import WatchTower.Scheduler.RunCheck

set_option relaxedAutoImplicit false
set_option autoImplicit false

/-!
# Overlapping checks of one monitor

During a failover several instances may check the same monitor at once, each from the document it
has read. A check writes the confirmed status first and the incident later, in separate calls to
the database. The comment of the schema says that status and incidents can never disagree: they do
when one check opens, another one closes, and their incident writes come in the opposite order of
their status writes.

## Main definitions

* `WatchTower.Checker`, `WatchTower.OverlapStep` — the checks of one monitor, their calls to the
  database in any order.
* `WatchTower.Agrees` — the status is DOWN exactly when an incident is ongoing.
* `WatchTower.Overtaken` — the last check to write the status, and the last to write the incident,
  make opposite transitions.

## Main results

* `WatchTower.runCheck_spec` — a check writes the incident that it has written the status for.
* `WatchTower.Tracked.call` — the writes say what status and incidents there are.
* `WatchTower.agrees_iff` — when status and incidents agree at the end.
-/

namespace WatchTower

open Documents Transition Transition.Prog

variable {ι : Type} [DecidableEq ι]

/-- One instance that checks the monitor. -/
structure Checker where
  /-- Its configuration. -/
  env : CheckEnv
  /-- The verdict of its tick on the document that it reads. -/
  verdict : Monitor → BreakerVerdict
  /-- Its clock. -/
  clock : CheckClock

/-- The checks and the database that they share. -/
abbrev OverlapWorld (ι : Type) := Shared ι Db Op.Resp JsError (CheckResult × Option IncidentEvent)

/-- What happens. -/
abbrev OverlapEvent (ι : Type) := SharedEvent ι Op.Resp JsError (CheckResult × Option IncidentEvent)

/-- An instance reads the monitor and starts its check, or performs the next call. -/
abbrev OverlapStep (id : ℕ) (checkers : ι → Checker) :
    OverlapWorld ι → OverlapEvent ι → OverlapWorld ι → Prop :=
  SharedStep (fun i db p => ∃ m, db.monitors id = some m ∧ m.id = id ∧
    p = runCheck (checkers i).env m ((checkers i).verdict m) (checkers i).clock) Performs

/-- The status of the monitor is DOWN exactly when it has an ongoing incident. -/
def Agrees (id : ℕ) (db : Db) : Prop :=
  ∃ m, db.monitors id = some m ∧ (confirmedOf m = .down ↔ 0 < ongoingCount db id)

/-- Every check that has started has ended. -/
def AllEnded (w : OverlapWorld ι) : Prop := ∀ i p, w.todo i = some p → ∃ out, p = .done out

/-! ## What is noted of a call -/

/-- The confirmed status that a call writes. -/
def noteStatus (id : ℕ) : Answered Op.Resp JsError → Option Status
  | ⟨.updateMonitor monitorId update, .ok _⟩ => if monitorId = id then update.status else none
  | _ => none

/-- The status that an incident write goes with: an upsert with DOWN, a resolution with UP. -/
def noteIncident (id : ℕ) : Answered Op.Resp JsError → Option Status
  | ⟨.upsertIncident monitorId _, _⟩ => if monitorId = id then some .down else none
  | ⟨.resolveIncident monitorId _, _⟩ => if monitorId = id then some .up else none
  | _ => none

/-- **Overtaking.** The last check to write the status, and the last one to write the incident,
make opposite transitions: with two checks, one that wrote the status first and the incident last,
around the other. -/
def Overtaken (id : ℕ) (es : List (OverlapEvent ι)) : Prop :=
  ∃ i j status status', status ≠ status' ∧
    (notesOf (noteStatus id) es).getLast? = some (j, status') ∧
    (notesOf (noteIncident id) es).getLast? = some (i, status)

/-! ## The writes of one check -/

/-- What a call answers without faults. -/
def AnswersFaultless (o : Op) (r : Except JsError o.Resp) : Prop := ∃ db db', Performs o db r db'

variable {id : ℕ} {h : List (Answered Op.Resp JsError)}

/-- A check has written the incident that goes with the status it has written. -/
def WritesMatch (id : ℕ) (h : List (Answered Op.Resp JsError)) : Prop :=
  h.filterMap (noteStatus id) = h.filterMap (noteIncident id)

/-- The calls that follow a transition are not noted. -/
lemma notes_of_followsTransition {a : Answered Op.Resp JsError} (ha : a.1.FollowsTransition) :
    noteStatus id a = none ∧ noteIncident id a = none := by
  obtain ⟨o, r⟩ := a
  cases o <;> first | exact ha.elim | exact ⟨rfl, rfl⟩

/-- Calls that follow a transition leave the notes alone. -/
lemma WritesMatch.append {added : List (Answered Op.Resp JsError)} (hmatch : WritesMatch id h)
    (hadded : ∀ a ∈ added, a.1.FollowsTransition) : WritesMatch id (h ++ added) := by
  have hstatus : added.filterMap (noteStatus id) = [] :=
    List.filterMap_eq_nil_iff.2 fun a ha => (notes_of_followsTransition (hadded a ha)).1
  have hincident : added.filterMap (noteIncident id) = [] :=
    List.filterMap_eq_nil_iff.2 fun a ha => (notes_of_followsTransition (hadded a ha)).2
  rw [WritesMatch, List.filterMap_append, List.filterMap_append, hstatus, hincident,
    List.append_nil, List.append_nil]
  exact hmatch

/-- **A check** writes the status and then the incident that goes with it, or neither. -/
theorem runCheck_spec (env : CheckEnv) (m : Monitor) (verdict : BreakerVerdict)
    (clock : CheckClock) (hid : m.id = id) :
    (runCheck env m verdict clock).Spec AnswersFaultless (fun _ _ => True)
      (fun h _ => WritesMatch id h) [] := by
  subst hid
  rw [runCheck_eq]
  refine Spec.bind (spec_await.2 ⟨trivial, fun r hr => ?_⟩)
  obtain ⟨db, db', hperforms⟩ := hr
  obtain ⟨ext, hexec⟩ := exec_of_performs hperforms (by simp) (by simp)
  obtain rfl : r = .ok (ext.checkMonitor m.url (checkOptions env m verdict.mode)) :=
    (Prod.mk.inj hexec).1.symm
  generalize ext.checkMonitor m.url (checkOptions env m verdict.mode) = result
  let update := checkUpdate env.config m verdict result clock.now
  refine Spec.bind (spec_await.2 ⟨trivial, fun r hr => ?_⟩)
  rcases r with err | ⟨⟩
  · rfl
  refine Spec.bind (spec_await.2 ⟨trivial, fun r hr => ?_⟩)
  obtain ⟨db, db', hperforms⟩ := hr
  obtain ⟨ext, hexec⟩ := exec_of_performs hperforms (by simp) (by simp)
  obtain rfl : r = .ok () := (Prod.mk.inj hexec).1.symm
  refine Spec.bind ?_
  -- The history so far: one update, of the status that the incident is still to follow.
  generalize hh : ([] ++ [_] ++ [_] ++ [_] : List (Answered Op.Resp JsError)) = h
  have hstatus : h.filterMap (noteStatus m.id) = update.status.toList := by
    cases hs : update.status <;> simp [← hh, List.filterMap_cons, noteStatus, update, hs]
  have hincident : h.filterMap (noteIncident m.id) = [] := by
    simp [← hh, List.filterMap_cons, noteIncident]
  rcases transitionIncident_writes m update result clock.incidentAt with
    ⟨ho, hc, htransition⟩ | ⟨ho, ins, k, htransition, hk⟩ | ⟨hc, k, htransition, hk⟩
  · rw [htransition]
    have hnone : update.status = none := by simp [update, checkUpdate, ho, hc]
    change WritesMatch m.id h
    rw [WritesMatch, hstatus, hincident, hnone]
    rfl
  · rw [htransition]
    have hdown : update.status = some .down := by
      simp [update, checkUpdate, ho, shouldClose_eq_false_of_shouldOpen ho]
    refine ⟨trivial, fun r hr => ((hk r).spec fun _ _ _ => trivial).mono fun h' out hadded => ?_⟩
    obtain ⟨added, rfl, hfollows⟩ := hadded
    have hmatch : WritesMatch m.id (h ++ [⟨Op.upsertIncident m.id ins, r⟩]) := by
      rw [WritesMatch, List.filterMap_append, List.filterMap_append, hstatus, hincident, hdown]
      simp [List.filterMap_cons, noteStatus, noteIncident]
    cases out <;> exact hmatch.append hfollows
  · rw [htransition]
    have hup : update.status = some .up := by simp [update, checkUpdate, hc]
    refine ⟨trivial, fun r hr => ((hk r).spec fun _ _ _ => trivial).mono fun h' out hadded => ?_⟩
    obtain ⟨added, rfl, hfollows⟩ := hadded
    have hmatch : WritesMatch m.id (h ++ [⟨Op.resolveIncident m.id clock.incidentAt, r⟩]) := by
      rw [WritesMatch, List.filterMap_append, List.filterMap_append, hstatus, hincident, hup]
      simp [List.filterMap_cons, noteStatus, noteIncident]
    cases out <;> exact hmatch.append hfollows

/-! ## What the writes say -/

/-- The status that the last of several notes says, and before the first one the initial one. -/
def lastStatus (initial : Status) (notes : List (ι × Status)) : Status :=
  (notes.getLast?.map (·.2)).getD initial

omit [DecidableEq ι] in
/-- One more note is the last. -/
lemma lastStatus_append (initial : Status) (notes : List (ι × Status)) (i : ι)
    (note : Option Status) : lastStatus initial (notes ++ (note.map (i, ·)).toList) =
      note.getD (lastStatus initial notes) := by
  cases note <;> simp [lastStatus]

/-- A call writes the status that is noted. -/
lemma confirmedOf_of_performs {o : Op} {db db' : Db} {r : Except JsError o.Resp} {m : Monitor}
    (hperforms : Performs o db r db') (hm : db.monitors id = some m) :
    ∃ m', db'.monitors id = some m' ∧
      confirmedOf m' = (noteStatus id ⟨o, r⟩).getD (confirmedOf m) := by
  rcases hperforms with ⟨ext, h⟩ | ⟨rfl, rfl, monitorId, ins, rfl, -⟩ | ⟨rfl, reason, rfl⟩
  · cases o with
    | updateMonitor monitorId update =>
      simp only [exec] at h
      split_ifs at h
      · obtain ⟨rfl, rfl⟩ := Prod.mk.inj h
        by_cases hid : monitorId = id
        · subst hid
          refine ⟨m.set update, by simp [hm], ?_⟩
          cases hs : update.status <;> simp [noteStatus, confirmedOf, hs]
        · exact ⟨m, by simp [Function.update_of_ne (Ne.symm hid), hm], by simp [noteStatus, hid]⟩
      · obtain ⟨rfl, rfl⟩ := Prod.mk.inj h
        exact ⟨m, hm, rfl⟩
    | upsertIncident monitorId ins =>
      simp only [exec] at h
      split at h
      · obtain ⟨rfl, rfl⟩ := Prod.mk.inj h
        exact ⟨m, hm, rfl⟩
      · obtain ⟨rfl, rfl⟩ := Prod.mk.inj h
        exact ⟨m, hm, rfl⟩
    | _ =>
      obtain ⟨rfl, rfl⟩ := Prod.mk.inj h
      exact ⟨m, hm, rfl⟩
  · exact ⟨m, hm, rfl⟩
  · exact ⟨m, hm, rfl⟩

/-- A call makes there be an ongoing incident, or none, as is noted. -/
lemma ongoingCount_of_performs {o : Op} {db db' : Db} {r : Except JsError o.Resp}
    (hperforms : Performs o db r db') (hone : ongoingCount db id ≤ 1) :
    ongoingCount db' id ≤ 1 ∧ (0 < ongoingCount db' id ↔
      (noteIncident id ⟨o, r⟩).getD (if 0 < ongoingCount db id then .down else .up) = .down) := by
  have hkept : noteIncident id ⟨o, r⟩ = none → ongoingCount db' id = ongoingCount db id →
      ongoingCount db' id ≤ 1 ∧ (0 < ongoingCount db' id ↔ (noteIncident id ⟨o, r⟩).getD
        (if 0 < ongoingCount db id then .down else .up) = .down) := by
    intro hnote hcount
    rw [hnote, hcount, Option.getD_none]
    refine ⟨hone, ?_⟩
    split_ifs with hpos
    · simp [hpos]
    · simp [hpos]
  rcases hperforms with ⟨ext, h⟩ | ⟨rfl, rfl, monitorId, ins, rfl, hpos⟩ | ⟨rfl, reason, rfl⟩
  · cases o with
    | upsertIncident monitorId ins =>
      simp only [exec] at h
      split at h
      · rename_i i hfind
        obtain ⟨rfl, rfl⟩ := Prod.mk.inj h
        by_cases hid : monitorId = id
        · subst hid
          have hpos : 0 < ongoingCount db monitorId :=
            find_isSome_iff_countP_pos.1 (by rw [hfind]; rfl)
          exact ⟨hone, by simp [noteIncident, hpos]⟩
        · exact hkept (by simp [noteIncident, hid]) rfl
      · rename_i hnone
        obtain ⟨rfl, rfl⟩ := Prod.mk.inj h
        by_cases hid : monitorId = id
        · subst hid
          have hzero : ongoingCount db monitorId = 0 := find_eq_none_iff_countP.1 hnone
          unfold ongoingCount at hzero
          simp [ongoingCount, noteIncident, hzero]
        · exact hkept (by simp [noteIncident, hid]) (by simp [ongoingCount, hid])
    | resolveIncident monitorId endTime =>
      simp only [exec] at h
      obtain ⟨rfl, rfl⟩ := Prod.mk.inj h
      by_cases hid : monitorId = id
      · subst hid
        have hcount : (updateFirst (isOngoing monitorId) (·.resolve endTime)
            db.incidents).countP (isOngoing monitorId) =
              db.incidents.countP (isOngoing monitorId) - 1 := ongoingCount_resolve _ endTime
        unfold ongoingCount at hone ⊢
        simp only [hcount, noteIncident, if_true, Option.getD_some, reduceCtorEq, iff_false]
        omega
      · exact hkept (by simp [noteIncident, hid])
          (ongoingCount_resolve_of_ne (Ne.symm hid) db.incidents endTime)
    | saveIncident incidentId changes =>
      obtain ⟨rfl, rfl⟩ := Prod.mk.inj h
      exact hkept rfl (ongoingCount_saveIncident _ _ _)
    | updateMonitor monitorId update =>
      simp only [exec] at h
      split_ifs at h
      · obtain ⟨rfl, rfl⟩ := Prod.mk.inj h
        exact hkept rfl rfl
      · obtain ⟨rfl, rfl⟩ := Prod.mk.inj h
        exact hkept rfl rfl
    | _ =>
      obtain ⟨rfl, rfl⟩ := Prod.mk.inj h
      exact hkept rfl rfl
  · by_cases hid : monitorId = id
    · subst hid
      exact ⟨hone, by simp [noteIncident, hpos]⟩
    · exact hkept (by simp [noteIncident, hid]) rfl
  · exact hkept rfl rfl

/-- The status is the one last written, and there is an ongoing incident exactly when the last
incident write goes with DOWN; before the first write it is as at the start. -/
structure Tracked (id : ℕ) (initial : Status) (es : List (OverlapEvent ι)) (db : Db) : Prop where
  status : ∃ m, db.monitors id = some m ∧
    confirmedOf m = lastStatus initial (notesOf (noteStatus id) es)
  oneOngoing : ongoingCount db id ≤ 1
  ongoing : 0 < ongoingCount db id ↔
    lastStatus initial (notesOf (noteIncident id) es) = .down

omit [DecidableEq ι] in
/-- **Every call keeps track.** -/
theorem Tracked.call {initial : Status} {es : List (OverlapEvent ι)} {db db' : Db} {i : ι} {o : Op}
    {r : Except JsError o.Resp} (h : Tracked id initial es db) (hperforms : Performs o db r db') :
    Tracked id initial (es ++ [.call i o r]) db' := by
  obtain ⟨m, hm, hstatus⟩ := h.status
  obtain ⟨m', hm', hstatus'⟩ := confirmedOf_of_performs hperforms hm
  obtain ⟨hone, hongoing⟩ := ongoingCount_of_performs hperforms h.oneOngoing
  refine ⟨⟨m', hm', ?_⟩, hone, ?_⟩
  · rw [notesOf_call, lastStatus_append, hstatus', hstatus]
  · have hlast : (if 0 < ongoingCount db id then Status.down else .up) =
        lastStatus initial (notesOf (noteIncident id) es) := by
      have := h.ongoing
      split_ifs with hpos
      · exact (this.1 hpos).symm
      · cases hs : lastStatus initial (notesOf (noteIncident id) es) with
        | up => rfl
        | down => exact absurd (this.2 hs) hpos
    rw [notesOf_call, lastStatus_append, ← hlast]
    exact hongoing

/-! ## Agreement at the end -/

variable {checkers : ι → Checker} {db : Db} {es : List (OverlapEvent ι)} {w : OverlapWorld ι}

/-- A consistent start: status and incidents agree, with at most one ongoing incident. -/
structure ConsistentStart (id : ℕ) (db : Db) : Prop where
  agrees : Agrees id db
  oneOngoing : ongoingCount db id ≤ 1

/-- Every run keeps track, from the status at the start. -/
lemma tracked_of_run (hdb : ConsistentStart id db)
    (hrun : Run (OverlapStep id checkers) (.idle db) es w) :
    ∃ initial, Tracked id initial es w.store := by
  obtain ⟨m, hm, hagrees⟩ := hdb.agrees
  refine ⟨confirmedOf m, hrun.induction_from
    (P := fun es w => Tracked id (confirmedOf m) es w.store) ?_ ?_⟩
  · exact ⟨⟨m, hm, rfl⟩, hdb.oneOngoing, hagrees.symm⟩
  · intro es a e b _ ih hstep
    cases hstep with
    | start _ _ =>
      obtain ⟨hstatus, hone, hongoing⟩ := ih
      refine ⟨?_, hone, ?_⟩
      · simpa only [notesOf_start] using hstatus
      · simpa only [notesOf_start] using hongoing
    | call _ hperforms => exact ih.call hperforms

/-- When every check has ended, every status written has its incident written, by the same
check. -/
lemma mem_notes_iff_of_allEnded (hrun : Run (OverlapStep id checkers) (.idle db) es w)
    (hended : AllEnded w) (i : ι) (status : Status) :
    (i, status) ∈ notesOf (noteStatus id) es ↔ (i, status) ∈ notesOf (noteIncident id) es := by
  have hstarts : ∀ (i : ι) (db : Db) p, (∃ m, db.monitors id = some m ∧ m.id = id ∧
      p = runCheck (checkers i).env m ((checkers i).verdict m) (checkers i).clock) →
      p.Spec AnswersFaultless (fun _ _ => True) (fun h _ => WritesMatch id h) [] := by
    rintro i db p ⟨m, -, hid, rfl⟩
    exact runCheck_spec _ m _ _ hid
  have hanswers : ∀ o db r db', Performs o db r db' → AnswersFaultless o r :=
    fun o db r db' h => ⟨db, db', h⟩
  rw [mem_notesOf, mem_notesOf]
  have hmatch : WritesMatch id (callsOf i es) := by
    cases htodo : w.todo i with
    | none =>
      have hspec := hrun.spec hstarts hanswers i
      rw [htodo] at hspec
      rw [show callsOf i es = [] from hspec]
      rfl
    | some p =>
      obtain ⟨out, rfl⟩ := hended i p htodo
      exact hrun.ends hstarts hanswers htodo
  rw [hmatch]

/-- **Status and incidents agree** when the overlapping checks have ended, exactly when no check
has overtaken another one that makes the opposite transition.

**Proof sketch.** The status is the one last written and the incident the one last written. Every
check that has written one has written the other, so there is a last write of both or of none. -/
theorem agrees_iff (hdb : ConsistentStart id db)
    (hrun : Run (OverlapStep id checkers) (.idle db) es w) (hended : AllEnded w) :
    Agrees id w.store ↔ ¬Overtaken id es := by
  obtain ⟨initial, ⟨m, hm, hstatus⟩, -, hongoing⟩ := tracked_of_run hdb hrun
  have hagrees : Agrees id w.store ↔ lastStatus initial (notesOf (noteStatus id) es) =
      lastStatus initial (notesOf (noteIncident id) es) := by
    have hiff : Agrees id w.store ↔ (confirmedOf m = .down ↔ 0 < ongoingCount w.store id) := by
      simp [Agrees, hm]
    rw [hiff, hongoing, hstatus]
    generalize lastStatus initial (notesOf (noteStatus id) es) = s
    generalize lastStatus initial (notesOf (noteIncident id) es) = s'
    cases s <;> cases s' <;> simp
  have hmem := mem_notes_iff_of_allEnded hrun hended
  rw [hagrees]
  cases hlast : (notesOf (noteStatus id) es).getLast? with
  | none =>
    have hnil : notesOf (noteStatus id) es = [] := List.getLast?_eq_none_iff.1 hlast
    have hnil' : notesOf (noteIncident id) es = [] := by
      refine List.eq_nil_iff_forall_not_mem.2 fun note hnote => ?_
      have := (hmem note.1 note.2).2 hnote
      rw [hnil] at this
      cases this
    simp [lastStatus, hnil, hnil', Overtaken]
  | some note =>
    obtain ⟨j, status'⟩ := note
    have hne : notesOf (noteIncident id) es ≠ [] :=
      List.ne_nil_of_mem ((hmem j status').1 (List.mem_of_getLast? hlast))
    obtain ⟨⟨i, status⟩, hlast'⟩ : ∃ note, (notesOf (noteIncident id) es).getLast? = some note :=
      ⟨_, List.getLast?_eq_some_getLast hne⟩
    simp only [lastStatus, Overtaken, hlast, hlast', Option.map_some, Option.getD_some,
      Option.some.injEq, Prod.mk.injEq]
    constructor
    · rintro rfl ⟨_, _, _, _, hdiff, ⟨-, rfl⟩, -, rfl⟩
      exact hdiff rfl
    · intro h
      by_contra hdiff
      exact h ⟨i, j, status, status', Ne.symm hdiff, ⟨rfl, rfl⟩, rfl, rfl⟩

/-! ## A check that is overtaken -/

/-- A monitor whose thresholds are one. -/
def edgyMonitor : Monitor :=
  { Monitor.fresh 1 (some 7) "http://a.test/" 0 with
    failureThreshold := some 1, successThreshold := some 1 }

/-- It is up, and has no incident. -/
def edgyDb : Db where
  monitors := Function.update (fun _ => none) 1 (some edgyMonitor)
  incidents := []
  logs := []
  users := fun _ => true
  dispatches := []

/-- Two instances, one of which checks a minute after the other. -/
def edgyCheckers (second : Bool) : Checker where
  env := ⟨schedulerConfig, fun _ => []⟩
  verdict m := evaluateBreaker m (if second then 60000 else 0)
  clock := if second then ⟨60000, 60000⟩ else ⟨0, 0⟩

/-- The first check finds the target down. It has recorded that when the second one reads the
monitor, finds the target up and closes what is not open yet; then the first one opens. -/
lemma exists_overtaken_run : ∃ es w, Run (OverlapStep 1 edgyCheckers) (.idle edgyDb) es w ∧
    AllEnded w ∧ ¬Agrees 1 w.store := by
  let first := edgyCheckers false
  let second := edgyCheckers true
  let options := checkOptions first.env edgyMonitor (first.verdict edgyMonitor).mode
  let result := (answering .down).checkMonitor edgyMonitor.url options
  let update := checkUpdate first.env.config edgyMonitor (first.verdict edgyMonitor) result 0
  let updated := edgyMonitor.set update
  let db₁ : Db := { edgyDb with monitors := Function.update edgyDb.monitors 1 (some updated) }
  let db₂ : Db := { db₁ with logs := [logRow edgyMonitor result 0] }
  let rest : Async (CheckResult × Option IncidentEvent) :=
    (transitionIncident edgyMonitor update result 0).bind fun a => ret (result, a)
  let p := runCheck second.env updated (second.verdict updated) second.clock
  let db₃ := (p.run (exec (answering .up)) db₂).2
  have hprobe : Performs (.checkMonitor edgyMonitor.url options) edgyDb (.ok result) edgyDb :=
    .inl ⟨answering .down, rfl⟩
  have hupdate : Performs (.updateMonitor 1 update) edgyDb (.ok ()) db₁ := by
    have hcasts : update.casts = true := by decide +kernel
    refine .inl ⟨answering .down, ?_⟩
    simp only [exec, hcasts, if_true]
    rfl
  have hlog : Performs (.createLog (logRow edgyMonitor result 0)) db₁ (.ok ()) db₂ :=
    .inl ⟨answering .down, rfl⟩
  have hread : ∃ m, db₂.monitors 1 = some m ∧ m.id = 1 ∧
      p = runCheck second.env m (second.verdict m) second.clock := ⟨updated, rfl, rfl, rfl⟩
  have hfirst : ∃ es w, Run (OverlapStep 1 edgyCheckers) (.idle edgyDb) es w ∧ w.store = db₂ ∧
      w.todo = Function.update (fun _ => none) false (some rest) := by
    refine ⟨_, _, .cons (.start (i := false) rfl ⟨edgyMonitor, rfl, rfl, rfl⟩)
      (.cons (.call (i := false) rfl hprobe) (.cons (.call (i := false) rfl hupdate)
        (.cons (.call (i := false) rfl hlog) (.nil _)))), rfl, ?_⟩
    simp only [Function.update_idem]
    rfl
  obtain ⟨es, w, hrun, hstore, htodo⟩ := hfirst
  have hperforms : ∀ ext o db, Performs o db (exec ext o db).1 (exec ext o db).2 :=
    fun ext o db => .inl ⟨ext, rfl⟩
  let w₁ : OverlapWorld Bool := ⟨db₂, Function.update w.todo true (some p)⟩
  have hstart : OverlapStep 1 edgyCheckers w (.start true p) w₁ := by
    rw [← hstore] at hread
    have hstep : OverlapStep 1 edgyCheckers w (.start true p) _ :=
      SharedStep.start (by rw [htodo]; rfl) hread
    rwa [hstore] at hstep
  obtain ⟨es₁, hrun₁⟩ := exists_run_alone (hperforms (answering .up)) p w₁ (i := true)
    (by simp [w₁])
  obtain ⟨es₂, hrun₂⟩ := exists_run_alone (hperforms (answering .down)) rest
    ⟨db₃, Function.update w₁.todo true (some (.done (p.run (exec (answering .up)) db₂).1))⟩
    (i := false) (by simp [w₁, htodo])
  refine ⟨_, _, hrun.append (.cons hstart (hrun₁.append hrun₂)), ?_, ?_⟩
  · rintro (_ | _) q hq
    · exact ⟨_, (Option.some.inj (by simpa using hq)).symm⟩
    · exact ⟨_, (Option.some.inj (by simpa using hq)).symm⟩
  · rintro ⟨m, hm, hagrees⟩
    have hstatus : ((rest.run (exec (answering .down)) db₃).2.monitors 1).map confirmedOf =
        some .up := by decide +kernel
    have hcount : ongoingCount (rest.run (exec (answering .down)) db₃).2 1 = 1 := by
      decide +kernel
    have hup : confirmedOf m = .up := by
      simpa only [show (rest.run (exec (answering .down)) db₃).2.monitors 1 = some m from hm,
        Option.map_some, Option.some.injEq] using hstatus
    have hdown : confirmedOf m = .down := hagrees.2 (Nat.lt_of_lt_of_eq Nat.one_pos hcount.symm)
    rw [hup] at hdown
    cases hdown

/-- Status and incidents agree at the start. -/
lemma consistentStart_edgyDb : ConsistentStart 1 edgyDb :=
  ⟨⟨edgyMonitor, rfl, by decide⟩, by decide⟩

/-- In that run the first check is overtaken. -/
theorem agrees_iff_overtaken : ∃ es w, Run (OverlapStep 1 edgyCheckers) (.idle edgyDb) es w ∧
    AllEnded w ∧ Overtaken 1 es := by
  obtain ⟨es, w, hrun, hended, hdisagree⟩ := exists_overtaken_run
  exact ⟨es, w, hrun, hended,
    not_not.1 fun hnot => hdisagree ((agrees_iff consistentStart_edgyDb hrun hended).2 hnot)⟩

/-- **Status and incidents may disagree** after two overlapping checks: UP, with an ongoing
incident. -/
theorem status_disagrees_after_overlap : ConsistentStart 1 edgyDb ∧
    ¬∀ es w, Run (OverlapStep 1 edgyCheckers) (.idle edgyDb) es w → AllEnded w →
      Agrees 1 w.store := by
  refine ⟨consistentStart_edgyDb, fun h => ?_⟩
  obtain ⟨es, w, hrun, hended, hdisagree⟩ := exists_overtaken_run
  exact hdisagree (h es w hrun hended)

end WatchTower

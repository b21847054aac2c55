import WatchTower.Scheduler.FailoverOverlap
import WatchTower.Transition.Beside

set_option relaxedAutoImplicit false
set_option autoImplicit false

/-!
# Deleted monitors

`deleteMonitorController` deletes the document of a monitor and nothing else. Its log rows and its
incidents stay, and a check that has loaded the document goes on: its `$set` finds nothing, but it
still writes a log row, opens or closes an incident and notifies the owner.

The checks, by any number of instances and overlapping or not, are interleaved call by call with
the requests of the owners, each of which is one write. Any call of a check may also fail.

## Main definitions

* `WatchTower.OwnerRequest` — `createMonitorController`, `updateMonitorController` and
  `deleteMonitorController`, by what they write.
* `WatchTower.DeletionStep` — the checks beside the owners.
* `WatchTower.lateWrites` — what checks write about a monitor.
* `WatchTower.Retired` — the law.

## Main results

* `WatchTower.runCheck_returns` — a check writes about its monitor only: at most its fields, a log
  row, an incident and a notice, each once and in this order.
* `WatchTower.retired_of_run` — after a monitor has been deleted it stays so, and only the checks
  that were in flight then write anything about it, at most one thing of each kind.
-/

namespace WatchTower

open Documents Transition Transition.Prog

/-! ## The owners -/

/-- A request of an owner that writes. -/
inductive OwnerRequest
  /-- `createMonitorController`, with the `_id` of the new document. -/
  | create (id : ℕ) (userId : Option ℕ) (url : String) (createdAt : Time)
  /-- `updateMonitorController`. -/
  | update (userId id : ℕ) (e : OwnerEdit)
  /-- `deleteMonitorController`. -/
  | delete (userId id : ℕ)

/-- What it writes: `updateById` and `deleteById` find the document of its owner only. -/
def OwnerRequest.write : OwnerRequest → Db → Db
  | .create id userId url createdAt, db =>
    { db with
      monitors := Function.update db.monitors id (some (.fresh id userId url createdAt)) }
  | .update userId id e, db =>
    { db with
      monitors := Function.update db.monitors id
        ((db.monitors id).map fun m => if m.userId = some userId then m.edit e else m) }
  | .delete userId id, db =>
    { db with
      monitors := Function.update db.monitors id
        ((db.monitors id).filter fun m => m.userId ≠ some userId) }

/-- The write of a request. A new document has an `_id` of its own. -/
def OwnerRequest.Performs (a : OwnerRequest) (db db' : Db) : Prop :=
  db' = a.write db ∧
    ∀ id userId url createdAt, a = .create id userId url createdAt → db.monitors id = none

/-! ## The checks beside the owners -/

/-- A check of a monitor by some instance. -/
structure PlannedCheck extends Checker where
  /-- The monitor. -/
  monitorId : ℕ

/-- A call of a check does what it should, or fails. -/
def Attempts (o : Op) (db : Db) (r : Except JsError o.Resp) (db' : Db) : Prop :=
  Performs o db r db' ∨ (∃ err, r = .error err) ∧ db' = db

variable {ι : Type} [DecidableEq ι]

/-- A check starts from the document that the tick has loaded. -/
def ChecksLoaded (checks : ι → PlannedCheck) (i : ι) (db : Db)
    (p : Async (CheckResult × Option IncidentEvent)) : Prop :=
  ∃ m, db.monitors (checks i).monitorId = some m ∧ m.id = (checks i).monitorId ∧
    p = runCheck (checks i).env m ((checks i).verdict m) (checks i).clock

/-- What happens. -/
abbrev DeletionEvent (ι : Type) :=
  BesideEvent ι Op.Resp JsError (CheckResult × Option IncidentEvent) OwnerRequest

/-- A check starts or performs its next call, or an owner's request writes. -/
abbrev DeletionStep (checks : ι → PlannedCheck) :
    OverlapWorld ι → DeletionEvent ι → OverlapWorld ι → Prop :=
  BesideStep (ChecksLoaded checks) Attempts OwnerRequest.Performs

/-- The check has loaded the monitor and has not ended. -/
def InFlight (checks : ι → PlannedCheck) (id : ℕ) (w : OverlapWorld ι) (i : ι) : Prop :=
  (checks i).monitorId = id ∧ ∃ o k, w.todo i = some (.call o k)

/-! ## What is kept about a monitor -/

/-- The kinds of writes about a monitor. -/
inductive WriteKind
  /-- Its fields. -/
  | fields
  /-- A log row. -/
  | log
  /-- The opening or the resolution of an incident. -/
  | incident
  /-- A notice to its owner. -/
  | notice
  deriving DecidableEq

/-- The order in which a check makes them. -/
def WriteKind.rank : WriteKind → ℕ
  | .fields => 0
  | .log => 1
  | .incident => 2
  | .notice => 3

/-- The monitor that a call writes about, and what. A save of an incident writes only what is
derived from it. -/
def Op.writes : Op → Option (ℕ × WriteKind)
  | .updateMonitor id _ => some (id, .fields)
  | .createLog row => some (row.monitorId, .log)
  | .upsertIncident id _ => some (id, .incident)
  | .resolveIncident id _ => some (id, .incident)
  | .dispatch payload => some (payload.monitorId, .notice)
  | _ => none

/-- The write about a monitor that a call attempts. -/
def noteWrite (id : ℕ) (a : Answered Op.Resp JsError) : Option WriteKind :=
  a.1.writes.bind fun (k, kind) => if k = id then some kind else none

/-- The writes about a monitor that checks attempt in a run. -/
def lateWrites (id : ℕ) (es : List (DeletionEvent ι)) : List (ι × WriteKind) :=
  notesOf (noteWrite id) (ofPrograms es)

/-- The log rows of a monitor. -/
def logsOf (db : Db) (id : ℕ) : List LogRow := db.logs.filter fun row => row.monitorId = id

/-- The notices about a monitor. -/
def noticesOf (db : Db) (id : ℕ) : List Notification :=
  db.dispatches.filter fun payload => payload.monitorId = id

/-- An incident without what is derived from it. -/
def Incident.core (i : Incident) : Incident := { i with aiSummary := none, duration := 0 }

/-- The incidents of a monitor. -/
def incidentsOf (db : Db) (id : ℕ) : List Incident :=
  (db.incidents.filter fun i => i.monitorId = id).map Incident.core

/-- What is kept about a monitor has changed by attempts of these kinds at most. -/
structure Grown (id : ℕ) (kinds : List WriteKind) (db db' : Db) : Prop where
  /-- Log rows have been added. -/
  logs : ∃ rows, logsOf db' id = logsOf db id ++ rows ∧ rows.length ≤ kinds.count .log
  /-- Notices have been sent. -/
  notices : ∃ sent, noticesOf db' id = noticesOf db id ++ sent ∧ sent.length ≤ kinds.count .notice
  /-- Incidents have been opened or resolved. -/
  incidents : .incident ∉ kinds → incidentsOf db' id = incidentsOf db id

/-- **A retired monitor.** It stays deleted. What is still written about it is written by the checks
that were in flight, at most one thing of each kind by each. -/
structure Retired (checks : ι → PlannedCheck) (id : ℕ) (w : OverlapWorld ι)
    (es : List (DeletionEvent ι)) (w' : OverlapWorld ι) : Prop where
  /-- It stays deleted. -/
  gone : w'.store.monitors id = none
  /-- Only checks in flight write. -/
  inFlight : ∀ i kind, (i, kind) ∈ lateWrites id es → InFlight checks id w i
  /-- None writes anything twice. -/
  once : (lateWrites id es).Nodup
  /-- Nothing else changes. -/
  grown : Grown id ((lateWrites id es).map (·.2)) w.store w'.store

/-! ## The writes of one check -/

variable {id : ℕ} {h : List (Answered Op.Resp JsError)} {n : ℕ}

/-- The writes about a monitor so far are of lower ranks. -/
def Below (id n : ℕ) (h : List (Answered Op.Resp JsError)) : Prop :=
  ∀ kind ∈ h.filterMap (noteWrite id), kind.rank < n

/-- A call is in turn after a history: a write is about the monitor, and the next one in order. -/
def InTurn (id : ℕ) (h : List (Answered Op.Resp JsError)) (o : Op) : Prop :=
  ∀ k kind, o.writes = some (k, kind) → k = id ∧ Below id kind.rank h

/-- Calls that write nothing. -/
def Op.Quiet (o : Op) : Prop := o.writes = none

lemma Below.mono {n' : ℕ} (hb : Below id n h) (hn : n ≤ n') : Below id n' h :=
  fun kind hkind => (hb kind hkind).trans_le hn

lemma below_nil : Below id n [] := List.forall_mem_nil _

/-- One more call is below the next rank. -/
lemma Below.concat {o : Op} (hb : Below id n h) (r : Except JsError o.Resp)
    (ho : ∀ k kind, o.writes = some (k, kind) → kind.rank < n) : Below id n (h ++ [⟨o, r⟩]) := by
  rw [Below, List.filterMap_append, List.forall_mem_append]
  refine ⟨hb, fun kind hkind => ?_⟩
  obtain ⟨a, ha, hnote⟩ := List.mem_filterMap.1 hkind
  obtain rfl := List.mem_singleton.1 ha
  obtain ⟨⟨k, kind'⟩, hwrites, hk⟩ := Option.bind_eq_some_iff.1 hnote
  dsimp only at hk
  split_ifs at hk with hid
  obtain rfl := Option.some.inj hk
  exact ho k kind' hwrites

/-- A quiet call is in turn. -/
lemma Op.Quiet.inTurn {o : Op} (ho : o.Quiet) : InTurn id h o := by
  intro k kind hwrites
  rw [ho] at hwrites
  cases hwrites

/-- A quiet program adds no write. -/
lemma returns_of_quiet {α : Type} {p : Async α} (hp : p.AllCalls Op.Quiet) (hb : Below id n h) :
    p.Returns (InTurn id) (fun h' _ => Below id n h') h := by
  refine (hp.spec fun _ _ ho => ho.inTurn).mono fun h' out hadded a _ => ?_
  obtain ⟨added, rfl, hquiet⟩ := hadded
  rw [Below, List.filterMap_append, List.forall_mem_append]
  refine ⟨hb, fun kind hkind => ?_⟩
  obtain ⟨b, hb', hnote⟩ := List.mem_filterMap.1 hkind
  have hnone : b.1.writes = none := hquiet b hb'
  simp [noteWrite, hnone] at hnote

/-- Saving an incident is quiet. -/
lemma save_quiet (loaded i : Incident) : (loaded.save i).AllCalls Op.Quiet :=
  AllCalls.bind (allCalls_await.2 rfl) fun _ => trivial

/-- So is summarising one. -/
lemma summarise_quiet (incident : Incident) (reason : String) :
    (summarise incident reason).AllCalls Op.Quiet := by
  refine AllCalls.catchError (AllCalls.bind (allCalls_await.2 rfl) fun summary => ?_)
    fun _ => trivial
  cases summary with
  | none => trivial
  | some summary =>
    dsimp only
    split_ifs
    · trivial
    · exact AllCalls.catchError (save_quiet _ _) fun _ => trivial

/-- So is loading the owner. -/
lemma loadOwner_quiet (userId : Option ℕ) : (loadOwner userId).AllCalls Op.Quiet := by
  unfold loadOwner
  split
  · trivial
  · exact AllCalls.bind (allCalls_attempt.2 rfl) fun found => by
      rcases found with _ | _ | _ <;> trivial

/-- The notice comes last. -/
lemma notifyOwner_returns {m : Monitor} (hid : m.id = id) (event : IncidentEvent) (i : Incident)
    (t : Time) (hb : Below id 3 h) :
    (notifyOwner m event i t).Returns (InTurn id) (fun _ _ => True) h := by
  refine Returns.bind (returns_of_quiet (loadOwner_quiet _) hb) fun h owner hb => ?_
  cases owner with
  | none => exact Returns.ret trivial
  | some uid =>
    refine Returns.await (fun k kind hwrites => ?_) fun _ => trivial
    obtain ⟨rfl, rfl⟩ := Prod.mk.inj (Option.some.inj hwrites)
    exact ⟨hid, hb⟩

/-- The write that opens or resolves an incident comes before it. -/
lemma below_incident {o : Op} (hb : Below id 2 h) (ho : o.writes = some (id, .incident))
    (r : Except JsError o.Resp) : InTurn id h o ∧ Below id 3 (h ++ [⟨o, r⟩]) := by
  constructor
  · intro k kind hwrites
    obtain ⟨rfl, rfl⟩ := Prod.mk.inj (Option.some.inj (ho.symm.trans hwrites))
    exact ⟨rfl, hb⟩
  · refine (hb.mono (by decide)).concat r fun k kind hwrites => ?_
    obtain ⟨rfl, rfl⟩ := Prod.mk.inj (Option.some.inj (ho.symm.trans hwrites))
    decide

/-- Opening an incident. -/
lemma openIncident_returns {m : Monitor} (hid : m.id = id) (reason : String) (t : Time)
    (hb : Below id 2 h) :
    (openIncident m reason t).Returns (InTurn id) (fun _ _ => True) h := by
  subst hid
  have hupsert := fun r => below_incident
    (o := .upsertIncident m.id ⟨m.userId, t, reason⟩) hb rfl r
  refine Returns.bind (P := fun h _ => Below m.id 3 h)
    (Returns.attempt (hupsert (.error duplicateKey)).1 fun r => (hupsert r).2) fun h r hb => ?_
  rcases r with err | ⟨incident, updatedExisting⟩
  · dsimp only
    split_ifs
    · exact Returns.bind (Returns.await (P := fun _ _ => True) (Op.Quiet.inTurn rfl)
        fun _ => trivial) fun _ _ _ => Returns.ret trivial
    · exact Returns.fail err
  · cases updatedExisting with
    | true => exact Returns.ret trivial
    | false =>
      refine Returns.bind (returns_of_quiet (summarise_quiet _ _) hb) fun h saved hb => ?_
      exact Returns.bind (notifyOwner_returns rfl _ _ _ hb) fun _ _ _ => Returns.ret trivial

/-- Closing one. -/
lemma closeIncident_returns {m : Monitor} (hid : m.id = id) (t : Time) (hb : Below id 2 h) :
    (closeIncident m t).Returns (InTurn id) (fun _ _ => True) h := by
  subst hid
  have hresolve := fun r => below_incident (o := .resolveIncident m.id t) hb rfl r
  refine Returns.bind (P := fun h _ => Below m.id 3 h)
    (Returns.await (hresolve (.error duplicateKey)).1 fun found => (hresolve (.ok found)).2)
    fun h found hb => ?_
  cases found with
  | none => exact Returns.ret trivial
  | some incident =>
    refine Returns.bind (returns_of_quiet (save_quiet _ _) hb) fun h saved hb => ?_
    exact Returns.bind (notifyOwner_returns rfl _ _ _ hb) fun _ _ _ => Returns.ret trivial

/-- The incident transition of a check. -/
lemma transitionIncident_returns {m : Monitor} (hid : m.id = id) (update : MonitorUpdate)
    (result : CheckResult) (t : Time) (hb : Below id 2 h) :
    (transitionIncident m update result t).Returns (InTurn id) (fun _ _ => True) h := by
  refine Returns.catchError ?_ fun _ _ => Returns.ret trivial
  refine Returns.ite (fun _ => ?_) fun _ => Returns.ite (fun _ => ?_) fun _ => Returns.ret trivial
  · exact Returns.bind (openIncident_returns hid _ _ hb) fun _ _ _ => Returns.ret trivial
  · exact Returns.bind (closeIncident_returns hid _ hb) fun _ _ _ => Returns.ret trivial

/-- **A check** writes about its monitor only, each kind of thing at most once, in order. -/
theorem runCheck_returns (env : CheckEnv) {m : Monitor} (hid : m.id = id) (verdict : BreakerVerdict)
    (clock : CheckClock) :
    (runCheck env m verdict clock).Returns (InTurn id) (fun _ _ => True) [] := by
  subst hid
  rw [runCheck_eq]
  refine Returns.bind (P := fun h _ => Below m.id 0 h)
    (Returns.await (Op.Quiet.inTurn rfl) fun _ => ?_) fun h result hb => ?_
  · exact below_nil.concat _ fun k kind hwrites => by cases hwrites
  refine Returns.bind (P := fun h _ => Below m.id 1 h) (Returns.await ?_ fun _ => ?_)
    fun h _ hb => ?_
  · intro k kind hwrites
    obtain ⟨rfl, rfl⟩ := Prod.mk.inj (Option.some.inj hwrites)
    exact ⟨rfl, hb⟩
  · refine (hb.mono (Nat.zero_le 1)).concat _ fun k kind hwrites => ?_
    obtain ⟨rfl, rfl⟩ := Prod.mk.inj (Option.some.inj hwrites)
    decide
  refine Returns.bind (P := fun h _ => Below m.id 2 h) (Returns.await ?_ fun _ => ?_)
    fun h _ hb => ?_
  · intro k kind hwrites
    obtain ⟨rfl, rfl⟩ := Prod.mk.inj (Option.some.inj hwrites)
    exact ⟨rfl, hb⟩
  · refine (hb.mono (by decide)).concat _ fun k kind hwrites => ?_
    obtain ⟨rfl, rfl⟩ := Prod.mk.inj (Option.some.inj hwrites)
    decide
  exact Returns.bind (transitionIncident_returns rfl _ _ _ hb) fun _ _ _ => Returns.ret trivial

/-- The writes of a history are about one monitor, and in order. -/
structure Ordered (id : ℕ) (h : List (Answered Op.Resp JsError)) : Prop where
  about : ∀ a ∈ h, ∀ k kind, a.1.writes = some (k, kind) → k = id
  sorted : (h.filterMap (noteWrite id)).Pairwise fun kind kind' => kind.rank < kind'.rank

/-- A call in turn keeps them so. -/
lemma Ordered.concat (hs : Ordered id h) {o : Op} (ho : InTurn id h o) (r : Except JsError o.Resp) :
    Ordered id (h ++ [⟨o, r⟩]) := by
  constructor
  · rw [List.forall_mem_append, List.forall_mem_singleton]
    exact ⟨hs.about, fun k kind hwrites => (ho k kind hwrites).1⟩
  · rw [List.filterMap_append, List.pairwise_append]
    refine ⟨hs.sorted, List.Pairwise.filterMap _ (R := fun _ _ => False) ?_
      (List.pairwise_singleton _ _), fun kind hkind kind' hkind' => ?_⟩
    · exact fun _ _ hfalse => hfalse.elim
    · obtain ⟨a, ha, hnote⟩ := List.mem_filterMap.1 hkind'
      obtain rfl := List.mem_singleton.1 ha
      obtain ⟨⟨k, kind''⟩, hwrites, hk⟩ := Option.bind_eq_some_iff.1 hnote
      dsimp only at hk
      split_ifs at hk
      obtain rfl := Option.some.inj hk
      exact (ho k kind'' hwrites).2 kind hkind

/-- What is noted about a monitor is noted of its own checks. -/
lemma Ordered.eq_of_note {k : ℕ} (hs : Ordered k h) {kind : WriteKind}
    (hkind : kind ∈ h.filterMap (noteWrite id)) : k = id := by
  obtain ⟨a, ha, hnote⟩ := List.mem_filterMap.1 hkind
  obtain ⟨⟨k', kind'⟩, hwrites, hk⟩ := Option.bind_eq_some_iff.1 hnote
  dsimp only at hk
  split_ifs at hk with hid
  exact (hs.about a ha k' kind' hwrites).symm.trans hid

/-! ## What a call changes -/

variable {db db' db'' : Db} {kinds kinds' : List WriteKind}

/-- Where log rows and notices stay, incidents may change. -/
lemma Grown.of_eq (hlogs : db'.logs = db.logs) (hsent : db'.dispatches = db.dispatches)
    (hincidents : .incident ∉ kinds → incidentsOf db' id = incidentsOf db id) :
    Grown id kinds db db' where
  logs := ⟨[], by rw [logsOf, logsOf, hlogs, List.append_nil], Nat.zero_le _⟩
  notices := ⟨[], by rw [noticesOf, noticesOf, hsent, List.append_nil], Nat.zero_le _⟩
  incidents := hincidents

/-- Nothing changes. -/
lemma Grown.refl (kinds : List WriteKind) (db : Db) : Grown id kinds db db :=
  .of_eq rfl rfl fun _ => rfl

/-- One change after the other. -/
lemma Grown.trans (h : Grown id kinds db db') (h' : Grown id kinds' db' db'') :
    Grown id (kinds ++ kinds') db db'' := by
  obtain ⟨rows, hrows, hlength⟩ := h.logs
  obtain ⟨rows', hrows', hlength'⟩ := h'.logs
  obtain ⟨sent, hsent, hcount⟩ := h.notices
  obtain ⟨sent', hsent', hcount'⟩ := h'.notices
  refine ⟨⟨rows ++ rows', ?_, ?_⟩, ⟨sent ++ sent', ?_, ?_⟩, fun hnot => ?_⟩
  · rw [hrows', hrows, List.append_assoc]
  · rw [List.length_append, List.count_append]
    exact Nat.add_le_add hlength hlength'
  · rw [hsent', hsent, List.append_assoc]
  · rw [List.length_append, List.count_append]
    exact Nat.add_le_add hcount hcount'
  · rw [List.mem_append, not_or] at hnot
    exact (h'.incidents hnot.2).trans (h.incidents hnot.1)

/-- **One call of a check** changes what it is noted for, at most. -/
lemma grown_of_attempts {o : Op} {r : Except JsError o.Resp} (h : Attempts o db r db') :
    Grown id (noteWrite id ⟨o, r⟩).toList db db' := by
  rcases h with (⟨ext, h⟩ | ⟨-, rfl, -⟩ | ⟨rfl, -⟩) | ⟨-, rfl⟩
  · cases o with
    | updateMonitor k update =>
      simp only [exec] at h
      split_ifs at h
      · obtain ⟨-, rfl⟩ := Prod.mk.inj h
        exact .of_eq rfl rfl fun _ => rfl
      · obtain ⟨-, rfl⟩ := Prod.mk.inj h
        exact .refl _ db
    | createLog row =>
      obtain ⟨-, rfl⟩ := Prod.mk.inj h
      refine ⟨⟨[row].filter fun row => row.monitorId = id, List.filter_append _ _, ?_⟩,
        ⟨[], (List.append_nil _).symm, Nat.zero_le _⟩, fun _ => rfl⟩
      by_cases hid : row.monitorId = id
      · simp [noteWrite, Op.writes, hid]
      · simp [hid]
    | dispatch payload =>
      obtain ⟨-, rfl⟩ := Prod.mk.inj h
      refine ⟨⟨[], (List.append_nil _).symm, Nat.zero_le _⟩,
        ⟨[payload].filter fun payload => payload.monitorId = id, List.filter_append _ _, ?_⟩,
        fun _ => rfl⟩
      by_cases hid : payload.monitorId = id
      · simp [noteWrite, Op.writes, hid]
      · simp [hid]
    | upsertIncident k ins =>
      simp only [exec] at h
      split at h
      · obtain ⟨-, rfl⟩ := Prod.mk.inj h
        exact .refl _ db
      · obtain ⟨-, rfl⟩ := Prod.mk.inj h
        refine .of_eq rfl rfl fun hnot => ?_
        have hid : k ≠ id := by
          rintro rfl
          exact hnot (by simp [noteWrite, Op.writes])
        simp [incidentsOf, Incident.inserted, hid]
    | resolveIncident k endTime =>
      obtain ⟨-, rfl⟩ := Prod.mk.inj h
      refine .of_eq rfl rfl fun hnot => ?_
      have hid : k ≠ id := by
        rintro rfl
        exact hnot (by simp [noteWrite, Op.writes])
      have hother : ∀ i, isOngoing k i = true → decide (i.monitorId = id) = false := by
        intro i hi
        have hk : i.monitorId = k := (of_decide_eq_true hi).1
        simp [hk, hid]
      exact congrArg (List.map Incident.core)
        (filter_updateFirst_of_not (f := (·.resolve endTime)) hother hother db.incidents)
    | saveIncident k changes =>
      obtain ⟨-, rfl⟩ := Prod.mk.inj h
      refine .of_eq rfl rfl fun _ => ?_
      exact map_filter_updateAll (f := (·.change changes)) (q := fun i => i.monitorId = id)
        (g := Incident.core) (fun _ _ => rfl) (fun _ _ => rfl) db.incidents
    | checkMonitor | findOngoing | analyzeIncident | findUser =>
      obtain ⟨-, rfl⟩ := Prod.mk.inj h
      exact .refl _ db
  · exact .refl _ _
  · exact .refl _ _
  · exact .refl _ _

/-- A call of a check does not bring a monitor back. -/
lemma gone_of_attempts {o : Op} {r : Except JsError o.Resp} (h : Attempts o db r db')
    (hgone : db.monitors id = none) : db'.monitors id = none := by
  rcases h with (⟨ext, h⟩ | ⟨-, rfl, -⟩ | ⟨rfl, -⟩) | ⟨-, rfl⟩
  · cases o with
    | updateMonitor k update =>
      simp only [exec] at h
      split_ifs at h
      · obtain ⟨-, rfl⟩ := Prod.mk.inj h
        by_cases hk : id = k
        · subst hk
          simp [hgone]
        · simpa [Function.update_of_ne hk] using hgone
      · obtain ⟨-, rfl⟩ := Prod.mk.inj h
        exact hgone
    | upsertIncident k ins =>
      simp only [exec] at h
      split at h
      · obtain ⟨-, rfl⟩ := Prod.mk.inj h
        exact hgone
      · obtain ⟨-, rfl⟩ := Prod.mk.inj h
        exact hgone
    | _ =>
      obtain ⟨-, rfl⟩ := Prod.mk.inj h
      exact hgone
  · exact hgone
  · exact hgone
  · exact hgone

/-- Nor does a request, unless it creates a monitor of that `_id`. -/
lemma gone_of_request {a : OwnerRequest} (hgone : db.monitors id = none)
    (hfresh : ∀ userId url t, a ≠ .create id userId url t) : (a.write db).monitors id = none := by
  cases a with
  | create k userId url createdAt =>
    have hk : id ≠ k := by
      rintro rfl
      exact hfresh userId url createdAt rfl
    simpa [OwnerRequest.write, Function.update_of_ne hk] using hgone
  | update userId k e =>
    by_cases hk : id = k
    · subst hk
      simp [OwnerRequest.write, hgone]
    · simpa [OwnerRequest.write, Function.update_of_ne hk] using hgone
  | delete userId k =>
    by_cases hk : id = k
    · subst hk
      simp [OwnerRequest.write, hgone]
    · simpa [OwnerRequest.write, Function.update_of_ne hk] using hgone

/-! ## After the deletion -/

variable {checks : ι → PlannedCheck} {w w' : OverlapWorld ι} {es es' : List (DeletionEvent ι)}

omit [DecidableEq ι] in
/-- Checks start as they should. -/
lemma spec_of_checksLoaded (i : ι) (db : Db) (p : Async (CheckResult × Option IncidentEvent))
    (h : ChecksLoaded checks i db p) :
    p.Spec (fun _ _ => True) (InTurn (checks i).monitorId) (fun _ out => ∀ a, out = .ok a → True)
      [] := by
  obtain ⟨m, -, hid, rfl⟩ := h
  exact runCheck_returns _ hid _ _

/-- The writes of every check are about its monitor, and in order. -/
lemma ordered_of_run (h : Run (DeletionStep checks) (.idle db) es w) (i : ι) :
    Ordered (checks i).monitorId (callsOf i (ofPrograms es)) :=
  h.beside_history spec_of_checksLoaded (fun _ _ _ _ _ => trivial)
    ⟨List.forall_mem_nil _, List.Pairwise.nil⟩ fun _ _ r hs ho => hs.concat ho r

/-- What is known while a monitor stays deleted. -/
structure StaysGone (checks : ι → PlannedCheck) (id : ℕ) (w : OverlapWorld ι)
    (es : List (DeletionEvent ι)) (w' : OverlapWorld ι) : Prop where
  gone : w'.store.monitors id = none
  /-- Only checks in flight go on. -/
  todo : ∀ i, (checks i).monitorId = id → ¬InFlight checks id w i → w'.todo i = w.todo i
  calls : ∀ i o r, .call i o r ∈ ofPrograms es → (checks i).monitorId = id → InFlight checks id w i
  grown : Grown id ((lateWrites id es).map (·.2)) w.store w'.store

/-- **One step** after the deletion. -/
lemma StaysGone.step {w'' : OverlapWorld ι} {e : DeletionEvent ι}
    (hs : StaysGone checks id w es w') (hstep : DeletionStep checks w' e w'')
    (hfresh : ∀ userId url t, e ≠ .other (.create id userId url t)) :
    StaysGone checks id w (es ++ [e]) w'' := by
  cases hstep with
  | @other a _ hacts =>
    obtain ⟨rfl, -⟩ := hacts
    refine ⟨gone_of_request hs.gone fun userId url t ha => hfresh userId url t (ha ▸ rfl), hs.todo,
      ?_, ?_⟩
    · rw [ofPrograms_other]
      exact hs.calls
    · rw [lateWrites, ofPrograms_other]
      have hrequest : Grown id [] w'.store (a.write w'.store) := by
        cases a <;> exact .of_eq rfl rfl fun _ => rfl
      simpa [lateWrites] using hs.grown.trans hrequest
  | program hstep =>
    cases hstep with
    | @start i p hnone hp =>
      obtain ⟨m, hm, -⟩ := hp
      have hi : (checks i).monitorId ≠ id := by
        rintro rfl
        rw [hs.gone] at hm
        cases hm
      refine ⟨hs.gone, fun j hj hflight => ?_, ?_, ?_⟩
      · have hji : j ≠ i := by
          rintro rfl
          exact hi hj
        simpa [Function.update_of_ne hji] using hs.todo j hj hflight
      · intro j o r hmem
        rw [ofPrograms_program, List.mem_append, List.mem_singleton] at hmem
        exact hs.calls j o r (hmem.resolve_right (by simp))
      · rw [lateWrites, ofPrograms_program, notesOf_start]
        exact hs.grown
    | @call i o k r s' htodo hH =>
      have hflight : (checks i).monitorId = id → InFlight checks id w i := by
        intro hi
        by_contra hnot
        exact hnot ⟨hi, o, k, (hs.todo i hi hnot).symm.trans htodo⟩
      refine ⟨gone_of_attempts hH hs.gone, fun j hj hnot => ?_, ?_, ?_⟩
      · have hji : j ≠ i := by
          rintro rfl
          exact hnot (hflight hj)
        simpa [Function.update_of_ne hji] using hs.todo j hj hnot
      · intro j o' r' hmem hj
        rw [ofPrograms_program, List.mem_append, List.mem_singleton] at hmem
        rcases hmem with hmem | heq
        · exact hs.calls j o' r' hmem hj
        · obtain ⟨rfl, -⟩ := SharedEvent.call.inj heq
          exact hflight hj
      · rw [lateWrites, ofPrograms_program, notesOf_call, List.map_append]
        have hnote : ((noteWrite id ⟨o, r⟩).map (i, ·)).toList.map (·.2) =
            (noteWrite id ⟨o, r⟩).toList := by
          cases noteWrite id ⟨o, r⟩ <;> rfl
        rw [hnote]
        exact hs.grown.trans (grown_of_attempts hH)

/-- After the deletion of a monitor only the checks in flight go on. -/
lemma staysGone_of_run (hgone : w.store.monitors id = none)
    (h : Run (DeletionStep checks) w es w')
    (hfresh : ∀ userId url t, .other (.create id userId url t) ∉ es) :
    StaysGone checks id w es w' := by
  have hall : (∀ userId url t, .other (.create id userId url t) ∉ es) →
      StaysGone checks id w es w' := by
    refine h.induction_from (P := fun es w' =>
      (∀ userId url t, .other (.create id userId url t) ∉ es) → StaysGone checks id w es w') ?_ ?_
    · exact fun _ => ⟨hgone, fun _ _ _ => rfl, fun _ _ _ hmem => absurd hmem List.not_mem_nil,
        .refl _ _⟩
    · intro es a e b _ ih hstep hfresh
      refine (ih fun userId url t hmem => ?_).step hstep fun userId url t heq => ?_
      · exact hfresh userId url t (List.mem_append_left _ hmem)
      · exact hfresh userId url t (heq ▸ List.mem_concat_self)
  exact hall hfresh

/-- **A deleted monitor stays deleted**, in every interleaving of checks and requests, and what is
still written about it comes from the checks that were in flight, once of each kind.

**Proof sketch.** A check starts from a document it has read, so no check of the monitor starts any
more. What each check writes is about its own monitor, of strictly increasing ranks. -/
theorem retired_of_run (h : Run (DeletionStep checks) (.idle db) es w)
    (hgone : w.store.monitors id = none) (h' : Run (DeletionStep checks) w es' w')
    (hfresh : ∀ userId url t, .other (.create id userId url t) ∉ es') :
    Retired checks id w es' w' := by
  have hstays := staysGone_of_run hgone h' hfresh
  have hordered : ∀ i, Ordered (checks i).monitorId
      (callsOf i (ofPrograms es) ++ callsOf i (ofPrograms es')) := by
    intro i
    have hi := ordered_of_run (h.append h') i
    rwa [ofPrograms_append, callsOf, List.filterMap_append] at hi
  have hown : ∀ i kind, kind ∈ (callsOf i (ofPrograms es')).filterMap (noteWrite id) →
      (checks i).monitorId = id := by
    intro i kind hkind
    have hall : kind ∈ (callsOf i (ofPrograms es) ++ callsOf i (ofPrograms es')).filterMap
        (noteWrite id) := by
      rw [List.filterMap_append]
      exact List.mem_append_right _ hkind
    exact (hordered i).eq_of_note hall
  refine ⟨hstays.gone, fun i kind hkind => ?_, nodup_notesOf _ fun i => ?_, hstays.grown⟩
  · have hkind' := (mem_notesOf _ _).1 hkind
    obtain ⟨⟨o, r⟩, ha, -⟩ := List.mem_filterMap.1 hkind'
    exact hstays.calls i o r (mem_callsOf.1 ha) (hown i kind hkind')
  · by_cases hi : (checks i).monitorId = id
    · have hsorted := (hordered i).sorted
      rw [hi, List.filterMap_append] at hsorted
      refine (List.pairwise_append.1 hsorted).2.1.imp fun hlt heq => ?_
      exact absurd (heq ▸ hlt) (lt_irrefl _)
    · have hnil : (callsOf i (ofPrograms es')).filterMap (noteWrite id) = [] :=
        List.eq_nil_iff_forall_not_mem.2 fun kind hkind => hi (hown i kind hkind)
      rw [hnil]
      exact List.nodup_nil

/-- A check of the monitor `1`. -/
def edgyCheck (_ : Unit) : PlannedCheck := { edgyCheckers false with monitorId := 1 }

/-- A check is in flight when its monitor is deleted. It still writes a log row, opens an incident
and notifies the owner. -/
theorem retired_of_run_inFlight : ∃ (w : OverlapWorld Unit) (es' : _) (w' : OverlapWorld Unit),
    w.store.monitors 1 = none ∧ (logsOf w'.store 1).length = 1 ∧ (noticesOf w'.store 1).length = 1 ∧
    ongoingCount w'.store 1 = 1 ∧ Retired edgyCheck 1 w es' w' := by
  let check := edgyCheck ()
  let p := runCheck check.env edgyMonitor (check.verdict edgyMonitor) check.clock
  let loaded : OverlapWorld Unit := ⟨edgyDb, Function.update (fun _ => none) () (some p)⟩
  let deleted : OverlapWorld Unit := ⟨(OwnerRequest.delete 7 1).write edgyDb, loaded.todo⟩
  have hrun : Run (DeletionStep edgyCheck) (.idle edgyDb)
      [.program (.start () p), .other (.delete 7 1)] deleted :=
    .cons (.program (.start rfl ⟨edgyMonitor, rfl, rfl, rfl⟩)) (.cons (.other ⟨rfl, by simp⟩)
      (.nil _))
  have hattempts : ∀ o db, Attempts o db (exec (answering .down) o db).1
      (exec (answering .down) o db).2 := fun o db => .inl (.inl ⟨_, rfl⟩)
  let outcome := p.run (exec (answering .down)) deleted.store
  let ended : OverlapWorld Unit :=
    ⟨outcome.2, Function.update deleted.todo () (some (.done outcome.1))⟩
  obtain ⟨es', hrun'⟩ :
      ∃ es', Run (SharedStep (ChecksLoaded edgyCheck) Attempts) deleted es' ended :=
    exists_run_alone hattempts p deleted rfl
  refine ⟨deleted, es'.map .program, ended, rfl, ?_, ?_, ?_,
    retired_of_run hrun rfl hrun'.beside (by simp)⟩
  · decide +kernel
  · decide +kernel
  · decide +kernel

end WatchTower

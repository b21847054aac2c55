import Mathlib.Logic.Function.Basic
import WatchTower.Documents.Collection
import WatchTower.Probe.Result
import WatchTower.Transition.Program

set_option relaxedAutoImplicit false
set_option autoImplicit false

/-!
# The database behind the scheduler

The collections a check touches, and the awaited calls of `runCheck`, `openIncident` and
`closeIncident`: the calls to the models, and the two other awaited services (the probe and the
incident analysis), whose answers are a parameter. `exec` performs one call as one atomic step.

## Main definitions

* `WatchTower.Incident`, `WatchTower.LogRow`, `WatchTower.Notification`, `WatchTower.Db`.
* `WatchTower.Op`, `WatchTower.Op.Resp`, `WatchTower.exec` — the calls and their effect.
* `WatchTower.External` — the answers of the services outside the database.
* `WatchTower.ongoingCount` — how many ONGOING incidents a monitor has.

## Main results

* `WatchTower.ongoingCount_saveIncident`, `WatchTower.ongoingCount_resolve` — the count under
  the writes of the incident service.
-/

namespace WatchTower

open Documents Transition

/-- `status` of an incident. -/
inductive IncidentStatus
  | ongoing
  | resolved
  deriving DecidableEq

/-- An incident document. -/
structure Incident where
  /-- `_id`. -/
  id : ℕ
  /-- The monitor it is about. -/
  monitorId : ℕ
  /-- The owner, denormalised. -/
  userId : Option ℕ
  /-- ONGOING or RESOLVED. -/
  status : IncidentStatus
  /-- When it opened. -/
  startTime : Time
  /-- When it was resolved. -/
  endTime : Option Time
  /-- Seconds from start to end. -/
  duration : ℤ
  /-- Why it opened. -/
  reason : String
  /-- The generated summary. -/
  aiSummary : Option String
  deriving DecidableEq

/-- One row of the check log. -/
structure LogRow where
  /-- The monitor checked. -/
  monitorId : ℕ
  /-- The raw outcome. -/
  status : Status
  /-- The headline time. -/
  latency : Option ℕ
  /-- The phases. -/
  timings : Timings
  /-- The status code. -/
  statusCode : Option ℕ
  /-- The error text. -/
  error : Option String
  /-- Attempts used. -/
  attempts : ℕ
  /-- When the check was recorded. -/
  timestamp : Time
  deriving DecidableEq

/-- `IncidentEvent`. -/
inductive IncidentEvent
  | opened
  | closed
  deriving DecidableEq

/-- A call of `notifierRegistry.dispatch`: the event and the incident it is about. -/
structure Notification where
  /-- What happened. -/
  event : IncidentEvent
  /-- The monitor. -/
  monitorId : ℕ
  /-- The owner notified. -/
  userId : ℕ
  /-- The incident as it was when dispatched. -/
  incident : Incident
  /-- When it happened. -/
  occurredAt : Time
  deriving DecidableEq

/-- The collections a check touches, with the dispatches made so far. -/
structure Db where
  /-- Monitors by `_id`. -/
  monitors : ℕ → Option Monitor
  /-- Incidents in insertion order. -/
  incidents : List Incident
  /-- Log rows in insertion order. -/
  logs : List LogRow
  /-- Which user ids have an account. -/
  users : ℕ → Bool
  /-- The dispatches so far, oldest first. -/
  dispatches : List Notification

/-- The `$setOnInsert` object of `openIncident`. -/
structure NewIncident where
  /-- The owner. -/
  userId : Option ℕ
  /-- The opening time. -/
  startTime : Time
  /-- The reason. -/
  reason : String
  deriving DecidableEq

/-- The paths of an incident that a `save()` can write after loading it: only modified paths
are written. -/
structure IncidentChanges where
  /-- A new summary. -/
  aiSummary : Option String := none
  /-- A new duration. -/
  duration : Option ℤ := none
  deriving DecidableEq

/-- The awaited calls of a check. -/
inductive Op
  /-- `checkMonitor(url, options)`. -/
  | checkMonitor (url : String) (options : CheckOptions)
  /-- `monitorModel.updateOne({ _id }, { $set: update })`. -/
  | updateMonitor (id : ℕ) (update : MonitorUpdate)
  /-- `logModel.create(row)`. -/
  | createLog (row : LogRow)
  /-- The upsert of `openIncident`, keyed on the ongoing incident of the monitor. -/
  | upsertIncident (monitorId : ℕ) (insert : NewIncident)
  /-- `incidentModel.findOne({ monitorId, status: 'ONGOING' })`. -/
  | findOngoing (monitorId : ℕ)
  /-- The conditional update of `closeIncident`. -/
  | resolveIncident (monitorId : ℕ) (endTime : Time)
  /-- `incident.save()`, writing the modified paths. -/
  | saveIncident (id : ℕ) (changes : IncidentChanges)
  /-- `analyzeIncident(reason)`. -/
  | analyzeIncident (reason : String)
  /-- `UserService.findUserByIdWithoutPassword(userId)`. -/
  | findUser (userId : ℕ)
  /-- `notifierRegistry.dispatch(payload)`. -/
  | dispatch (payload : Notification)

/-- What a call answers with. -/
abbrev Op.Resp : Op → Type
  | checkMonitor _ _ => CheckResult
  | updateMonitor _ _ => Unit
  | createLog _ => Unit
  | upsertIncident _ _ => Incident × Bool
  | findOngoing _ => Option Incident
  | resolveIncident _ _ => Option Incident
  | saveIncident _ _ => Unit
  | analyzeIncident _ => Option String
  | findUser _ => Bool
  | dispatch _ => Unit

/-- An asynchronous function over these calls. -/
abbrev Async := Prog Op Op.Resp JsError

/-- The answers of the awaited services that are not the database. -/
structure External where
  /-- What a check of the target results in. -/
  checkMonitor : String → CheckOptions → CheckResult
  /-- The summary the model writes, if one is configured and answers. -/
  analyzeIncident : String → Option String

/-- Services under which every probe comes out the same, without an incident analysis. -/
def answering (status : Status) : External where
  checkMonitor _ _ :=
    { status
      statusCode := none
      error := some "connection refused"
      errorCode := none
      retryable := false
      redirects := 0
      responseTime := 1
      timings := {}
      attempts := 1 }
  analyzeIncident _ := none

/-- Whether a document is the ONGOING incident of a monitor. -/
def isOngoing (monitorId : ℕ) (i : Incident) : Bool :=
  i.monitorId = monitorId ∧ i.status = .ongoing

/-- The number of ONGOING incidents of a monitor. -/
def ongoingCount (db : Db) (monitorId : ℕ) : ℕ := db.incidents.countP (isOngoing monitorId)

/-- The document that the upsert of `openIncident` inserts. -/
def Incident.inserted (id monitorId : ℕ) (ins : NewIncident) : Incident where
  id := id
  monitorId := monitorId
  userId := ins.userId
  status := .ongoing
  startTime := ins.startTime
  endTime := none
  duration := 0
  reason := ins.reason
  aiSummary := none

/-- The document after `{ $set: { status: 'RESOLVED', endTime } }`. -/
def Incident.resolve (endTime : Time) (i : Incident) : Incident :=
  { i with status := .resolved, endTime := some endTime }

/-- The document after a save of its modified paths. -/
def Incident.change (c : IncidentChanges) (i : Incident) : Incident :=
  { i with aiSummary := c.aiSummary <|> i.aiSummary, duration := c.duration.getD i.duration }

/-- The error mongoose throws for an update with an Invalid Date. -/
def castError : JsError := ⟨"Cast to date failed", none⟩

/-- Perform one awaited call. Every database call is one atomic step; without another writer the
upsert of `openIncident` never meets a duplicate key. -/
def exec (ext : External) : (o : Op) → Db → Except JsError o.Resp × Db
  | .checkMonitor url options, db => (.ok (ext.checkMonitor url options), db)
  | .updateMonitor id update, db =>
    if update.casts then
      (.ok (), { db with
        monitors := Function.update db.monitors id ((db.monitors id).map (·.set update)) })
    else (.error castError, db)
  | .createLog row, db => (.ok (), { db with logs := db.logs ++ [row] })
  | .upsertIncident monitorId ins, db =>
    match db.incidents.find? (isOngoing monitorId) with
    | some i => (.ok (i, true), db)
    | none =>
      let i := Incident.inserted db.incidents.length monitorId ins
      (.ok (i, false), { db with incidents := db.incidents ++ [i] })
  | .findOngoing monitorId, db => (.ok (db.incidents.find? (isOngoing monitorId)), db)
  | .resolveIncident monitorId endTime, db =>
    (.ok ((db.incidents.find? (isOngoing monitorId)).map (·.resolve endTime)),
      { db with incidents := updateFirst (isOngoing monitorId) (·.resolve endTime) db.incidents })
  | .saveIncident id changes, db =>
    (.ok (),
      { db with incidents := updateAll (fun i => i.id = id) (·.change changes) db.incidents })
  | .analyzeIncident reason, db => (.ok (ext.analyzeIncident reason), db)
  | .findUser userId, db => (.ok (db.users userId), db)
  | .dispatch payload, db => (.ok (), { db with dispatches := db.dispatches ++ [payload] })

/-! ## Counting ongoing incidents -/

variable {db : Db} {monitorId : ℕ}

/-- Saving a document's modified paths does not change which incidents are ongoing. -/
lemma ongoingCount_saveIncident (l : List Incident) (p : Incident → Bool) (c : IncidentChanges) :
    (updateAll p (·.change c) l).countP (isOngoing monitorId) =
      l.countP (isOngoing monitorId) :=
  countP_updateAll_of_iff (f := (·.change c)) (fun _ _ => rfl) l

/-- The conditional update of `closeIncident` leaves one ongoing incident fewer. -/
lemma ongoingCount_resolve (l : List Incident) (endTime : Time) :
    (updateFirst (isOngoing monitorId) (·.resolve endTime) l).countP (isOngoing monitorId) =
      l.countP (isOngoing monitorId) - 1 :=
  countP_updateFirst_of_leaves (fun a _ => by simp [isOngoing, Incident.resolve]) l

/-- An incident just inserted is ongoing, for its own monitor only. -/
@[simp] lemma isOngoing_inserted (k id : ℕ) (ins : NewIncident) :
    isOngoing k (Incident.inserted id monitorId ins) = decide (monitorId = k) := by
  simp [isOngoing, Incident.inserted]

/-- Resolving the incident of one monitor leaves the count of the others alone. -/
lemma ongoingCount_resolve_of_ne {k : ℕ} (hk : k ≠ monitorId) (l : List Incident)
    (endTime : Time) :
    (updateFirst (isOngoing monitorId) (·.resolve endTime) l).countP (isOngoing k) =
      l.countP (isOngoing k) := by
  refine countP_updateFirst_of_iff (fun a ha => ?_) l
  have hid : a.monitorId = monitorId := by simp [isOngoing] at ha; exact ha.1
  simp [isOngoing, Incident.resolve, hid, Ne.symm hk]

/-- Two states with the same monitors and accounts, and as many ongoing incidents of each
monitor. -/
structure SameOutages (db db' : Db) : Prop where
  monitors : db'.monitors = db.monitors
  users : db'.users = db.users
  count : ∀ k, ongoingCount db' k = ongoingCount db k

/-- The calls that neither write a monitor nor open or resolve an incident. -/
def Op.KeepsOutages : Op → Prop
  | .updateMonitor _ _ | .upsertIncident _ _ | .resolveIncident _ _ => False
  | _ => True

/-- The calls that follow the write which makes an incident transition. -/
def Op.FollowsTransition : Op → Prop
  | .findOngoing _ | .saveIncident _ _ | .analyzeIncident _ | .findUser _ | .dispatch _ => True
  | _ => False

/-- None of them makes another one. -/
lemma Op.FollowsTransition.keepsOutages {o : Op} (h : o.FollowsTransition) : o.KeepsOutages := by
  cases o <;> trivial

/-- What these calls keep. -/
lemma sameOutages_exec (ext : External) (db₀ : Db) (o : Op) (db : Db) (ho : o.KeepsOutages)
    (h : SameOutages db₀ db) : SameOutages db₀ (exec ext o db).2 := by
  obtain ⟨hm, hu, hc⟩ := h
  cases o with
  | saveIncident id changes =>
    exact ⟨hm, hu, fun k => (ongoingCount_saveIncident _ _ _).trans (hc k)⟩
  | updateMonitor => exact ho.elim
  | upsertIncident => exact ho.elim
  | resolveIncident => exact ho.elim
  | _ => exact ⟨hm, hu, hc⟩

end WatchTower

import WatchTower.Scheduler.Store

set_option relaxedAutoImplicit false
set_option autoImplicit false

/-!
# The incident lifecycle

`services/incident.service.js`: opening an incident is an upsert keyed on the monitor's ONGOING
incident, closing it a conditional update; whoever's write made the transition goes on to save
the derived fields and to dispatch the notification.

## Main definitions

* `WatchTower.Incident.preSave` — the `pre('save')` hook of the schema.
* `WatchTower.loadOwner`, `WatchTower.openIncident`, `WatchTower.closeIncident`.

## Main results

* `WatchTower.run_openIncident_of_ongoing`, `WatchTower.run_openIncident_of_none` — what opening
  does when an incident is ongoing, and when none is.
* `WatchTower.run_closeIncident_of_none`, `WatchTower.run_closeIncident_of_ongoing` — the same
  for closing.
-/

namespace WatchTower

open Documents Transition Transition.Prog

/-- The `pre('save')` hook: the duration in whole seconds, once both times are set. -/
def Incident.preSave (i : Incident) : Incident :=
  match i.endTime with
  | some endTime => { i with duration := (endTime - i.startTime) / 1000 }
  | none => i

/-- The modified paths of a document, relative to how it was loaded. -/
def Incident.modifiedPaths (loaded i : Incident) : IncidentChanges where
  aiSummary := if i.aiSummary = loaded.aiSummary then none else i.aiSummary
  duration := if i.duration = loaded.duration then none else some i.duration

/-- `incident.save()`: run the hook, then write the modified paths. -/
def Incident.save (loaded i : Incident) : Async Incident := do
  let saved := i.preSave
  let () ← await (Op.saveIncident saved.id (loaded.modifiedPaths saved))
  return saved

/-- The owner of a monitor, if the document names one and the user loads. -/
def loadOwner (userId : Option ℕ) : Async (Option ℕ) :=
  match userId with
  | none => return none
  | some uid => do
    let found : Except JsError Bool ← attempt (Op.findUser uid)
    match found with
    | .ok true => return some uid
    | .ok false => return none
    | .error _ => return none

/-- Dispatch a transition to the owner, when there is one. -/
def notifyOwner (m : Monitor) (event : IncidentEvent) (incident : Incident) (occurredAt : Time) :
    Async Unit := do
  match ← loadOwner m.userId with
  | some uid => await (Op.dispatch ⟨event, m.id, uid, incident, occurredAt⟩)
  | none => return ()

/-- The optional work after an incident was opened: the summary of the reason, saved with the
incident. An error here is logged and never blocks the alert; the summary stays on the document that
goes out with it, also when it could not be saved. -/
def summarise (incident : Incident) (reason : String) : Async Incident :=
  catchError
    (do
      let aiSummary : Option String ← await (Op.analyzeIncident reason)
      match aiSummary with
      | none => return incident
      | some summary =>
        if summary = "" then return incident
        else
          let summarised := { incident with aiSummary := some summary }
          catchError (incident.save summarised) fun _ => return summarised)
    fun _ => return incident

/-- Open an incident for a monitor. The flag says whether this call created it. -/
def openIncident (m : Monitor) (reason : String) (startTime : Time) :
    Async (Option Incident × Bool) := do
  let result : Except JsError (Incident × Bool) ←
    attempt (Op.upsertIncident m.id ⟨m.userId, startTime, reason⟩)
  match result with
  | .error err =>
    if err.code = some (.num 11000) then
      let existing : Option Incident ← await (Op.findOngoing m.id)
      return (existing, false)
    else throw err
  | .ok (incident, updatedExisting) =>
    if updatedExisting then return (some incident, false)
    else
      let incident ← summarise incident reason
      notifyOwner m .opened incident startTime
      return (some incident, true)

/-- Close the ongoing incident of a monitor. The flag says whether this call resolved one. -/
def closeIncident (m : Monitor) (endTime : Time) : Async (Option Incident × Bool) := do
  let found : Option Incident ← await (Op.resolveIncident m.id endTime)
  match found with
  | none => return (none, false)
  | some incident =>
    let duration := max 0 ((endTime - incident.startTime) / 1000)
    let incident ← incident.save { incident with duration := duration }
    notifyOwner m .closed incident endTime
    return (some incident, true)

/-! ## The calls that follow a transition -/

/-- Loading and notifying the owner follows a transition. -/
lemma notifyOwner_follows (m : Monitor) (event : IncidentEvent) (incident : Incident)
    (t : Time) : (notifyOwner m event incident t).AllCalls Op.FollowsTransition := by
  have hload : (loadOwner m.userId).AllCalls Op.FollowsTransition := by
    unfold loadOwner
    split
    · trivial
    · exact AllCalls.bind (allCalls_attempt.2 trivial) fun found => by
        rcases found with _ | _ | _ <;> trivial
  refine AllCalls.bind hload fun owner => ?_
  cases owner with
  | none => trivial
  | some uid => exact allCalls_await.2 trivial

/-- So does saving an incident. -/
lemma save_follows (loaded i : Incident) : (loaded.save i).AllCalls Op.FollowsTransition :=
  AllCalls.bind (allCalls_await.2 trivial) fun _ => trivial

/-- So does summarising one. -/
lemma summarise_follows (incident : Incident) (reason : String) :
    (summarise incident reason).AllCalls Op.FollowsTransition := by
  refine AllCalls.catchError (AllCalls.bind (allCalls_await.2 trivial) fun summary => ?_)
    fun _ => trivial
  cases summary with
  | none => trivial
  | some summary =>
    dsimp only
    split_ifs
    · trivial
    · exact AllCalls.catchError (save_follows _ _) fun _ => trivial

/-- Summarising an incident opens and resolves nothing. -/
lemma summarise_keepsOutages (incident : Incident) (reason : String) :
    (summarise incident reason).AllCalls Op.KeepsOutages :=
  (summarise_follows incident reason).mono fun _ => Op.FollowsTransition.keepsOutages

/-! ## Undisturbed runs -/

variable (ext : External) {db : Db} {m : Monitor}

/-- The owner that loads: the one the document names, if that account exists. -/
def loadableOwner (db : Db) (m : Monitor) : Option ℕ := m.userId.filter db.users

/-- Loading the owner reads the accounts only. -/
lemma run_loadOwner : (loadOwner m.userId).run (exec ext) db = (.ok (loadableOwner db m), db) := by
  cases hu : m.userId with
  | none => simp [loadOwner, loadableOwner, hu]
  | some uid =>
    cases hdb : db.users uid <;> simp [loadOwner, loadableOwner, hu, exec, hdb, Option.filter]

/-- The dispatches of a transition: one for a loadable owner, none without one. -/
def notices (db : Db) (m : Monitor) (event : IncidentEvent) (incident : Incident) (t : Time) :
    List Notification :=
  ((loadableOwner db m).map fun uid => ⟨event, m.id, uid, incident, t⟩).toList

/-- Notifying the owner adds these dispatches. -/
lemma run_notifyOwner (event : IncidentEvent) (incident : Incident) (t : Time) :
    (notifyOwner m event incident t).run (exec ext) db =
      (.ok (), { db with dispatches := db.dispatches ++ notices db m event incident t }) := by
  cases h : loadableOwner db m <;> simp [notifyOwner, run_loadOwner, notices, h, exec]

/-- The save of a document changes its incident's derived fields and nothing else. -/
lemma run_save (loaded i : Incident) :
    (loaded.save i).run (exec ext) db =
      (.ok i.preSave, { db with
        incidents := updateAll (fun j => j.id = i.preSave.id)
          (·.change (loaded.modifiedPaths i.preSave)) db.incidents }) := by
  simp [Incident.save, exec]

/-- Summarising returns normally, having changed derived fields of incidents only. -/
lemma run_summarise (db : Db) (incident : Incident) (reason : String) :
    ∃ i l, (summarise incident reason).run (exec ext) db =
      (.ok i, { db with incidents := l }) := by
  cases h : ext.analyzeIncident reason with
  | none => exact ⟨incident, db.incidents, by simp [summarise, exec, h]⟩
  | some summary =>
    by_cases hs : summary = ""
    · exact ⟨incident, db.incidents, by simp [summarise, exec, h, hs]⟩
    · let i := { incident with aiSummary := some summary }
      exact ⟨i.preSave, updateAll (fun j => j.id = i.preSave.id)
        (·.change (incident.modifiedPaths i.preSave)) db.incidents,
        by simp [summarise, exec, h, hs, run_save, i]⟩

/-- The number of ongoing incidents after a transition. -/
def IncidentEvent.count : IncidentEvent → ℕ → ℕ
  | .opened, n => n + 1
  | .closed, n => n - 1

/-- What a transition of a monitor's incident does to the database: it changes the number of
ongoing incidents of that monitor, and dispatches once to a loadable owner. -/
structure Transitioned (db : Db) (m : Monitor) (event : IncidentEvent) (db' : Db) : Prop where
  monitors : db'.monitors = db.monitors
  users : db'.users = db.users
  count_self : ongoingCount db' m.id = event.count (ongoingCount db m.id)
  count_of_ne : ∀ k, k ≠ m.id → ongoingCount db' k = ongoingCount db k
  dispatches : ∃ i t, db'.dispatches = db.dispatches ++ notices db m event i t

/-- **Opening while an incident is ongoing** returns that incident and changes nothing. -/
theorem run_openIncident_of_ongoing (h : ongoingCount db m.id ≠ 0) (reason : String)
    (t : Time) : ∃ i, (openIncident m reason t).run (exec ext) db = (.ok (some i, false), db) := by
  obtain ⟨i, hi⟩ := Option.isSome_iff_exists.1
    (find_isSome_iff_countP_pos.2 (Nat.pos_of_ne_zero h))
  exact ⟨i, by simp [openIncident, exec, hi]⟩

/-- **Opening without an ongoing incident** creates one and dispatches. -/
theorem run_openIncident_of_none (h : ongoingCount db m.id = 0) (reason : String) (t : Time) :
    ∃ i db', (openIncident m reason t).run (exec ext) db = (.ok (some i, true), db') ∧
      Transitioned db m .opened db' := by
  have hnone : db.incidents.find? (isOngoing m.id) = none := find_eq_none_iff_countP.2 h
  let new := Incident.inserted db.incidents.length m.id ⟨m.userId, t, reason⟩
  let db₁ : Db := { db with incidents := db.incidents ++ [new] }
  obtain ⟨i, l, hrun⟩ := run_summarise ext db₁ new reason
  have hsame : SameOutages db₁ { db₁ with incidents := l } := by
    have := (summarise_keepsOutages new reason).run_invariant (exec ext)
      (sameOutages_exec ext db₁) (s := db₁) ⟨rfl, rfl, fun _ => rfl⟩
    rwa [hrun] at this
  have hcount : ∀ k, l.countP (isOngoing k) =
      db.incidents.countP (isOngoing k) + if m.id = k then 1 else 0 := by
    intro k
    have := hsame.count k
    simpa [ongoingCount, db₁, new, List.countP_append, List.countP_cons] using this
  refine ⟨i, { db with
    incidents := l, dispatches := db.dispatches ++ notices db m .opened i t }, ?_, ?_⟩
  · simp only [openIncident, bind_eq, run_bind, run_attempt, exec, hnone]
    simp only [Bool.false_eq_true, if_false, run_bind]
    rw [hrun]
    simp [run_notifyOwner, db₁, notices, loadableOwner]
  · exact
      { monitors := rfl
        users := rfl
        count_self := by simpa [ongoingCount, IncidentEvent.count] using hcount m.id
        count_of_ne := fun k hk => by simpa [ongoingCount, Ne.symm hk] using hcount k
        dispatches := ⟨i, t, rfl⟩ }

/-- **Closing without an ongoing incident** changes nothing. -/
theorem run_closeIncident_of_none (h : ongoingCount db m.id = 0) (t : Time) :
    (closeIncident m t).run (exec ext) db = (.ok (none, false), db) := by
  have hnone : db.incidents.find? (isOngoing m.id) = none := find_eq_none_iff_countP.2 h
  simp [closeIncident, exec, hnone, updateFirst_of_countP_eq_zero (show _ = 0 from h)]

/-- **Closing while an incident is ongoing** resolves it and dispatches. -/
theorem run_closeIncident_of_ongoing (h : ongoingCount db m.id ≠ 0) (t : Time) :
    ∃ i db', (closeIncident m t).run (exec ext) db = (.ok (some i, true), db') ∧
      Transitioned db m .closed db' := by
  obtain ⟨i, hi⟩ := Option.isSome_iff_exists.1
    (find_isSome_iff_countP_pos.2 (Nat.pos_of_ne_zero h))
  let loaded := i.resolve t
  let saved := { loaded with duration := max 0 ((t - loaded.startTime) / 1000) }.preSave
  let l := updateFirst (isOngoing m.id) (·.resolve t) db.incidents
  let l' := updateAll (fun j => j.id = saved.id) (·.change (loaded.modifiedPaths saved)) l
  have hcount : ∀ k, l'.countP (isOngoing k) = l.countP (isOngoing k) := fun k =>
    ongoingCount_saveIncident _ _ _
  refine ⟨saved, { db with
    incidents := l', dispatches := db.dispatches ++ notices db m .closed saved t }, ?_, ?_⟩
  · simp [closeIncident, exec, hi, run_save, run_notifyOwner, notices, loadableOwner, l', l, saved,
      loaded]
  · exact
      { monitors := rfl
        users := rfl
        count_self := (hcount m.id).trans (ongoingCount_resolve _ _)
        count_of_ne := fun k hk => (hcount k).trans (ongoingCount_resolve_of_ne hk _ _)
        dispatches := ⟨saved, t, rfl⟩ }

end WatchTower

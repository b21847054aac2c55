import WatchTower.Scheduler.Incident
import WatchTower.Transition.Interleave

set_option relaxedAutoImplicit false
set_option autoImplicit false

/-!
# Calls of the incident service

One call of `openIncident` or `closeIncident`, described by its history: the calls to the
database it has made so far. At most one of them creates or resolves an incident, it is the first,
and only a call that has made such a transition dispatches, once, and reports it.

## Main definitions

* `WatchTower.Performs` — what a call to the database can answer and do, without faults.
* `WatchTower.IncidentCall` — a call of the service.
* `WatchTower.noteTransition`, `WatchTower.noteDispatch` — what is noted of a call to the database.
* `WatchTower.Permitted`, `WatchTower.Ended` — the behaviour of a call of the service.

## Main results

* `WatchTower.IncidentCall.spec` — every call of the service behaves so.
-/

namespace WatchTower

open Documents Transition Transition.Prog

/-- What a call can answer and do without faults. Besides what `exec` says, an upsert may lose a
race against the unique index, when there is an ONGOING incident, and the analysis may fail. -/
def Performs (o : Op) (db : Db) (r : Except JsError o.Resp) (db' : Db) : Prop :=
  (∃ ext, exec ext o db = (r, db')) ∨
  (r = .error duplicateKey ∧ db' = db ∧ ∃ monitorId ins, o = .upsertIncident monitorId ins ∧
    0 < ongoingCount db monitorId) ∨
  (db' = db ∧ ∃ reason, o = .analyzeIncident reason)

/-- The same, when every owner that is looked up can be loaded. -/
def PerformsLoadable (o : Op) (db : Db) (r : Except JsError o.Resp) (db' : Db) : Prop :=
  Performs o db r db' ∧ ∀ uid, o = .findUser uid → db.users uid = true

/-- What a call can then answer. -/
def AnswersLoadable (o : Op) (r : Except JsError o.Resp) : Prop :=
  ∃ db db', PerformsLoadable o db r db'

/-- A call of the incident service. -/
inductive IncidentCall
  /-- `openIncident(monitor, reason)`, at the time it reads. -/
  | opening (m : Monitor) (reason : String) (startTime : Time)
  /-- `closeIncident(monitor)`, at the time it reads. -/
  | closing (m : Monitor) (endTime : Time)

namespace IncidentCall

/-- The function that is called. -/
def prog : IncidentCall → Async (Option Incident × Bool)
  | opening m reason startTime => openIncident m reason startTime
  | closing m endTime => closeIncident m endTime

/-- The monitor that it is called with. -/
def monitor : IncidentCall → Monitor
  | opening m _ _ => m
  | closing m _ => m

/-- The transition that it can make. -/
def event : IncidentCall → IncidentEvent
  | opening _ _ _ => .opened
  | closing _ _ => .closed

end IncidentCall

/-! ## What is noted of a call -/

/-- The transition that a call makes, with the incident that it answers. -/
def noteTransition : Answered Op.Resp JsError → Option (IncidentEvent × Incident)
  | ⟨.upsertIncident _ _, .ok (incident, false)⟩ => some (.opened, incident)
  | ⟨.resolveIncident _ _, .ok (some incident)⟩ => some (.closed, incident)
  | _ => none

/-- The dispatch that a call makes: its event and the incident. -/
def noteDispatch : Answered Op.Resp JsError → Option (IncidentEvent × ℕ)
  | ⟨.dispatch payload, .ok _⟩ => some (payload.event, payload.incident.id)
  | _ => none

/-- The transitions of a history. -/
def transitionsIn (h : List (Answered Op.Resp JsError)) : List (IncidentEvent × Incident) :=
  h.filterMap noteTransition

/-- The dispatches of a history. -/
def dispatchesIn (h : List (Answered Op.Resp JsError)) : List (IncidentEvent × ℕ) :=
  h.filterMap noteDispatch

/-- One more call adds its transition. -/
lemma transitionsIn_concat (h : List (Answered Op.Resp JsError)) (a : Answered Op.Resp JsError) :
    transitionsIn (h ++ [a]) = transitionsIn h ++ (noteTransition a).toList := by
  cases ha : noteTransition a <;> simp [transitionsIn, ha]

/-- One more call adds its dispatch. -/
lemma dispatchesIn_concat (h : List (Answered Op.Resp JsError)) (a : Answered Op.Resp JsError) :
    dispatchesIn (h ++ [a]) = dispatchesIn h ++ (noteDispatch a).toList := by
  cases ha : noteDispatch a <;> simp [dispatchesIn, ha]

/-- The calls that a call of the service makes after a history. -/
def Permitted (c : IncidentCall) (h : List (Answered Op.Resp JsError)) : Op → Prop
  | .upsertIncident monitorId _ => h = [] ∧ c.event = .opened ∧ monitorId = c.monitor.id
  | .resolveIncident monitorId _ => h = [] ∧ c.event = .closed ∧ monitorId = c.monitor.id
  | .dispatch payload => dispatchesIn h = [] ∧
      ∃ incident, transitionsIn h = [(payload.event, incident)] ∧ payload.incident.id = incident.id
  | .checkMonitor _ _ | .updateMonitor _ _ | .createLog _ => False
  | _ => True

/-- How it ends: without a transition and without a dispatch, or with one of each, of the same
incident, which it then reports. -/
def Ended (c : IncidentCall) (h : List (Answered Op.Resp JsError))
    (out : Except JsError (Option Incident × Bool)) : Prop :=
  (transitionsIn h = [] ∧ dispatchesIn h = [] ∧ ∃ incident, out = .ok (incident, false)) ∨
  ∃ incident reported, transitionsIn h = [(c.event, incident)] ∧
    dispatchesIn h = [(c.event, incident.id)] ∧ out = .ok (some reported, true) ∧
    reported.id = incident.id

/-! ## What a call answers -/

section Answers

/-- An upsert answers with an incident, or has lost a race. -/
lemma answers_upsertIncident {monitorId : ℕ} {ins : NewIncident}
    {r : Except JsError (Incident × Bool)}
    (h : AnswersLoadable (.upsertIncident monitorId ins) r) :
    r = .error duplicateKey ∨ ∃ incident updatedExisting, r = .ok (incident, updatedExisting) := by
  obtain ⟨db, db', ⟨ext, h⟩ | ⟨rfl, -⟩ | ⟨-, reason, h⟩, -⟩ := h
  · simp only [exec] at h
    split at h
    · exact .inr ⟨_, _, (Prod.mk.inj h).1.symm⟩
    · exact .inr ⟨_, _, (Prod.mk.inj h).1.symm⟩
  · exact .inl rfl
  · cases h

/-- A call that neither upserts nor analyses is performed as `exec` says. -/
lemma exec_of_performs {o : Op} {db db' : Db} {r : Except JsError o.Resp}
    (h : Performs o db r db') (hupsert : ∀ monitorId ins, o ≠ .upsertIncident monitorId ins)
    (hanalyze : ∀ reason, o ≠ .analyzeIncident reason) : ∃ ext, exec ext o db = (r, db') := by
  rcases h with h | ⟨-, -, monitorId, ins, h, -⟩ | ⟨-, reason, h⟩
  · exact h
  · exact absurd h (hupsert monitorId ins)
  · exact absurd h (hanalyze reason)

/-- It answers so. -/
lemma answers_exec {o : Op} {r : Except JsError o.Resp} (h : AnswersLoadable o r)
    (hupsert : ∀ monitorId ins, o ≠ .upsertIncident monitorId ins)
    (hanalyze : ∀ reason, o ≠ .analyzeIncident reason) :
    ∃ ext db, (exec ext o db).1 = r ∧ ∀ uid, o = .findUser uid → db.users uid = true := by
  obtain ⟨db, db', h, howner⟩ := h
  obtain ⟨ext, h⟩ := exec_of_performs h hupsert hanalyze
  exact ⟨ext, db, by rw [h], howner⟩

/-- Reading the ongoing incident succeeds. -/
lemma answers_findOngoing {monitorId : ℕ} {r : Except JsError (Option Incident)}
    (h : AnswersLoadable (.findOngoing monitorId) r) : ∃ incident, r = .ok incident := by
  obtain ⟨ext, db, rfl, -⟩ := answers_exec h (by simp) (by simp)
  exact ⟨_, rfl⟩

/-- So does the conditional update. -/
lemma answers_resolveIncident {monitorId : ℕ} {endTime : Time}
    {r : Except JsError (Option Incident)}
    (h : AnswersLoadable (.resolveIncident monitorId endTime) r) :
    ∃ incident, r = .ok incident := by
  obtain ⟨ext, db, rfl, -⟩ := answers_exec h (by simp) (by simp)
  exact ⟨_, rfl⟩

/-- So does a save. -/
lemma answers_saveIncident {id : ℕ} {changes : IncidentChanges} {r : Except JsError Unit}
    (h : AnswersLoadable (.saveIncident id changes) r) : r = .ok () := by
  obtain ⟨ext, db, rfl, -⟩ := answers_exec h (by simp) (by simp)
  rfl

/-- So does a dispatch. -/
lemma answers_dispatch {payload : Notification} {r : Except JsError Unit}
    (h : AnswersLoadable (.dispatch payload) r) : r = .ok () := by
  obtain ⟨ext, db, rfl, -⟩ := answers_exec h (by simp) (by simp)
  rfl

/-- An owner is found. -/
lemma answers_findUser {uid : ℕ} {r : Except JsError Bool}
    (h : AnswersLoadable (.findUser uid) r) : r = .ok true := by
  obtain ⟨ext, db, rfl, howner⟩ := answers_exec h (by simp) (by simp)
  simp [exec, howner uid rfl]

end Answers

/-! ## The behaviour of a call -/

variable {c : IncidentCall} {h : List (Answered Op.Resp JsError)} {event : IncidentEvent}
  {incident : Incident}

/-- The answers of calls that are no transition and no dispatch are not noted. -/
structure SameNotes (h h' : List (Answered Op.Resp JsError)) : Prop where
  transitions : transitionsIn h' = transitionsIn h
  dispatches : dispatchesIn h' = dispatchesIn h

/-- Saving an incident is not noted, and keeps its id. -/
lemma save_spec (loaded i : Incident) : (loaded.save i).Spec AnswersLoadable (Permitted c)
    (fun h' out => SameNotes h h' ∧ ∃ saved, out = .ok saved ∧ saved.id = i.id) h := by
  refine Spec.bind (spec_await.2 ⟨trivial, fun r hr => ?_⟩)
  obtain rfl := answers_saveIncident hr
  refine ⟨⟨?_, ?_⟩, _, rfl, ?_⟩
  · rw [transitionsIn_concat]
    exact List.append_nil _
  · rw [dispatchesIn_concat]
    exact List.append_nil _
  · cases hend : i.endTime <;> simp [Incident.preSave, hend]

/-- Summarising an incident is not noted, does not fail, and keeps the id. -/
lemma summarise_spec (i : Incident) (reason : String) :
    (summarise i reason).Spec AnswersLoadable (Permitted c)
      (fun h' out => SameNotes h h' ∧ ∃ saved, out = .ok saved ∧ saved.id = i.id) h := by
  refine Spec.catchError (Spec.bind (spec_await.2 ⟨trivial, fun r hr => ?_⟩))
  have hsame : SameNotes h (h ++ [⟨.analyzeIncident reason, r⟩]) := by
    constructor
    · rw [transitionsIn_concat]
      exact List.append_nil _
    · rw [dispatchesIn_concat]
      exact List.append_nil _
  have hunchanged : SameNotes h (h ++ [⟨.analyzeIncident reason, r⟩]) ∧
      ∃ saved, (.ok i : Except JsError Incident) = .ok saved ∧ saved.id = i.id :=
    ⟨hsame, i, rfl, rfl⟩
  rcases r with err | summary
  · exact hunchanged
  · rcases summary with _ | summary
    · exact hunchanged
    · dsimp only
      split_ifs
      · exact hunchanged
      · refine Spec.catchError ((save_spec (c := c) i { i with aiSummary := some summary }).mono
          fun h' out hsave => ?_)
        obtain ⟨hnotes, saved, rfl, hid⟩ := hsave
        exact ⟨⟨hnotes.transitions.trans hsame.transitions,
          hnotes.dispatches.trans hsame.dispatches⟩, saved, rfl, hid⟩

/-- After a transition the owner is notified, once. -/
lemma notifyOwner_spec {m : Monitor} {i : Incident} {t : Time} (howner : m.userId.isSome)
    (htransitions : transitionsIn h = [(event, incident)]) (hdispatches : dispatchesIn h = [])
    (hid : i.id = incident.id) :
    (notifyOwner m event i t).Spec AnswersLoadable (Permitted c)
      (fun h' out => transitionsIn h' = [(event, incident)] ∧
        dispatchesIn h' = [(event, incident.id)] ∧ out = .ok ()) h := by
  obtain ⟨uid, huid⟩ := Option.isSome_iff_exists.1 howner
  unfold notifyOwner loadOwner
  rw [huid]
  refine Spec.bind (Spec.bind (spec_attempt.2 ⟨trivial, fun r hr => ?_⟩))
  obtain rfl := answers_findUser hr
  have htransitions' : transitionsIn (h ++ [⟨.findUser uid, .ok true⟩]) = [(event, incident)] := by
    rw [transitionsIn_concat, htransitions]
    rfl
  have hdispatches' : dispatchesIn (h ++ [⟨.findUser uid, .ok true⟩]) = [] := by
    rw [dispatchesIn_concat, hdispatches]
    rfl
  refine spec_await.2 ⟨⟨hdispatches', incident, htransitions', hid⟩, fun r hr => ?_⟩
  obtain rfl := answers_dispatch hr
  refine ⟨?_, ?_, rfl⟩
  · rw [transitionsIn_concat, htransitions']
    rfl
  · rw [dispatchesIn_concat, hdispatches', ← hid]
    rfl

/-- A call of `openIncident`. -/
lemma openIncident_spec {m : Monitor} (howner : m.userId.isSome) (reason : String) (t : Time) :
    (openIncident m reason t).Spec AnswersLoadable (Permitted (.opening m reason t))
      (Ended (.opening m reason t)) [] := by
  refine Spec.bind (spec_attempt.2 ⟨⟨rfl, rfl, rfl⟩, fun r hr => ?_⟩)
  obtain rfl | ⟨i, updatedExisting, rfl⟩ := answers_upsertIncident hr
  · refine Spec.bind (spec_await.2 ⟨trivial, fun r hr => ?_⟩)
    obtain ⟨existing, rfl⟩ := answers_findOngoing hr
    exact .inl ⟨rfl, rfl, existing, rfl⟩
  · cases updatedExisting with
    | true => exact .inl ⟨rfl, rfl, some i, rfl⟩
    | false =>
      refine Spec.bind ((summarise_spec i reason).mono ?_)
      rintro h out ⟨hnotes, saved, rfl, hid⟩
      refine Spec.bind ((notifyOwner_spec howner hnotes.transitions hnotes.dispatches hid).mono ?_)
      rintro h' out ⟨htransitions, hdispatches, rfl⟩
      exact .inr ⟨i, saved, htransitions, hdispatches, rfl, hid⟩

/-- A call of `closeIncident`. -/
lemma closeIncident_spec {m : Monitor} (howner : m.userId.isSome) (t : Time) :
    (closeIncident m t).Spec AnswersLoadable (Permitted (.closing m t))
      (Ended (.closing m t)) [] := by
  refine Spec.bind (spec_await.2 ⟨⟨rfl, rfl, rfl⟩, fun r hr => ?_⟩)
  obtain ⟨found, rfl⟩ := answers_resolveIncident hr
  cases found with
  | none => exact .inl ⟨rfl, rfl, none, rfl⟩
  | some i =>
    refine Spec.bind ((save_spec i _).mono ?_)
    rintro h out ⟨hnotes, saved, rfl, hid⟩
    refine Spec.bind ((notifyOwner_spec howner hnotes.transitions hnotes.dispatches hid).mono ?_)
    rintro h' out ⟨htransitions, hdispatches, rfl⟩
    exact .inr ⟨i, saved, htransitions, hdispatches, rfl, hid⟩

/-- **Every call of the service** makes at most one transition, with its first call to the
database, and dispatches and reports it exactly then. -/
theorem IncidentCall.spec (c : IncidentCall) (howner : c.monitor.userId.isSome) :
    c.prog.Spec AnswersLoadable (Permitted c) (Ended c) [] := by
  cases c with
  | opening m reason startTime => exact openIncident_spec howner reason startTime
  | closing m endTime => exact closeIncident_spec howner endTime

end WatchTower

import WatchTower.Documents.Unique
import WatchTower.Monitors.WritableFields
import WatchTower.Transition.Run

set_option relaxedAutoImplicit false
set_option autoImplicit false

/-!
# Requests on monitors

Create, update and list requests, one after another, on the collection of monitors. The id of a new
monitor is a new one.

## Main definitions

* `WatchTower.getAllMonitorsController` — the list endpoint.
* `WatchTower.MonitorCall`, `WatchTower.MonitorCall.serve` — a request, and what it answers and
  leaves.
* `WatchTower.MonitorStep` — one request.

## Main results

* `WatchTower.MonitorStep.cases` — a request changes nothing, adds a monitor, or updates one.
* `WatchTower.MonitorStep.uniqueIds` — ids are unique.
-/

namespace WatchTower

open Documents Transition

/-- `getAllMonitorsController`. -/
def getAllMonitorsController (owner : ℕ) (docs : List MonitorDoc) :
    ApiResponse (List PublicMonitor) :=
  ⟨200, ((docs.filter (isOwners owner)).map selected).map present,
    "Monitors retrieved successfully"⟩

/-- A request to one of the endpoints. A create is given the id of the monitor. -/
inductive MonitorCall
  | create (req : MonitorRequest) (id : ℕ) (now : Time)
  | update (req : MonitorRequest)
  | list (owner : ℕ)

/-- The monitors of an answer that holds one. -/
def answered : Except Thrown (ApiResponse PublicMonitor) → List PublicMonitor
  | .ok response => [response.data]
  | .error _ => []

variable (rt : RequestRuntime) (schema : MonitorSchema)

/-- The monitors that a request is answered with, and the collection after it. -/
def MonitorCall.serve (docs : List MonitorDoc) : MonitorCall → List PublicMonitor × List MonitorDoc
  | .create req newId now =>
    (createMonitorController rt schema req newId now docs).map answered id
  | .update req => (updateMonitorController rt schema req docs).map answered id
  | .list owner => ((getAllMonitorsController owner docs).data, docs)

/-- The id of a create is new. -/
def MonitorCall.HasNewId (docs : List MonitorDoc) : MonitorCall → Prop
  | .create _ id _ => ∀ d ∈ docs, d .id ≠ some (.objectId id)
  | .update _ => True
  | .list _ => True

/-- One request. -/
def MonitorStep (docs : List MonitorDoc) (call : MonitorCall) (docs' : List MonitorDoc) : Prop :=
  call.HasNewId docs ∧ docs' = (call.serve rt schema docs).2

/-- An update request whose values can be encrypted and are valid for the schema. -/
def MonitorRequest.Valid (req : MonitorRequest) : Prop :=
  ∃ fields patch, updateFields rt req = .ok fields ∧ schema.castPatch fields = some patch

/-- No two monitors have the same id. -/
def UniqueIds (docs : List MonitorDoc) : Prop := UniqueKey (fun d : MonitorDoc => d .id) docs

variable {rt schema} {docs docs' : List MonitorDoc} {call : MonitorCall}

variable {req : MonitorRequest} {fields : MonitorPatch} {patch : Patch MonitorField Stored}

/-- A valid update of a monitor that is found. -/
lemma serve_update_of_valid {d : MonitorDoc} (hfields : updateFields rt req = .ok fields)
    (hpatch : schema.castPatch fields = some patch)
    (hfind : docs.find? (isOwnersMonitor req.owner req.monitorId) = some d) :
    (MonitorCall.update req).serve rt schema docs =
      ([present (selected (patch.apply d))],
        updateFirst (isOwnersMonitor req.owner req.monitorId) patch.apply docs) := by
  rw [MonitorCall.serve, updateMonitorController_of_valid hfields hpatch hfind]
  rfl

/-- Any other update answers with no monitor, and changes nothing. -/
lemma serve_update_of_invalid (h : ¬(req.Valid rt schema ∧
      ∃ d, docs.find? (isOwnersMonitor req.owner req.monitorId) = some d)) :
    (MonitorCall.update req).serve rt schema docs = ([], docs) := by
  rcases updateMonitorController_cases rt schema req docs with
    ⟨err, herr⟩ | ⟨fields, patch, d, hfields, hpatch, hfind⟩
  · rw [MonitorCall.serve, herr]
    rfl
  · exact absurd ⟨⟨fields, patch, hfields, hpatch⟩, d, hfind⟩ h

/-- The owner of a new monitor, and its id. -/
lemma created_ids (owner id : ℕ) (now : Time) (patch : Patch MonitorField Stored) :
    schema.created owner id now patch .id = some (.objectId id) ∧
      schema.created owner id now patch .userId = some (.objectId owner) := by
  constructor
  · rw [MonitorSchema.created, Patch.apply, Patch.assign_apply, if_pos rfl]
    rfl
  · rw [MonitorSchema.created, Patch.apply, Patch.assign_apply, if_neg (by decide),
      Patch.assign_apply, if_pos rfl]
    rfl

/-- The other fields that a create sets. -/
lemma created_apply {owner id : ℕ} {now : Time} {patch : Patch MonitorField Stored}
    {f : MonitorField} (hid : f ≠ .id) (howner : f ≠ .userId) :
    schema.created owner id now patch f = (patch f).or (schema.defaults now f) := by
  rw [MonitorSchema.created, Patch.apply, Patch.assign_apply, if_neg hid, Patch.assign_apply,
    if_neg howner]

/-- A filter for an id matches at most one monitor. -/
lemma UniqueIds.countP_le_one (h : UniqueIds docs) (owner id : ℕ) :
    docs.countP (isOwnersMonitor owner id) ≤ 1 := by
  refine countP_le_one_of_uniqueKey h (k := some (.objectId id)) fun d hd => ?_
  rw [isOwnersMonitor, Bool.and_eq_true] at hd
  exact of_decide_eq_true hd.1

/-- **What a request does**: it changes nothing; or it adds a monitor, with an address that its
owner does not monitor yet; or it updates the monitor that it is for. -/
theorem MonitorStep.cases (h : MonitorStep rt schema docs call docs') :
    docs' = docs ∨
      (∃ req id now body url fields patch, call = .create req id now ∧ req.body = some body ∧
        (∀ d ∈ docs, isOwners req.owner d = true →
          d .url ≠ schema.cast .url (normalizeUrl rt url)) ∧
        createFields rt req body url now = .ok fields ∧ schema.castPatch fields = some patch ∧
        (∀ d ∈ docs, d .id ≠ some (.objectId id)) ∧
        docs' = docs ++ [schema.created req.owner id now patch]) ∨
      ∃ req fields patch d, call = .update req ∧ updateFields rt req = .ok fields ∧
        schema.castPatch fields = some patch ∧
        docs.find? (isOwnersMonitor req.owner req.monitorId) = some d ∧
        docs' = updateFirst (isOwnersMonitor req.owner req.monitorId) patch.apply docs := by
  obtain ⟨hnew, rfl⟩ := h
  cases call with
  | create req id now =>
    rcases createMonitorController_cases rt schema req id now docs with
      ⟨err, h⟩ | ⟨body, url, fields, patch, hbody, hurl, hfields, hpatch, h⟩
    · exact .inl (congrArg Prod.snd h)
    · exact .inr (.inl ⟨req, id, now, body, url, fields, patch, rfl, hbody, hurl, hfields, hpatch,
        hnew, congrArg Prod.snd h⟩)
  | update req =>
    rcases updateMonitorController_cases rt schema req docs with
      ⟨err, h⟩ | ⟨fields, patch, d, hfields, hpatch, hfind⟩
    · exact .inl (congrArg Prod.snd h)
    · exact .inr (.inr ⟨req, fields, patch, d, rfl, hfields, hpatch, hfind,
        congrArg Prod.snd (updateMonitorController_of_valid hfields hpatch hfind)⟩)
  | list owner => exact .inl rfl

/-- **Ids are unique.** -/
theorem MonitorStep.uniqueIds (h : MonitorStep rt schema docs call docs') (hids : UniqueIds docs) :
    UniqueIds docs' := by
  rcases h.cases with rfl | ⟨req, id, now, _, _, _, patch, -, -, -, -, -, hnew, rfl⟩ |
    ⟨req, fields, patch, d, -, hfields, hpatch, -, rfl⟩
  · exact hids
  · refine uniqueKey_concat.2 ⟨hids, fun d hd => ?_⟩
    rw [(created_ids req.owner id now patch).1]
    exact hnew d hd
  · refine (uniqueKey_updateFirst_of_eq fun d _ => ?_).2 hids
    exact (castPatch_within hpatch (updateFields_within hfields)).apply_eq (by decide) d

end WatchTower

import WatchTower.Auth.UserController
import WatchTower.Documents.Collection
import WatchTower.Documents.Patch
import WatchTower.Monitors.Crypto

set_option relaxedAutoImplicit false
set_option autoImplicit false

/-!
# The monitor endpoints

Creating and updating a monitor, from `controllers/monitor.controller.js`. `pickWritableFields`
copies the fields that a user may set out of a request body, of which nothing is assumed: it is
any object, with any properties.

What mongoose makes of a value is a parameter: it casts and validates each path by itself, and
rejects an update as a whole.

## Main definitions

* `WatchTower.MonitorField`, `WatchTower.Stored`, `WatchTower.MonitorDoc` — documents by field.
* `WatchTower.Assigned`, `WatchTower.RequestRuntime`, `WatchTower.MonitorSchema` — what an update
  hands over, and what becomes of it.
* `WatchTower.pickWritableFields`, `WatchTower.updateFields`, `WatchTower.createFields`.
* `WatchTower.createMonitorController`, `WatchTower.updateMonitorController`.
* `WatchTower.ownerWritable` — the fields that a user may set.

## Main results

* `WatchTower.pickWritableFields_within`, `WatchTower.castPatch_within` — whatever a request body
  holds, an update sets such fields only.
* `WatchTower.pickWritableFields_authHeaders` — what it sets the headers to.
-/

namespace WatchTower

open Documents Encoding

/-- The paths of `models/monitor.model.js`. -/
inductive MonitorField
  | id
  | userId
  | title
  | name
  | description
  | type
  | url
  | interval
  | timeout
  | status
  | lastCheckStatus
  | lastChecked
  | lastStatusCode
  | timestamp
  | active
  | nextCheckAt
  | authHeaders
  | ignoreTlsErrors
  | failureThreshold
  | successThreshold
  | consecutiveFailures
  | consecutiveSuccesses
  | breakerState
  | breakerOpenedAt
  | breakerRetryAt
  | breakerConsecutiveOpens
  deriving DecidableEq

/-- All paths. -/
def MonitorField.all : List MonitorField :=
  [.id, .userId, .title, .name, .description, .type, .url, .interval, .timeout, .status,
    .lastCheckStatus, .lastChecked, .lastStatusCode, .timestamp, .active, .nextCheckAt,
    .authHeaders, .ignoreTlsErrors, .failureThreshold, .successThreshold, .consecutiveFailures,
    .consecutiveSuccesses, .breakerState, .breakerOpenedAt, .breakerRetryAt,
    .breakerConsecutiveOpens]

/-- These are all. -/
lemma MonitorField.mem_all (f : MonitorField) : f ∈ MonitorField.all := by
  cases f <;> decide

/-- A number of the runtime. -/
inductive JsNumber
  | nan
  | infinite (negative : Bool)
  | finite (q : ℚ)
  deriving DecidableEq

/-- A value in the database. -/
inductive Stored
  | null
  | bool (b : Bool)
  | num (n : JsNumber)
  | str (s : Units)
  | date (t : Time)
  | objectId (id : ℕ)
  deriving DecidableEq

/-- A monitor document, by field. -/
abbrev MonitorDoc := Record MonitorField Stored

/-- A value that an update hands over. -/
inductive Assigned
  /-- As it came with the request. -/
  | json (v : Json)
  /-- A number. -/
  | number (n : JsNumber)
  /-- A string. -/
  | text (s : Units)
  /-- A date. -/
  | date (t : JsDate)
  /-- `null`. -/
  | null

/-- An object with fields of a monitor. -/
abbrev MonitorPatch := Patch MonitorField Assigned

/-- A request body: the values of its properties, `none` for `undefined`. -/
abbrev RequestBody := String → Option Json

/-- The parts of the runtime that a request uses. -/
structure RequestRuntime extends CryptoRuntime where
  /-- `Number(value)`. -/
  toNumber : Json → JsNumber
  /-- `String(value)` of a value that is no string. -/
  ofOther : Json → Units

/-- `String(value)`. -/
def RequestRuntime.string (rt : RequestRuntime) : Json → Units
  | .str s => s
  | v => rt.ofOther v

/-- What mongoose makes of the values of an update, by the schema. -/
structure MonitorSchema where
  /-- What is stored for a value, unless a cast or a validator rejects it. -/
  cast : MonitorField → Assigned → Option Stored
  /-- A string is stored in `authHeaders` as it is. -/
  cast_text : ∀ s, cast .authHeaders (.text s) = some (.str s)
  /-- So is `null`. -/
  cast_null : cast .authHeaders .null = some .null
  /-- The defaults of a new document. -/
  defaults : Time → MonitorDoc
  /-- The default of `authHeaders`. -/
  defaults_authHeaders : ∀ now, defaults now .authHeaders = some .null
  /-- The error of a value that is rejected. -/
  rejection : JsError

/-! ## The writable fields -/

/-- Whether a value counts as true in a condition. -/
def truthy : Option Json → Bool
  | none | some .null => false
  | some (.bool b) => b
  | some (.num q) => q ≠ 0
  | some (.str s) => s ≠ []
  | some (.arr _) | some (.obj _) => true

/-- `a ?? b`. -/
def nullish (a b : Option Json) : Option Json :=
  match a with
  | none | some .null => b
  | a => a

/-- `n || 1`. -/
def JsNumber.orOne : JsNumber → JsNumber
  | .nan => .finite 1
  | .finite q => if q = 0 then .finite 1 else .finite q
  | n => n

/-- `Math.max(1, n)`. -/
def JsNumber.maxOne : JsNumber → JsNumber
  | .nan => .nan
  | .infinite true => .finite 1
  | .infinite false => .infinite false
  | .finite q => .finite (max 1 q)

/-- A threshold of a request, clamped. -/
def clampThreshold (rt : RequestRuntime) (v : Json) : Assigned :=
  .number (rt.toNumber v).orOne.maxOne

/-- The fields of a body that need no encryption. -/
def plainFields (rt : RequestRuntime) (body : RequestBody) : MonitorPatch :=
  let patch : MonitorPatch := Patch.empty
  let patch := patch.assignSome .type ((body "type").map .json)
  let patch := patch.assignSome .title ((nullish (body "title") (body "name")).map .json)
  let patch := patch.assignSome .description ((body "description").map .json)
  let patch := patch.assignSome .interval ((body "interval").map .json)
  let patch := patch.assignSome .timeout ((body "timeout").map .json)
  let patch := patch.assignSome .active ((body "active").map .json)
  let patch := patch.assignSome .ignoreTlsErrors ((body "ignoreTlsErrors").map .json)
  let patch := patch.assignSome .failureThreshold
    ((body "failureThreshold").map (clampThreshold rt))
  patch.assignSome .successThreshold ((body "successThreshold").map (clampThreshold rt))

/-- What the headers of a body are set to: an envelope or `null`, if the body has any. -/
def headersField (rt : RequestRuntime) (key : Option Bytes) (iv : Bytes) :
    Option Json → Except JsError (Option Assigned)
  | none => .ok none
  | some headers =>
    if hasCredentials (some headers) then do
      let envelope ←
        encryptSecret rt.toCryptoRuntime key iv (Json.stringify rt.number headers)
      return some (.text envelope)
    else .ok (some .null)

/-- The fields that a user may set on their own monitor. -/
def pickWritableFields (rt : RequestRuntime) (key : Option Bytes) (iv : Bytes)
    (body : RequestBody) : Except JsError MonitorPatch := do
  let headers ← headersField rt key iv (body "authHeaders")
  return (plainFields rt body).assignSome .authHeaders headers

/-- A code unit in lower case, if it is an ASCII letter. -/
def lowerUnit (u : UInt16) : UInt16 := if 0x41 ≤ u.toNat ∧ u.toNat ≤ 0x5A then u + 0x20 else u

/-- `/^https?:\/\//i`. -/
def hasScheme (s : Units) : Bool :=
  let s := s.map lowerUnit
  (units "http://".toList).isPrefixOf s || (units "https://".toList).isPrefixOf s

/-- `normalizeUrl`. -/
def normalizeUrl (rt : RequestRuntime) (url : Json) : Assigned :=
  if hasScheme (rt.string url) then .json url
  else .text (units "https://".toList ++ rt.string url)

/-- A create or update request, with the key of the process that serves it and the iv that it
draws. -/
structure MonitorRequest where
  /-- `req.user.id`. -/
  owner : ℕ
  /-- `req.params.monitorId`, of an update. -/
  monitorId : ℕ
  /-- `req.body`. -/
  body : Option RequestBody
  /-- `getKey()`. -/
  key : Option Bytes
  /-- `crypto.randomBytes(IV_BYTES)`. -/
  iv : Bytes

/-- The headers of a request. -/
def MonitorRequest.headers (req : MonitorRequest) : Option Json :=
  req.body.bind fun body => body "authHeaders"

/-- The error of a request without a body. -/
def noBodyError : JsError := ⟨"Cannot read properties of undefined (reading 'url')", none⟩

/-- The patch of `updateMonitorController`. -/
def updateFields (rt : RequestRuntime) (req : MonitorRequest) : Except JsError MonitorPatch :=
  match req.body with
  | none => .error noBodyError
  | some body => do
    let patch ← pickWritableFields rt req.key req.iv body
    return patch.assignSome .url
      (if truthy (body "url") then (body "url").map (normalizeUrl rt) else none)

/-- The fields that `createMonitorController` hands over. -/
def createFields (rt : RequestRuntime) (req : MonitorRequest) (body : RequestBody) (url : Json)
    (now : Time) : Except JsError MonitorPatch := do
  let patch ← pickWritableFields rt req.key req.iv body
  return (patch.assign .url (normalizeUrl rt url)).assign .nextCheckAt (.date (newDate now))

/-- The values that are stored for an update, unless one of them is rejected. -/
def MonitorSchema.castPatch (schema : MonitorSchema) (patch : MonitorPatch) :
    Option (Patch MonitorField Stored) :=
  if MonitorField.all.all fun f => (patch f).all fun v => (schema.cast f v).isSome then
    some fun f => (patch f).bind (schema.cast f)
  else none

/-! ## The endpoints -/

/-- A monitor as a query loads it: `authHeaders` is not selected. -/
def selected (d : MonitorDoc) : MonitorDoc := fun f => if f = .authHeaders then none else d f

/-- A monitor as it is returned to a client. -/
structure PublicMonitor where
  /-- The fields, without `authHeaders`. -/
  fields : MonitorDoc
  /-- `hasAuthHeaders`. -/
  hasAuthHeaders : Bool

/-- `present`. -/
def present (d : MonitorDoc) : PublicMonitor where
  fields := selected d
  hasAuthHeaders := match d .authHeaders with
    | some (.str s) => s ≠ []
    | _ => false

/-- Whether a monitor is an owner's. -/
def isOwners (owner : ℕ) (d : MonitorDoc) : Bool := d .userId = some (.objectId owner)

/-- Whether a monitor is the one with an id, within an owner's scope. -/
def isOwnersMonitor (owner id : ℕ) (d : MonitorDoc) : Bool :=
  d .id = some (.objectId id) && isOwners owner d

/-- `updateMonitorController`, on the collection of monitors. -/
def updateMonitorController (rt : RequestRuntime) (schema : MonitorSchema) (req : MonitorRequest)
    (docs : List MonitorDoc) :
    Except Thrown (ApiResponse PublicMonitor) × List MonitorDoc :=
  match updateFields rt req with
  | .error err => (.error (.js err), docs)
  | .ok fields =>
    match schema.castPatch fields with
    | none => (.error (.js schema.rejection), docs)
    | some patch =>
      match docs.find? (isOwnersMonitor req.owner req.monitorId) with
      | none => (.error (.api 404 "Monitor not found"), docs)
      | some d =>
        (.ok ⟨200, present (selected (patch.apply d)), "Monitor updated successfully"⟩,
          updateFirst (isOwnersMonitor req.owner req.monitorId) patch.apply docs)

/-- The document that a create makes. Ownership is stamped by the DAO. -/
def MonitorSchema.created (schema : MonitorSchema) (owner id : ℕ) (now : Time)
    (patch : Patch MonitorField Stored) : MonitorDoc :=
  ((patch.assign .userId (.objectId owner)).assign .id (.objectId id)).apply (schema.defaults now)

/-- `createMonitorController`, for a monitor that gets the id `id`. -/
def createMonitorController (rt : RequestRuntime) (schema : MonitorSchema) (req : MonitorRequest)
    (id : ℕ) (now : Time) (docs : List MonitorDoc) :
    Except Thrown (ApiResponse PublicMonitor) × List MonitorDoc :=
  match req.body with
  | none => (.error (.js (destructureError "url")), docs)
  | some body =>
    match body "url" with
    | none => (.error (.api 400 "URL is required"), docs)
    | some url =>
      if truthy (some url) = false then (.error (.api 400 "URL is required"), docs)
      else if docs.any fun d =>
          isOwners req.owner d && d .url = schema.cast .url (normalizeUrl rt url) then
        (.error (.api 409 "This URL is already being monitored"), docs)
      else
        match createFields rt req body url now with
        | .error _ => (.error (.api 500 "Internal server error"), docs)
        | .ok fields =>
          match schema.castPatch fields with
          | none => (.error (.api 500 "Internal server error"), docs)
          | some patch =>
            (.ok ⟨201, present (schema.created req.owner id now patch),
              "Monitor created successfully"⟩, docs ++ [schema.created req.owner id now patch])

/-! ## The fields that are set -/

/-- The fields that a user may set. -/
def ownerWritable : Set MonitorField :=
  {.type, .title, .description, .interval, .timeout, .active, .ignoreTlsErrors, .failureThreshold,
    .successThreshold, .authHeaders, .url}

instance (f : MonitorField) : Decidable (f ∈ ownerWritable) :=
  inferInstanceAs (Decidable (_ ∨ _))

variable {rt : RequestRuntime} {schema : MonitorSchema} {key : Option Bytes} {iv : Bytes}
  {body : RequestBody} {req : MonitorRequest} {fields : MonitorPatch}

/-- The plain fields are writable ones, and not the headers. -/
lemma plainFields_within (rt : RequestRuntime) (body : RequestBody) :
    (plainFields rt body).Within (ownerWritable \ {.authHeaders}) := by
  unfold plainFields
  iterate 9 refine Patch.Within.assignSome ?_ (by exact ⟨by decide, by decide⟩) _
  exact Patch.within_empty

/-- **What is picked** of a request body, whatever it holds. -/
lemma exists_headers_of_pick (h : pickWritableFields rt key iv body = .ok fields) :
    ∃ headers, headersField rt key iv (body "authHeaders") = .ok headers ∧
      fields = (plainFields rt body).assignSome .authHeaders headers := by
  obtain ⟨headers, hheaders, hfields⟩ := exists_of_bind_eq_ok h
  exact ⟨headers, hheaders, (Except.ok.inj hfields).symm⟩

/-- **Only writable fields are picked.** -/
theorem pickWritableFields_within (h : pickWritableFields rt key iv body = .ok fields) :
    fields.Within ownerWritable := by
  obtain ⟨headers, -, rfl⟩ := exists_headers_of_pick h
  have hplain : (plainFields rt body).Within ownerWritable := fun f hf =>
    plainFields_within rt body f fun hmem => hf hmem.1
  exact hplain.assignSome (by decide) headers

/-- The headers that are picked. -/
lemma pickWritableFields_authHeaders (h : pickWritableFields rt key iv body = .ok fields) :
    headersField rt key iv (body "authHeaders") = .ok (fields .authHeaders) := by
  obtain ⟨headers, hheaders, rfl⟩ := exists_headers_of_pick h
  rw [hheaders]
  cases headers with
  | none =>
    have hplain := plainFields_within rt body .authHeaders fun hmem => hmem.2 rfl
    rw [Patch.assignSome, hplain]
  | some v => rw [Patch.assignSome, Patch.assign, Function.update_self]

/-- **An update sets writable fields only.** -/
theorem updateFields_within (h : updateFields rt req = .ok fields) :
    fields.Within ownerWritable := by
  unfold updateFields at h
  split at h
  · cases h
  · obtain ⟨patch, hpick, hfields⟩ := exists_of_bind_eq_ok h
    rw [← Except.ok.inj hfields]
    exact (pickWritableFields_within hpick).assignSome (by decide) _

/-- The headers that an update sets. -/
lemma updateFields_authHeaders (h : updateFields rt req = .ok fields) :
    headersField rt req.key req.iv req.headers = .ok (fields .authHeaders) := by
  unfold updateFields at h
  split at h
  · cases h
  · rename_i body hbody
    obtain ⟨patch, hpick, hfields⟩ := exists_of_bind_eq_ok h
    rw [← Except.ok.inj hfields, Patch.assignSome_apply, if_neg (by decide), MonitorRequest.headers,
      hbody, Option.bind_some, pickWritableFields_authHeaders hpick]

/-- The headers that a create sets. -/
lemma createFields_authHeaders {url : Json} {now : Time} (hbody : req.body = some body)
    (h : createFields rt req body url now = .ok fields) :
    headersField rt req.key req.iv req.headers = .ok (fields .authHeaders) := by
  obtain ⟨patch, hpick, hfields⟩ := exists_of_bind_eq_ok h
  rw [← Except.ok.inj hfields, Patch.assign_apply, if_neg (by decide), Patch.assign_apply,
    if_neg (by decide), MonitorRequest.headers, hbody, Option.bind_some,
    pickWritableFields_authHeaders hpick]

/-- The address that an update sets. -/
lemma updateFields_url (hbody : req.body = some body) (h : updateFields rt req = .ok fields) :
    fields .url = if truthy (body "url") then (body "url").map (normalizeUrl rt) else none := by
  unfold updateFields at h
  rw [hbody] at h
  obtain ⟨patch, hpick, hfields⟩ := exists_of_bind_eq_ok h
  have hnone : patch .url = none := by
    obtain ⟨headers, -, rfl⟩ := exists_headers_of_pick hpick
    rw [Patch.assignSome_apply, if_neg (by decide)]
    simp [plainFields]
  rw [← Except.ok.inj hfields, Patch.assignSome_apply, if_pos rfl, hnone, Option.or_none]

/-- The address that a create sets. -/
lemma createFields_url {url : Json} {now : Time}
    (h : createFields rt req body url now = .ok fields) :
    fields .url = some (normalizeUrl rt url) := by
  obtain ⟨patch, -, hfields⟩ := exists_of_bind_eq_ok h
  rw [← Except.ok.inj hfields, Patch.assign_apply, if_neg (by decide), Patch.assign_apply,
    if_pos rfl]

/-- What is stored for the fields of an update. -/
lemma castPatch_apply {patch : Patch MonitorField Stored} (h : schema.castPatch fields = some patch)
    (f : MonitorField) : patch f = (fields f).bind (schema.cast f) := by
  unfold MonitorSchema.castPatch at h
  split_ifs at h
  rw [← Option.some.inj h]

/-- A value that is set is stored. -/
lemma castPatch_eq_cast {patch : Patch MonitorField Stored}
    (h : schema.castPatch fields = some patch) {f : MonitorField} {v : Assigned}
    (hv : fields f = some v) :
    ∃ stored, schema.cast f v = some stored ∧ patch f = some stored := by
  have hpatch := castPatch_apply h f
  unfold MonitorSchema.castPatch at h
  split_ifs at h with hall
  have hf := List.all_eq_true.1 hall f (MonitorField.mem_all f)
  rw [hv, Option.all_some] at hf
  obtain ⟨stored, hstored⟩ := Option.isSome_iff_exists.1 hf
  exact ⟨stored, hstored, by rw [hpatch, hv, Option.bind_some, hstored]⟩

/-- Casting keeps to the same fields. -/
lemma castPatch_within {S : Set MonitorField} {patch : Patch MonitorField Stored}
    (h : schema.castPatch fields = some patch) (hfields : fields.Within S) : patch.Within S := by
  intro f hf
  rw [castPatch_apply h, hfields f hf, Option.bind_none]

/-! ## What the endpoints do -/

variable {docs : List MonitorDoc}

/-- An update with valid fields of a monitor that is found. -/
lemma updateMonitorController_of_valid {patch : Patch MonitorField Stored} {d : MonitorDoc}
    (hfields : updateFields rt req = .ok fields) (hpatch : schema.castPatch fields = some patch)
    (hfind : docs.find? (isOwnersMonitor req.owner req.monitorId) = some d) :
    updateMonitorController rt schema req docs =
      (.ok ⟨200, present (selected (patch.apply d)), "Monitor updated successfully"⟩,
        updateFirst (isOwnersMonitor req.owner req.monitorId) patch.apply docs) := by
  unfold updateMonitorController
  rw [hfields]
  dsimp only
  rw [hpatch, hfind]

/-- **An update** fails and writes nothing, or updates the monitor that it finds. -/
theorem updateMonitorController_cases (rt : RequestRuntime) (schema : MonitorSchema)
    (req : MonitorRequest) (docs : List MonitorDoc) :
    (∃ err, updateMonitorController rt schema req docs = (.error err, docs)) ∨
      ∃ fields patch d, updateFields rt req = .ok fields ∧ schema.castPatch fields = some patch ∧
        docs.find? (isOwnersMonitor req.owner req.monitorId) = some d := by
  unfold updateMonitorController
  cases hfields : updateFields rt req with
  | error err => exact .inl ⟨_, rfl⟩
  | ok fields =>
    dsimp only
    cases hpatch : schema.castPatch fields with
    | none => exact .inl ⟨_, rfl⟩
    | some patch =>
      cases hfind : docs.find? (isOwnersMonitor req.owner req.monitorId) with
      | none => exact .inl ⟨_, rfl⟩
      | some d => exact .inr ⟨fields, patch, d, rfl, hpatch, rfl⟩

/-- **A create** fails and writes nothing, or adds a monitor with an address that its owner does not
monitor yet. -/
theorem createMonitorController_cases (rt : RequestRuntime) (schema : MonitorSchema)
    (req : MonitorRequest) (id : ℕ) (now : Time) (docs : List MonitorDoc) :
    (∃ err, createMonitorController rt schema req id now docs = (.error err, docs)) ∨
      ∃ body url fields patch, req.body = some body ∧
        (∀ d ∈ docs, isOwners req.owner d = true →
          d .url ≠ schema.cast .url (normalizeUrl rt url)) ∧
        createFields rt req body url now = .ok fields ∧ schema.castPatch fields = some patch ∧
        createMonitorController rt schema req id now docs =
          (.ok ⟨201, present (schema.created req.owner id now patch),
            "Monitor created successfully"⟩, docs ++ [schema.created req.owner id now patch]) := by
  unfold createMonitorController
  cases hbody : req.body with
  | none => exact .inl ⟨_, rfl⟩
  | some body =>
    dsimp only
    cases hurl : body "url" with
    | none => exact .inl ⟨_, rfl⟩
    | some url =>
      dsimp only
      split_ifs with htruthy hfound
      · exact .inl ⟨_, rfl⟩
      · exact .inl ⟨_, rfl⟩
      · cases hfields : createFields rt req body url now with
        | error err => exact .inl ⟨_, rfl⟩
        | ok fields =>
          dsimp only
          cases hpatch : schema.castPatch fields with
          | none => exact .inl ⟨_, rfl⟩
          | some patch =>
            refine .inr ⟨body, url, fields, patch, rfl, fun d hd howner hurl => hfound ?_, hfields,
              hpatch, rfl⟩
            exact List.any_eq_true.2 ⟨d, hd, by simp [howner, hurl]⟩

end WatchTower

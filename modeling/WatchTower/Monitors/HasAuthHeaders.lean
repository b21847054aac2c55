import WatchTower.Monitors.Endpoints
import WatchTower.Monitors.StoredCredentials

set_option relaxedAutoImplicit false
set_option autoImplicit false

/-!
# The flag `hasAuthHeaders`

A monitor is returned without its stored headers, and with a flag that says whether there are any.
The flag is taken from the document at hand. A new document has its headers, but a query does not
select them, so in the answers to list and update requests the flag is always false.

## Main definitions

* `WatchTower.headersStored` — headers are stored for a monitor.
* `WatchTower.Truthful` — the flags of an answer are right.
* `WatchTower.MonitorCall.NoneStored` — no monitor in an answer that comes from a query has headers.

## Main results

* `WatchTower.headersField_cases` — what the headers of a request are stored as.
* `WatchTower.truthful_iff` — the flags are right in every answer exactly when none of the monitors
  that are loaded by queries has headers.
-/

namespace WatchTower

open Documents Encoding Transition

/-- Headers are stored for a monitor: `authHeaders` is not `null`. -/
def headersStored (d : MonitorDoc) : Bool :=
  match d .authHeaders with
  | none | some .null => false
  | some _ => true

variable (rt : RequestRuntime) (schema : MonitorSchema)

/-- **The flags of an answer are right**: each monitor in it is one that is stored then, the answer
does not hold its headers, and says whether there are any. -/
def Truthful (docs : List MonitorDoc) (call : MonitorCall) (docs' : List MonitorDoc) : Prop :=
  ∀ m ∈ (call.serve rt schema docs).1, m.fields .authHeaders = none ∧
    ∃ d ∈ docs', d .id = m.fields .id ∧ (m.hasAuthHeaders = true ↔ headersStored d = true)

/-- After an update no headers are stored: it clears them, or it does not set them and there are
none. -/
def MonitorRequest.LeavesNone (req : MonitorRequest) (d : MonitorDoc) : Prop :=
  match req.headers with
  | none => headersStored d = false
  | some headers => hasCredentials (some headers) = false

/-- No monitor in an answer that comes from a query has headers: the owner who lists has stored
none, and a valid update leaves none. -/
def MonitorCall.NoneStored (docs : List MonitorDoc) : MonitorCall → Prop
  | .create _ _ _ => True
  | .update req => req.Valid rt schema →
    ∀ d, docs.find? (isOwnersMonitor req.owner req.monitorId) = some d → req.LeavesNone d
  | .list owner => ∀ d ∈ docs, isOwners owner d = true → headersStored d = false

variable {rt schema} {docs docs' : List MonitorDoc} {call : MonitorCall} {req : MonitorRequest}
  {d : MonitorDoc}

/-! ## Stored headers -/

/-- **What the headers of a request are stored as**: they are left as they are, or cleared, or they
are an envelope. -/
lemma headersField_cases {key : Option Bytes} {iv : Bytes} {headers : Option Json}
    {v : Option Assigned} (h : headersField rt key iv headers = .ok v) :
    headers = none ∧ v = none ∨
      (∃ given, headers = some given ∧ hasCredentials (some given) = false ∧ v = some .null) ∨
      ∃ given envelope, headers = some given ∧ hasCredentials (some given) = true ∧
        envelope ≠ [] ∧ v = some (.text envelope) := by
  cases headers with
  | none => exact .inl ⟨rfl, (Except.ok.inj h).symm⟩
  | some given =>
    right
    unfold headersField at h
    dsimp only at h
    split_ifs at h with hcredentials
    · obtain ⟨envelope, hencrypt, hv⟩ := exists_of_bind_eq_ok h
      refine .inr ⟨given, envelope, rfl, hcredentials, ?_, (Except.ok.inj hv).symm⟩
      cases key with
      | none => cases hencrypt
      | some key =>
        rw [← Except.ok.inj hencrypt]
        exact envelopeOf_ne_nil _ _ _
    · exact .inl ⟨given, rfl, Bool.eq_false_iff.2 hcredentials, (Except.ok.inj h).symm⟩

/-- Stored headers are `null` or a text that is not empty. -/
def HeadersNullOrText (d : MonitorDoc) : Prop :=
  d .authHeaders = some .null ∨ ∃ s, s ≠ [] ∧ d .authHeaders = some (.str s)

/-- The flag of a document that has its headers is right. -/
lemma present_hasAuthHeaders (h : HeadersNullOrText d) :
    (present d).hasAuthHeaders = headersStored d := by
  rcases h with h | ⟨s, hs, h⟩
  · rw [present, headersStored, h]
  · simp [present, headersStored, h, hs]

/-- The flag of a document from a query is false. -/
lemma present_selected_hasAuthHeaders (d : MonitorDoc) :
    (present (selected d)).hasAuthHeaders = false := rfl

/-- What the headers are after the fields of a request have been written to a document. -/
lemma headers_after {fields : MonitorPatch} {patch : Patch MonitorField Stored}
    (hfields : headersField rt req.key req.iv req.headers = .ok (fields .authHeaders))
    (hpatch : schema.castPatch fields = some patch) (hd : HeadersNullOrText d) :
    HeadersNullOrText (patch.apply d) ∧
      (headersStored (patch.apply d) = false ↔ req.LeavesNone d) := by
  rw [HeadersNullOrText, headersStored, MonitorRequest.LeavesNone, Patch.apply,
    castPatch_apply hpatch]
  rcases headersField_cases hfields with ⟨hnone, hv⟩ | ⟨given, hgiven, hcredentials, hv⟩ |
    ⟨given, envelope, hgiven, hcredentials, henvelope, hv⟩
  · rw [hnone, hv]
    exact ⟨hd, Iff.rfl⟩
  · rw [hgiven, hv, Option.bind_some, schema.cast_null]
    exact ⟨.inl rfl, iff_of_true rfl hcredentials⟩
  · rw [hgiven, hv, Option.bind_some, schema.cast_text]
    refine ⟨.inr ⟨envelope, henvelope, rfl⟩, iff_of_false Bool.noConfusion ?_⟩
    dsimp only
    rw [hcredentials]
    exact Bool.noConfusion

/-- A new document has the headers of its request. -/
lemma headers_created {fields : MonitorPatch} {patch : Patch MonitorField Stored}
    (hfields : headersField rt req.key req.iv req.headers = .ok (fields .authHeaders))
    (hpatch : schema.castPatch fields = some patch) (owner id : ℕ) (now : Time) :
    HeadersNullOrText (schema.created owner id now patch) := by
  have hdefaults : HeadersNullOrText (schema.defaults now) := .inl (schema.defaults_authHeaders now)
  have hafter := (headers_after hfields hpatch hdefaults).1
  rw [HeadersNullOrText, Patch.apply] at hafter
  rwa [HeadersNullOrText, created_apply (by decide) (by decide)]

/-- **What holds between requests**: ids are unique, and stored headers are `null` or a text. -/
structure HeadersKept (docs : List MonitorDoc) : Prop where
  ids : UniqueIds docs
  headers : ∀ d ∈ docs, HeadersNullOrText d

/-- The monitor that an update is for is one of the collection. -/
lemma exists_mem_of_find {owner id : ℕ} (h : docs.find? (isOwnersMonitor owner id) = some d) :
    d ∈ docs ∧ isOwnersMonitor owner id d = true :=
  ⟨List.mem_of_find?_eq_some h, List.find?_some h⟩

/-- Every request keeps it. -/
lemma HeadersKept.step (hdocs : HeadersKept docs) (h : MonitorStep rt schema docs call docs') :
    HeadersKept docs' := by
  refine ⟨h.uniqueIds hdocs.ids, ?_⟩
  rcases h.cases with rfl | ⟨req, id, now, body, _, fields, patch, -, hbody, -, hfields, hpatch, -,
    rfl⟩ | ⟨req, fields, patch, d, -, hfields, hpatch, hfind, rfl⟩
  · exact hdocs.headers
  · intro d hd
    rcases List.mem_append.1 hd with hd | hd
    · exact hdocs.headers d hd
    · obtain rfl := List.mem_singleton.1 hd
      exact headers_created (createFields_authHeaders hbody hfields) hpatch _ _ _
  · intro d' hd'
    obtain ⟨hmem, howners⟩ := exists_mem_of_find hfind
    rcases (mem_updateFirst_iff (hdocs.ids.countP_le_one _ _) hmem howners).1 hd' with
      rfl | ⟨hd', -⟩
    · exact (headers_after (updateFields_authHeaders hfields) hpatch (hdocs.headers d hmem)).1
    · exact hdocs.headers d' hd'

/-! ## The answers -/

/-- The answer to a create has the right flag. -/
lemma truthful_create (req : MonitorRequest) (id : ℕ) (now : Time)
    (hdocs' : docs' = ((MonitorCall.create req id now).serve rt schema docs).2) :
    Truthful rt schema docs (.create req id now) docs' := by
  rcases createMonitorController_cases rt schema req id now docs with
    ⟨err, h⟩ | ⟨body, url, fields, patch, hbody, -, hfields, hpatch, h⟩
  · intro m hm
    rw [MonitorCall.serve, h] at hm
    cases hm
  · intro m hm
    rw [MonitorCall.serve, h] at hm hdocs'
    obtain rfl := List.mem_singleton.1 hm
    have hheaders :=
      headers_created (createFields_authHeaders hbody hfields) hpatch req.owner id now
    refine ⟨rfl, schema.created req.owner id now patch, ?_, rfl, ?_⟩
    · rw [hdocs']
      exact List.mem_append_right _ (List.mem_singleton_self _)
    · exact Bool.eq_iff_iff.1 (present_hasAuthHeaders hheaders)

/-- A monitor that a query loads is returned with the right flag exactly when it has no headers. -/
lemma flag_iff (hids : UniqueIds docs) (hmem : d ∈ docs) :
    (∃ d' ∈ docs, d' .id = (present (selected d)).fields .id ∧
      ((present (selected d)).hasAuthHeaders = true ↔ headersStored d' = true)) ↔
      headersStored d = false := by
  rw [present_selected_hasAuthHeaders]
  constructor
  · rintro ⟨d', hmem', hid, hflag⟩
    obtain rfl : d' = d := List.inj_on_of_nodup_map hids hmem' hmem hid
    exact Bool.eq_false_iff.2 fun h => Bool.noConfusion (hflag.2 h)
  · intro h
    refine ⟨d, hmem, rfl, ?_⟩
    rw [h]

/-- The answer to an update has the right flag exactly when no headers are left. -/
lemma truthful_update_iff (hdocs : HeadersKept docs) (req : MonitorRequest)
    (hdocs' : docs' = ((MonitorCall.update req).serve rt schema docs).2)
    (hids' : UniqueIds docs') :
    Truthful rt schema docs (.update req) docs' ↔
      (MonitorCall.update req).NoneStored rt schema docs := by
  by_cases hvalid : req.Valid rt schema ∧
      ∃ d, docs.find? (isOwnersMonitor req.owner req.monitorId) = some d
  · obtain ⟨⟨fields, patch, hfields, hpatch⟩, d, hfind⟩ := hvalid
    obtain ⟨hmem, howners⟩ := exists_mem_of_find hfind
    have hserve := serve_update_of_valid hfields hpatch hfind
    rw [hserve] at hdocs'
    have hupdated : patch.apply d ∈ docs' := by
      rw [hdocs']
      exact (mem_updateFirst_iff (hdocs.ids.countP_le_one _ _) hmem howners).2 (.inl rfl)
    have hafter := (headers_after (updateFields_authHeaders hfields) hpatch
      (hdocs.headers d hmem)).2
    rw [Truthful, hserve, MonitorCall.NoneStored, hfind]
    constructor
    · intro h _ d' hd'
      cases hd'
      exact hafter.1 ((flag_iff hids' hupdated).1 (h _ (List.mem_singleton_self _)).2)
    · intro h m hm
      obtain rfl := List.mem_singleton.1 hm
      exact ⟨rfl, (flag_iff hids' hupdated).2 (hafter.2 (h ⟨fields, patch, hfields, hpatch⟩ d rfl))⟩
  · refine iff_of_true ?_ fun hv d hfind => absurd ⟨hv, d, hfind⟩ hvalid
    rw [Truthful, serve_update_of_invalid hvalid]
    exact List.forall_mem_nil _

/-- The answer to a list request has the right flags exactly when its owner has stored none. -/
lemma truthful_list_iff (hids : UniqueIds docs) (owner : ℕ) :
    Truthful rt schema docs (.list owner) docs ↔
      (MonitorCall.list owner).NoneStored rt schema docs := by
  constructor
  · intro h d hmem howner
    have hlisted : present (selected d) ∈ ((MonitorCall.list owner).serve rt schema docs).1 :=
      List.mem_map_of_mem (List.mem_map_of_mem (List.mem_filter.2 ⟨hmem, howner⟩))
    exact (flag_iff hids hmem).1 (h _ hlisted).2
  · intro h m hm
    obtain ⟨loaded, hloaded, rfl⟩ := List.mem_map.1 hm
    obtain ⟨d, hd, rfl⟩ := List.mem_map.1 hloaded
    obtain ⟨hmem, howner⟩ := List.mem_filter.1 hd
    exact ⟨rfl, (flag_iff hids hmem).2 (h d hmem howner)⟩

/-- **The flags are right in every answer** exactly when no monitor in an answer that comes from a
query has stored headers. -/
theorem truthful_iff (rt : RequestRuntime) (schema : MonitorSchema) (calls : List MonitorCall) :
    AllSteps (MonitorStep rt schema) (Truthful rt schema) [] calls ↔
      AllSteps (MonitorStep rt schema) (fun docs call _ => call.NoneStored rt schema docs) []
        calls := by
  have hempty : HeadersKept [] := ⟨uniqueKey_nil, List.forall_mem_nil _⟩
  refine allSteps_iff (fun docs call docs' hdocs hstep => ?_)
    (fun docs call docs' hdocs hstep _ => hdocs.step hstep) hempty calls
  cases call with
  | create req id now => exact iff_of_true (truthful_create req id now hstep.2) trivial
  | update req => exact truthful_update_iff hdocs req hstep.2 (hstep.uniqueIds hdocs.ids)
  | list owner =>
    rw [hstep.2]
    exact truthful_list_iff hdocs.ids owner

/-- A create request with headers, and then a list request: the monitor is listed as one without. -/
theorem sampleMonitorRequest_not_truthful :
    ¬AllSteps (MonitorStep sampleCrypto sampleSchema) (Truthful sampleCrypto sampleSchema) []
      [.create sampleMonitorRequest 1 0, .list 1] := by
  intro h
  have hcreate : MonitorStep sampleCrypto sampleSchema [] (.create sampleMonitorRequest 1 0) _ :=
    ⟨List.forall_mem_nil _, rfl⟩
  have hlist := (allSteps_cons.1 (allSteps_cons.1 h _ hcreate).2 _ ⟨trivial, rfl⟩).1
  have hids := hcreate.uniqueIds uniqueKey_nil
  have hnone := (truthful_list_iff hids 1).1 hlist _ (List.mem_singleton_self _) rfl
  revert hnone
  decide

end WatchTower

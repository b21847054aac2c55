import WatchTower.Monitors.Endpoints
import WatchTower.Monitors.StoredCredentials

set_option relaxedAutoImplicit false
set_option autoImplicit false

/-!
# One monitor for each address

A create looks for the normalised address among the monitors of the owner, and refuses it if it is
there. An update that sets the address does not look.

## Main definitions

* `WatchTower.UniqueUrls` — no owner has two monitors with the same stored address.
* `WatchTower.MonitorCall.SetsFreeUrl` — an update sets no address that another monitor has.

## Main results

* `WatchTower.uniqueUrls_step_iff` — what one request does to the addresses.
* `WatchTower.uniqueUrls_iff` — addresses stay unique exactly when updates set free ones.
-/

namespace WatchTower

open Documents Encoding Transition

/-- The owner of a monitor, and its address. -/
def ownerUrl (d : MonitorDoc) : Option Stored × Option Stored := (d .userId, d .url)

/-- **No owner has two monitors with the same stored address.** -/
def UniqueUrls (docs : List MonitorDoc) : Prop := UniqueKey ownerUrl docs

variable (rt : RequestRuntime) (schema : MonitorSchema)

/-- The address that an update request sets, if it does. -/
def MonitorRequest.newUrl (req : MonitorRequest) : Option Json :=
  req.body.bind fun body => if truthy (body "url") then body "url" else none

/-- A valid update sets no address that another monitor of the owner has. -/
def MonitorCall.SetsFreeUrl (docs : List MonitorDoc) : MonitorCall → Prop
  | .create _ _ _ => True
  | .update req => req.Valid rt schema → ∀ url, req.newUrl = some url →
    (docs.find? (isOwnersMonitor req.owner req.monitorId)).isSome →
    ∀ d ∈ docs, isOwners req.owner d = true → d .id ≠ some (.objectId req.monitorId) →
      d .url ≠ schema.cast .url (normalizeUrl rt url)
  | .list _ => True

variable {rt schema} {docs docs' : List MonitorDoc} {call : MonitorCall} {req : MonitorRequest}
  {fields : MonitorPatch} {patch : Patch MonitorField Stored}

/-- The address that an update sets. -/
lemma updateFields_newUrl (h : updateFields rt req = .ok fields) :
    fields .url = req.newUrl.map (normalizeUrl rt) := by
  cases hbody : req.body with
  | none =>
    rw [updateFields, hbody] at h
    cases h
  | some body =>
    rw [updateFields_url hbody h, MonitorRequest.newUrl, hbody, Option.bind_some]
    split_ifs <;> rfl

/-- A create adds a free address. -/
lemma uniqueUrls_create {body : RequestBody} {url : Json} {id : ℕ} {now : Time}
    (hurls : UniqueUrls docs)
    (hfree : ∀ d ∈ docs, isOwners req.owner d = true →
      d .url ≠ schema.cast .url (normalizeUrl rt url))
    (hfields : createFields rt req body url now = .ok fields)
    (hpatch : schema.castPatch fields = some patch) :
    UniqueUrls (docs ++ [schema.created req.owner id now patch]) := by
  obtain ⟨stored, hcast, hstored⟩ := castPatch_eq_cast hpatch (createFields_url hfields)
  have hurl : schema.created req.owner id now patch .url = some stored := by
    rw [created_apply (by decide) (by decide), hstored, Option.some_or]
  refine uniqueKey_concat.2 ⟨hurls, fun d hd heq => ?_⟩
  rw [ownerUrl, ownerUrl, (created_ids req.owner id now patch).2, hurl, Prod.mk.injEq] at heq
  exact hfree d hd (decide_eq_true heq.1) (heq.2.trans hcast.symm)

/-- An update that does not set the address keeps all addresses. -/
lemma uniqueUrls_update_of_none (hfields : updateFields rt req = .ok fields)
    (hpatch : schema.castPatch fields = some patch) (hnone : req.newUrl = none) :
    UniqueUrls (updateFirst (isOwnersMonitor req.owner req.monitorId) patch.apply docs) ↔
      UniqueUrls docs := by
  refine uniqueKey_updateFirst_of_eq fun d _ => ?_
  have howner := (castPatch_within hpatch (updateFields_within hfields)).apply_eq
    (f := .userId) (by decide) d
  have hurl : patch .url = none := by
    rw [castPatch_apply hpatch, updateFields_newUrl hfields, hnone]
    rfl
  rw [ownerUrl, ownerUrl, howner, Patch.apply, hurl, Option.none_or]

/-- An update that sets it keeps addresses unique exactly when the new one is free. -/
lemma uniqueUrls_update_iff {d : MonitorDoc} {url : Json} (hids : UniqueIds docs)
    (hurls : UniqueUrls docs) (hfields : updateFields rt req = .ok fields)
    (hpatch : schema.castPatch fields = some patch)
    (hfind : docs.find? (isOwnersMonitor req.owner req.monitorId) = some d)
    (hnew : req.newUrl = some url) :
    UniqueUrls (updateFirst (isOwnersMonitor req.owner req.monitorId) patch.apply docs) ↔
      ∀ d ∈ docs, isOwners req.owner d = true → d .id ≠ some (.objectId req.monitorId) →
        d .url ≠ schema.cast .url (normalizeUrl rt url) := by
  have hmem : d ∈ docs := List.mem_of_find?_eq_some hfind
  have howners : isOwnersMonitor req.owner req.monitorId d = true := List.find?_some hfind
  have hwithin := castPatch_within hpatch (updateFields_within hfields)
  obtain ⟨stored, hcast, hstored⟩ := castPatch_eq_cast (v := normalizeUrl rt url) hpatch
    (by rw [updateFields_newUrl hfields, hnew]; rfl)
  have hkey : ownerUrl (patch.apply d) = (some (.objectId req.owner), some stored) := by
    rw [isOwnersMonitor, Bool.and_eq_true] at howners
    rw [ownerUrl, hwithin.apply_eq (by decide), of_decide_eq_true howners.2, Patch.apply, hstored,
      Option.some_or]
  rw [UniqueUrls, uniqueKey_updateFirst_iff hurls (hids.countP_le_one _ _) hmem howners, hkey,
    hcast]
  refine forall₂_congr fun d' _ => ?_
  simp only [isOwnersMonitor, isOwners, ownerUrl, Prod.mk.injEq, Ne, Bool.and_eq_false_iff,
    decide_eq_false_iff_not, decide_eq_true_eq]
  tauto

/-- **What holds between requests**, as long as addresses stay unique. -/
structure UrlsKept (docs : List MonitorDoc) : Prop where
  ids : UniqueIds docs
  urls : UniqueUrls docs

/-- **What one request does to the addresses**: they stay unique exactly when it is no update, or
one that sets a free address, or none. -/
lemma uniqueUrls_step_iff (hdocs : UrlsKept docs) (h : MonitorStep rt schema docs call docs') :
    UniqueUrls docs' ↔ call.SetsFreeUrl rt schema docs := by
  obtain ⟨hids, hurls⟩ := hdocs
  cases call with
  | create req id now =>
    refine iff_of_true ?_ trivial
    rcases h.cases with rfl |
      ⟨_, _, _, body, url, fields, patch, hcall, -, hfree, hfields, hpatch, -, rfl⟩ |
      ⟨_, _, _, _, hcall, -⟩
    · exact hurls
    · cases hcall
      exact uniqueUrls_create hurls hfree hfields hpatch
    · cases hcall
  | update req =>
    by_cases hvalid : req.Valid rt schema ∧
        ∃ d, docs.find? (isOwnersMonitor req.owner req.monitorId) = some d
    · obtain ⟨⟨fields, patch, hfields, hpatch⟩, d, hfind⟩ := hvalid
      rw [h.2, serve_update_of_valid hfields hpatch hfind, MonitorCall.SetsFreeUrl]
      cases hnew : req.newUrl with
      | none =>
        refine iff_of_true ((uniqueUrls_update_of_none hfields hpatch hnew).2 hurls) ?_
        intro _ url hurl
        cases hurl
      | some url =>
        have hiff := uniqueUrls_update_iff hids hurls hfields hpatch hfind hnew
        constructor
        · rintro hunique - _ ⟨⟩ -
          exact hiff.1 hunique
        · intro hfree
          exact hiff.2 (hfree ⟨fields, patch, hfields, hpatch⟩ url rfl (by rw [hfind]; rfl))
    · rw [h.2, serve_update_of_invalid hvalid]
      refine iff_of_true hurls fun hv _ _ hfound => absurd ⟨hv, ?_⟩ hvalid
      exact Option.isSome_iff_exists.1 hfound
  | list owner =>
    rw [h.2]
    exact iff_of_true hurls trivial

/-- **Addresses stay unique** exactly when no valid update sets an address that another monitor of
the owner has. -/
theorem uniqueUrls_iff (rt : RequestRuntime) (schema : MonitorSchema) (calls : List MonitorCall) :
    AllSteps (MonitorStep rt schema) (fun _ _ docs' => UniqueUrls docs') [] calls ↔
      AllSteps (MonitorStep rt schema) (fun docs call _ => call.SetsFreeUrl rt schema docs) []
        calls := by
  have hempty : UrlsKept [] := ⟨uniqueKey_nil, uniqueKey_nil⟩
  refine allSteps_iff (fun docs call docs' hdocs hstep => ?_)
    (fun docs call docs' hdocs hstep hfree => ?_) hempty calls
  · exact uniqueUrls_step_iff hdocs hstep
  · exact ⟨hstep.uniqueIds hdocs.ids, (uniqueUrls_step_iff hdocs hstep).2 hfree⟩

/-- A request for an address, without headers. -/
def addressRequest (monitorId : ℕ) (url : String) : MonitorRequest where
  owner := 1
  monitorId := monitorId
  body := some fun name => if name = "url" then some (.str (units url.toList)) else none
  key := none
  iv := []

/-- The second monitor is given the address of the first, spelled without its scheme. -/
theorem addressRequest_not_uniqueUrls :
    ¬AllSteps (MonitorStep sampleCrypto sampleSchema) (fun _ _ docs' => UniqueUrls docs') []
      [.create (addressRequest 0 "https://a.b") 1 0, .create (addressRequest 0 "https://c.d") 2 0,
        .update (addressRequest 2 "a.b")] := by
  intro h
  have hsecond := (allSteps_cons.1 h _ ⟨List.forall_mem_nil _, rfl⟩).2
  have hthird := (allSteps_cons.1 hsecond _ ⟨by unfold MonitorCall.HasNewId; decide, rfl⟩).2
  have hunique := (allSteps_cons.1 hthird _ ⟨trivial, rfl⟩).1
  unfold UniqueUrls UniqueKey at hunique
  revert hunique
  decide

end WatchTower

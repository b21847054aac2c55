import WatchTower.Monitors.WritableFields
import WatchTower.Scheduler.RunCheck

set_option relaxedAutoImplicit false
set_option autoImplicit false

/-!
# Stored credentials

The headers of a request are encrypted when they are stored, and decrypted when a check uses them.
The cipher is relied on for the encryptions that the requests have made: these decrypt under their
key, and nothing else does. Everything around it has to be inverted: JSON, UTF-8, base64 and the
envelope.

## Main definitions

* `WatchTower.AcceptedHeaders` — what the validator lets through.
* `WatchTower.MonitorRequest.encryptions` — what a request encrypts.
* `WatchTower.Stores` — a request has created or updated a monitor.
* `WatchTower.credentialEnv` — the headers that a check sends.
* `WatchTower.CredentialsRoundTrip` — what is asked of the stored headers.

## Main results

* `WatchTower.decryptAuthHeaders_cases` — whatever text is decrypted, nothing is thrown, and the
  result is empty or the headers of a request.
* `WatchTower.credentialsRoundTrip` — the headers that are stored are those that a check gets.
-/

namespace WatchTower

open Documents Encoding

/-- What the validator lets through as `authHeaders`: a record of strings, `null`, or nothing. -/
inductive AcceptedHeaders : Option Json → Prop
  | absent : AcceptedHeaders none
  | null : AcceptedHeaders (some .null)
  | map {m : List (Units × Units)} : (m.map Prod.fst).Nodup → AcceptedHeaders (some (.record m))

/-- What a request encrypts, once it picks its fields. -/
def MonitorRequest.encryptions (rt : RequestRuntime) (req : MonitorRequest) : List Encryption :=
  match req.key, req.headers with
  | some key, some headers =>
    if hasCredentials (some headers) then
      [⟨key, req.iv, Utf8.encode (Json.stringify rt.number headers)⟩]
    else []
  | _, _ => []

/-- A request has created or updated a monitor, which is `d` then. -/
inductive Stores (rt : RequestRuntime) (schema : MonitorSchema) (req : MonitorRequest)
    (d : MonitorDoc) : Prop
  | create (id : ℕ) (now : Time) (docs : List MonitorDoc) (response : ApiResponse PublicMonitor) :
      createMonitorController rt schema req id now docs = (.ok response, docs ++ [d]) →
      Stores rt schema req d
  | update (docs docs' : List MonitorDoc) (response : ApiResponse PublicMonitor) :
      updateMonitorController rt schema req docs = (.ok response, docs') →
      docs'.find? (isOwnersMonitor req.owner req.monitorId) = some d →
      Stores rt schema req d

/-- The names and values of decrypted headers. -/
def headersOf : Json → Headers
  | .obj members => members.filterMap fun member => match member with
    | (name, .str value) => some (.ofList (chars name), .ofList (chars value))
    | _ => none
  | _ => []

/-- The environment of a check, with the key of the process. -/
def credentialEnv (rt : CryptoRuntime) (key : Option Bytes) (cfg : SchedulerConfig) : CheckEnv where
  config := cfg
  decryptAuthHeaders envelope :=
    match decryptAuthHeaders rt key (envelope.map fun s => units s.toList) with
    | .ok headers => headersOf headers
    | .error _ => []

/-- What is asked of the stored headers, given the requests that have picked their fields. -/
structure CredentialsRoundTrip (rt : RequestRuntime) (schema : MonitorSchema) (key : Bytes)
    (requests : List MonitorRequest) : Prop where
  /-- Headers are stored in an envelope that yields them. -/
  stored : ∀ req ∈ requests, req.key = some key → ∀ m, m ≠ [] →
    req.headers = some (.record m) → ∀ d, Stores rt schema req d →
      ∃ envelope, d .authHeaders = some (.str envelope) ∧
        decryptAuthHeaders rt.toCryptoRuntime (some key) (some envelope) = .ok (.record m)
  /-- Empty headers are stored as `null`, which yields none. -/
  cleared : ∀ req ∈ requests,
    req.headers = some .null ∨ req.headers = some (.record []) → ∀ d, Stores rt schema req d →
      d .authHeaders = some .null ∧
        decryptAuthHeaders rt.toCryptoRuntime (some key) none = .ok noHeaders
  /-- Any text yields no headers, or headers that were encrypted under the key. -/
  total : ∀ envelope : Units,
    decryptAuthHeaders rt.toCryptoRuntime (some key) (some envelope) = .ok noHeaders ∨
      ∃ req ∈ requests, req.key = some key ∧ ∃ m, req.headers = some (.record m) ∧
        decryptAuthHeaders rt.toCryptoRuntime (some key) (some envelope) = .ok (.record m)
  /-- So a check sends no other headers, whatever is in the database. -/
  sent : ∀ (cfg : SchedulerConfig) (monitor : Monitor) (mode : BreakerState),
    (checkOptions (credentialEnv rt.toCryptoRuntime (some key) cfg) monitor mode).headers = [] ∨
      ∃ req ∈ requests, req.key = some key ∧ ∃ m, req.headers = some (.record m) ∧
        (checkOptions (credentialEnv rt.toCryptoRuntime (some key) cfg) monitor mode).headers =
          headersOf (.record m)

variable {rt : RequestRuntime} {schema : MonitorSchema} {key : Bytes}
  {requests : List MonitorRequest} {req : MonitorRequest} {d : MonitorDoc}
  {m : List (Units × Units)}

/-- The names of accepted headers are distinct. -/
lemma AcceptedHeaders.nodup (h : AcceptedHeaders (some (.record m))) : (m.map Prod.fst).Nodup := by
  generalize hrecord : Json.record m = headers at h
  cases h with
  | null => cases hrecord
  | @map m' hkeys => rwa [Json.record_injective hrecord]

/-! ## Decryption -/

/-- **The text of headers is read back.** -/
lemma decryptAuthHeaders_of_record {envelope : Option Units} (hkeys : (m.map Prod.fst).Nodup)
    (h : decryptSecret rt.toCryptoRuntime (some key) envelope =
      .ok (some (Json.stringify rt.number (.record m)))) :
    decryptAuthHeaders rt.toCryptoRuntime (some key) envelope = .ok (.record m) := by
  have hparse := Json.parse_stringify_record rt.number hkeys
  obtain ⟨c, s, htext⟩ : ∃ c s, Json.stringify rt.number (.record m) = c :: s :=
    ⟨_, _, by rw [Json.record, Json.stringify]⟩
  rw [htext] at h hparse
  unfold decryptAuthHeaders
  rw [h]
  change tryCatch (do
    let parsed ← parseJson (c :: s)
    return objectOr parsed) _ = _
  rw [parseJson, hparse]
  rfl

/-- What a request encrypts is the text of its headers. -/
lemma exists_of_mem_encryptions (haccepted : AcceptedHeaders req.headers) {e : Encryption}
    (he : e ∈ req.encryptions rt) :
    req.key = some e.key ∧ ∃ m : List (Units × Units), (m.map Prod.fst).Nodup ∧
      req.headers = some (.record m) ∧
      e.plaintext = Utf8.encode (Json.stringify rt.number (.record m)) := by
  unfold MonitorRequest.encryptions at he
  split at he
  · rename_i key headers hkey hheaders
    split_ifs at he with hcredentials
    · obtain rfl := List.mem_singleton.1 he
      rw [hheaders] at haccepted
      cases haccepted with
      | null => cases hcredentials
      | @map m hkeys => exact ⟨hkey, m, hkeys, hheaders, rfl⟩
    · cases he
  · cases he

/-- **Whatever text is decrypted**, nothing is thrown, and the result is empty or the headers of a
request that has encrypted them under the key. -/
theorem decryptAuthHeaders_cases (haccepted : ∀ req ∈ requests, AcceptedHeaders req.headers)
    (hgcm : rt.gcm.Trusted key (requests.flatMap (·.encryptions rt)))
    (envelope : Option Units) :
    decryptAuthHeaders rt.toCryptoRuntime (some key) envelope = .ok noHeaders ∨
      ∃ req ∈ requests, req.key = some key ∧ ∃ m, req.headers = some (.record m) ∧
        decryptAuthHeaders rt.toCryptoRuntime (some key) envelope = .ok (.record m) := by
  rcases decryptSecret_cases hgcm envelope with hnone | ⟨e, he, rfl, hsome⟩
  · left
    unfold decryptAuthHeaders
    rw [hnone]
    rfl
  · obtain ⟨req, hreq, he⟩ := List.mem_flatMap.1 he
    obtain ⟨hkey, m, hkeys, hheaders, hplaintext⟩ :=
      exists_of_mem_encryptions (haccepted req hreq) he
    rw [hplaintext, Utf8.decode_encode] at hsome
    exact .inr ⟨req, hreq, hkey, m, hheaders, decryptAuthHeaders_of_record hkeys hsome⟩

/-! ## Storing -/

/-- An update does not change which monitor it is for. -/
lemma isOwnersMonitor_apply {patch : Patch MonitorField Stored} (h : patch.Within ownerWritable)
    (owner id : ℕ) (d : MonitorDoc) :
    isOwnersMonitor owner id (patch.apply d) = isOwnersMonitor owner id d := by
  rw [isOwnersMonitor, isOwnersMonitor, isOwners, isOwners, h.apply_eq (by decide),
    h.apply_eq (by decide)]

/-- **What a request stores** of its headers is what they are set to. -/
lemma Stores.authHeaders (h : Stores rt schema req d) {v : Assigned} {s : Stored}
    (hheaders : headersField rt req.key req.iv req.headers = .ok (some v))
    (hcast : schema.cast .authHeaders v = some s) : d .authHeaders = some s := by
  cases h with
  | create id now docs response h =>
    unfold createMonitorController at h
    split at h
    · cases h
    · rename_i body hbody
      split at h
      · cases h
      · rename_i url hurl
        split_ifs at h
        · cases h
        · cases h
        · split at h
          · cases h
          · rename_i fields hfields
            split at h
            · cases h
            · rename_i patch hpatch
              have hd : schema.created req.owner id now patch = d := by
                simpa using congrArg Prod.snd h
              have hfield := createFields_authHeaders hbody hfields
              rw [hheaders, Except.ok.injEq] at hfield
              rw [← hd, MonitorSchema.created, Patch.apply, Patch.assign_apply,
                if_neg (by decide), Patch.assign_apply, if_neg (by decide),
                castPatch_apply hpatch, ← hfield, Option.bind_some, hcast, Option.some_or]
  | update docs docs' response h hfind =>
    unfold updateMonitorController at h
    split at h
    · cases h
    · rename_i fields hfields
      split at h
      · cases h
      · rename_i patch hpatch
        split at h
        · cases h
        · rename_i d₀ hd₀
          have hwithin := castPatch_within hpatch (updateFields_within hfields)
          have hdocs : updateFirst (isOwnersMonitor req.owner req.monitorId) patch.apply docs =
              docs' := congrArg Prod.snd h
          rw [← hdocs, find?_updateFirst, hd₀, Option.map_some, Option.some.injEq] at hfind
          · have hfield := updateFields_authHeaders hfields
            rw [hheaders, Except.ok.injEq] at hfield
            rw [← hfind, Patch.apply, castPatch_apply hpatch, ← hfield, Option.bind_some, hcast,
              Option.some_or]
          · intro a ha
            rw [isOwnersMonitor_apply hwithin, ha]

/-- **The headers that are stored are those that a check gets**, if the cipher is correct and
authentic for the encryptions of the requests.

**Proof sketch.** The text of the headers is read back through UTF-8 and JSON. What decrypts is the
plaintext of one of the encryptions, and each of these is the text of accepted headers. -/
theorem credentialsRoundTrip (rt : RequestRuntime) (schema : MonitorSchema) (key : Bytes)
    (requests : List MonitorRequest) (haccepted : ∀ req ∈ requests, AcceptedHeaders req.headers)
    (hgcm : rt.gcm.Trusted key (requests.flatMap (·.encryptions rt))) :
    CredentialsRoundTrip rt schema key requests where
  stored := by
    intro req hreq hkey m hm hheaders d hstores
    have hcredentials : hasCredentials (some (Json.record m)) = true := by
      simpa [hasCredentials, Json.record, Json.recordMembers] using hm
    have hlog : (⟨key, req.iv, Utf8.encode (Json.stringify rt.number (.record m))⟩ : Encryption) ∈
        requests.flatMap (·.encryptions rt) := by
      refine List.mem_flatMap.2 ⟨req, hreq, ?_⟩
      rw [MonitorRequest.encryptions, hkey, hheaders]
      dsimp only
      rw [if_pos hcredentials]
      exact List.mem_singleton_self _
    obtain ⟨envelope, hencrypt, hdecrypt⟩ := decryptSecret_encryptSecret hgcm hlog
    have hkeys := (hheaders ▸ haccepted req hreq : AcceptedHeaders (some (.record m))).nodup
    have hfield : headersField rt req.key req.iv req.headers = .ok (some (.text envelope)) := by
      rw [hheaders, hkey, headersField, if_pos hcredentials, hencrypt]
      rfl
    exact ⟨envelope, hstores.authHeaders hfield (schema.cast_text envelope),
      decryptAuthHeaders_of_record hkeys hdecrypt⟩
  cleared := by
    intro req _ hempty d hstores
    have hfield : headersField rt req.key req.iv req.headers = .ok (some .null) := by
      rcases hempty with hempty | hempty <;> rw [hempty] <;> rfl
    exact ⟨hstores.authHeaders hfield schema.cast_null, rfl⟩
  total envelope := decryptAuthHeaders_cases haccepted hgcm (some envelope)
  sent := by
    intro cfg monitor mode
    have hheaders : (checkOptions (credentialEnv rt.toCryptoRuntime (some key) cfg) monitor
        mode).headers = match decryptAuthHeaders rt.toCryptoRuntime (some key)
          (monitor.authHeaders.map fun s => units s.toList) with
        | .ok headers => headersOf headers
        | .error _ => [] := rfl
    rw [hheaders]
    rcases decryptAuthHeaders_cases haccepted hgcm
      (monitor.authHeaders.map fun s => units s.toList) with hnone | ⟨req, hreq, hkey, m, hm, hsome⟩
    · left
      rw [hnone]
      rfl
    · right
      rw [hsome]
      exact ⟨req, hreq, hkey, m, hm, rfl⟩

/-! ## A run -/

/-- A key. -/
def sampleKey : Bytes := (List.range 32).map .ofNat

/-- An iv. -/
def sampleIv : Bytes := (List.range 12).map .ofNat

/-- A header whose value holds a colon and a character beyond ASCII. -/
def sampleHeaders : List (Units × Units) := [(units "X-K".toList, units "é:".toList)]

/-- The text `{"X-K":"é:"}`. -/
def samplePlaintext : Bytes :=
  [0x7B, 0x22, 0x58, 0x2D, 0x4B, 0x22, 0x3A, 0x22, 0xC3, 0xA9, 0x3A, 0x22, 0x7D]

/-- What the cipher makes of it, under the key and with the iv. -/
def sampleResult : Bytes × Bytes :=
  ([0x3C, 0x20, 0x8E, 0x36, 0x8E, 0xC7, 0xF8, 0x39, 0x4E, 0xE8, 0xAD, 0xA9, 0xCC],
    [0xF7, 0x35, 0x18, 0x64, 0xFA, 0xAA, 0x48, 0x8F, 0x41, 0x97, 0x6C, 0xCE, 0x71, 0x61, 0x23,
      0xF5])

/-- The cipher, on this text. -/
def sampleGcm : Gcm where
  encrypt key iv plaintext :=
    if (key, iv, plaintext) = (sampleKey, sampleIv, samplePlaintext) then sampleResult
    else (plaintext, [])
  decrypt key iv authTag ciphertext :=
    if (key, iv, ciphertext, authTag) = (sampleKey, sampleIv, sampleResult) then
      .ok samplePlaintext
    else .error ⟨"Unsupported state or unable to authenticate data", none⟩

/-- A runtime with this cipher. -/
def sampleCrypto : RequestRuntime where
  gcm := sampleGcm
  number _ := "0".toList
  toNumber _ := .nan
  ofOther _ := []

/-- A schema that takes strings, `null` and dates. -/
def sampleSchema : MonitorSchema where
  cast _ v := match v with
    | .text s | .json (.str s) => some (.str s)
    | .null => some .null
    | .date (some t) => some (.date t)
    | _ => none
  cast_text _ := rfl
  cast_null := rfl
  defaults _ f := if f = .authHeaders then some .null else none
  defaults_authHeaders _ := rfl
  rejection := ⟨"Validation failed", none⟩

/-- A request with this header. -/
def sampleMonitorRequest : MonitorRequest where
  owner := 1
  monitorId := 1
  body := some fun name =>
    if name = "url" then some (.str (units "https://a.test".toList))
    else if name = "authHeaders" then some (.record sampleHeaders)
    else none
  key := some sampleKey
  iv := sampleIv

/-- What it encrypts. -/
lemma sampleMonitorRequest_encryptions :
    [sampleMonitorRequest].flatMap (·.encryptions sampleCrypto) =
      [⟨sampleKey, sampleIv, samplePlaintext⟩] := by
  have hplaintext : Utf8.encode (Json.stringify sampleCrypto.number (.record sampleHeaders)) =
      samplePlaintext := by decide
  rw [← hplaintext]
  rfl

/-- The cipher can be relied on for it. -/
lemma sampleGcm_trusted :
    sampleGcm.Trusted sampleKey ([sampleMonitorRequest].flatMap (·.encryptions sampleCrypto)) := by
  have hresult : (⟨sampleKey, sampleIv, samplePlaintext⟩ : Encryption).result sampleGcm =
      sampleResult := by
    simp [Encryption.result, sampleGcm]
  rw [sampleMonitorRequest_encryptions]
  constructor
  · intro e he _
    obtain rfl := List.mem_singleton.1 he
    rw [hresult]
    simp [sampleGcm]
  · intro iv authTag ciphertext plaintext h
    unfold sampleGcm at h
    dsimp only at h
    split_ifs at h with hsample
    simp only [Prod.mk.injEq, true_and] at hsample
    obtain ⟨rfl, hpair⟩ := hsample
    exact ⟨_, List.mem_singleton_self _, rfl, rfl, hresult.trans hpair.symm⟩

/-- The hypotheses of `credentialsRoundTrip` hold of this request, and a create stores its header,
which is read back. -/
theorem credentialsRoundTrip_sample :
    CredentialsRoundTrip sampleCrypto sampleSchema sampleKey [sampleMonitorRequest] ∧
      ∃ d envelope, Stores sampleCrypto sampleSchema sampleMonitorRequest d ∧
        d .authHeaders = some (.str envelope) ∧
        decryptAuthHeaders sampleCrypto.toCryptoRuntime (some sampleKey) (some envelope) =
          .ok (.record sampleHeaders) := by
  have hround : CredentialsRoundTrip sampleCrypto sampleSchema sampleKey [sampleMonitorRequest] :=
    credentialsRoundTrip sampleCrypto sampleSchema sampleKey [sampleMonitorRequest]
      (by
        intro req hreq
        obtain rfl := List.mem_singleton.1 hreq
        exact .map (by decide))
      sampleGcm_trusted
  have hstores : Stores sampleCrypto sampleSchema sampleMonitorRequest _ := .create 1 0 [] _ rfl
  obtain ⟨envelope, hstored, hread⟩ := hround.stored sampleMonitorRequest
    (List.mem_singleton_self _) rfl sampleHeaders (by decide) rfl _ hstores
  exact ⟨hround, _, envelope, hstores, hstored, hread⟩

end WatchTower

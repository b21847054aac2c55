import WatchTower.Encoding.Json
import WatchTower.Runtime.Text

set_option relaxedAutoImplicit false
set_option autoImplicit false

/-!
# Envelopes for stored credentials

`utils/crypto.js`: a secret is encrypted under the configured key and stored as the text
`v1:<iv>:<authTag>:<ciphertext>`, each part in base64. Whatever cannot be decrypted counts as
absent.

The cipher is that of the runtime, a parameter. What is relied on is said about a log of the
encryptions that have been made: these decrypt, and nothing else does.

## Main definitions

* `WatchTower.Gcm`, `WatchTower.CryptoRuntime` — the cipher, and the other parts of the runtime.
* `WatchTower.hasCredentials`, `WatchTower.encryptSecret`, `WatchTower.decryptSecret`,
  `WatchTower.decryptAuthHeaders` — the functions of the source, for the key that is configured.
* `WatchTower.Encryption`, `WatchTower.Gcm.Trusted` — the log, and what is relied on.

## Main results

* `WatchTower.decryptSecret_encryptSecret` — the envelope of a secret decrypts to it.
* `WatchTower.decryptSecret_cases` — nothing is thrown, and whatever decrypts was encrypted under
  the same key.
-/

namespace WatchTower

open Encoding

/-- `aes-256-gcm` of `node:crypto`. -/
structure Gcm where
  /-- The ciphertext and the tag, for a key, an iv and a plaintext. -/
  encrypt : Bytes → Bytes → Bytes → Bytes × Bytes
  /-- The plaintext, for a key, an iv, a tag and a ciphertext, or what a step throws: the
  construction, `setAuthTag` or `final`. -/
  decrypt : Bytes → Bytes → Bytes → Bytes → Except JsError Bytes

/-- The parts of the runtime that the module uses. -/
structure CryptoRuntime where
  /-- The cipher. -/
  gcm : Gcm
  /-- How `JSON.stringify` writes a number. -/
  number : ℚ → Text

/-- `VERSION`. -/
def version : Units := units "v1".toList

/-- The separator of the envelope. -/
def colon : UInt16 := 0x3A

/-- Whether a value carries something worth encrypting. Only characters that are one code unit are
white space. -/
def hasCredentials : Option Json → Bool
  | some (.str s) => trim (s.map charOf) ≠ []
  | some (.arr elements) => elements ≠ []
  | some (.obj members) => members ≠ []
  | _ => false

/-- The text of an envelope. -/
def envelopeOf (iv authTag ciphertext : Bytes) : Units :=
  [colon].intercalate
    [version, Base64.encode iv, Base64.encode authTag, Base64.encode ciphertext]

/-- Encrypt a plaintext, with the random `iv` that is drawn for it. -/
def encryptSecret (rt : CryptoRuntime) (key : Option Bytes) (iv : Bytes) (plaintext : Text) :
    Except JsError Units :=
  match key with
  | none =>
    .error ⟨"Cannot store credentials: CREDENTIALS_ENCRYPTION_KEY is not configured", none⟩
  | some key =>
    let (ciphertext, authTag) := rt.gcm.encrypt key iv (Utf8.encode plaintext)
    .ok (envelopeOf iv authTag ciphertext)

/-- `Buffer.from(text, 'base64')`, which throws for `undefined`. -/
def bufferFrom : Option Units → Except JsError Bytes
  | none => .error ⟨"The first argument must be of type string", some (.str "ERR_INVALID_ARG_TYPE")⟩
  | some text => .ok (Base64.decode text)

/-- The `try` block of `decryptSecret`. Parts beyond the fourth are ignored. -/
def openEnvelope (rt : CryptoRuntime) (key : Bytes) (envelope : Units) :
    Except JsError (Option Text) :=
  let parts := envelope.splitOn colon
  if parts[0]? ≠ some version then .ok none
  else do
    let iv ← bufferFrom parts[1]?
    let authTag ← bufferFrom parts[2]?
    let data ← bufferFrom parts[3]?
    let plaintext ← rt.gcm.decrypt key iv authTag data
    return some (Utf8.decode plaintext)

/-- Decrypt an envelope, or return `null`. -/
def decryptSecret (rt : CryptoRuntime) (key : Option Bytes) (envelope : Option Units) :
    Except JsError (Option Text) :=
  match key, envelope with
  | some key, some envelope =>
    if envelope = [] then .ok none
    else tryCatch (openEnvelope rt key envelope) fun _ => .ok none
  | _, _ => .ok none

/-- `JSON.parse(text)`. -/
def parseJson (text : Text) : Except JsError Json :=
  match Json.parse text with
  | some v => .ok v
  | none => .error ⟨"Unexpected token in JSON", none⟩

/-- `{}`. -/
def noHeaders : Json := .obj []

/-- `parsed && typeof parsed === 'object' ? parsed : {}`. -/
def objectOr : Json → Json
  | .obj members => .obj members
  | .arr elements => .arr elements
  | _ => noHeaders

/-- Decrypt stored headers: the object they were, or `{}`. -/
def decryptAuthHeaders (rt : CryptoRuntime) (key : Option Bytes) (envelope : Option Units) :
    Except JsError Json := do
  let plaintext ← decryptSecret rt key envelope
  match plaintext with
  | none | some [] => return noHeaders
  | some plaintext =>
    tryCatch (do
      let parsed ← parseJson plaintext
      return objectOr parsed) fun _ => return noHeaders

/-! ## What is relied on -/

/-- One encryption. -/
structure Encryption where
  /-- The key. -/
  key : Bytes
  /-- The iv. -/
  iv : Bytes
  /-- What was encrypted. -/
  plaintext : Bytes

/-- The ciphertext and the tag that it produced. -/
def Encryption.result (gcm : Gcm) (e : Encryption) : Bytes × Bytes :=
  gcm.encrypt e.key e.iv e.plaintext

/-- The cipher is correct and authentic, under a key and given the encryptions that have been made:
decryption inverts them, and succeeds on nothing else. -/
structure Gcm.Trusted (gcm : Gcm) (key : Bytes) (log : List Encryption) : Prop where
  correct : ∀ e ∈ log, e.key = key →
    gcm.decrypt key e.iv (e.result gcm).2 (e.result gcm).1 = .ok e.plaintext
  authentic : ∀ iv authTag ciphertext plaintext,
    gcm.decrypt key iv authTag ciphertext = .ok plaintext →
      ∃ e ∈ log, e.key = key ∧ e.iv = iv ∧ e.result gcm = (ciphertext, authTag)

variable {rt : CryptoRuntime} {key iv : Bytes} {log : List Encryption}

/-! ## Envelopes -/

/-- The parts of an envelope are found again: none holds a colon. -/
lemma splitOn_envelopeOf (iv authTag ciphertext : Bytes) :
    (envelopeOf iv authTag ciphertext).splitOn colon =
      [version, Base64.encode iv, Base64.encode authTag, Base64.encode ciphertext] := by
  have hcode : ∀ bytes, colon ∉ Base64.encode bytes :=
    Base64.not_mem_encode (by decide) (by decide)
  have hversion : colon ∉ version := by decide
  refine List.splitOn_intercalate colon (fun part hpart => ?_) (List.cons_ne_nil _ _)
  simp only [List.mem_cons, List.not_mem_nil, or_false] at hpart
  rcases hpart with rfl | rfl | rfl | rfl
  · exact hversion
  · exact hcode _
  · exact hcode _
  · exact hcode _

lemma envelopeOf_ne_nil (iv authTag ciphertext : Bytes) :
    envelopeOf iv authTag ciphertext ≠ [] := by
  intro h
  have hparts := splitOn_envelopeOf iv authTag ciphertext
  rw [h] at hparts
  exact absurd hparts (by simp)

/-- What is found in an envelope. -/
lemma openEnvelope_envelopeOf (rt : CryptoRuntime) (key iv authTag ciphertext : Bytes) :
    openEnvelope rt key (envelopeOf iv authTag ciphertext) =
      (rt.gcm.decrypt key iv authTag ciphertext).map fun bytes => some (Utf8.decode bytes) := by
  unfold openEnvelope
  dsimp only
  rw [splitOn_envelopeOf, if_neg (by simp)]
  simp only [List.getElem?_cons_succ, List.getElem?_cons_zero, bufferFrom, Base64.decode_encode]
  change (rt.gcm.decrypt key iv authTag ciphertext >>= fun bytes =>
    .ok (some (Utf8.decode bytes))) = _
  cases rt.gcm.decrypt key iv authTag ciphertext <;> rfl

/-- What is found in any text has been decrypted. -/
lemma exists_of_openEnvelope {envelope : Units} {plaintext : Text}
    (h : openEnvelope rt key envelope = .ok (some plaintext)) :
    ∃ iv authTag ciphertext bytes, rt.gcm.decrypt key iv authTag ciphertext = .ok bytes ∧
      plaintext = Utf8.decode bytes := by
  unfold openEnvelope at h
  dsimp only at h
  split_ifs at h
  · cases h
  · obtain ⟨iv, -, h⟩ := exists_of_bind_eq_ok h
    obtain ⟨authTag, -, h⟩ := exists_of_bind_eq_ok h
    obtain ⟨data, -, h⟩ := exists_of_bind_eq_ok h
    obtain ⟨bytes, hdecrypt, h⟩ := exists_of_bind_eq_ok h
    exact ⟨iv, authTag, data, bytes, hdecrypt, (Option.some.inj (Except.ok.inj h)).symm⟩

/-- **The envelope of a secret** that has been encrypted decrypts to it. -/
theorem decryptSecret_encryptSecret (h : rt.gcm.Trusted key log) {plaintext : Text}
    (hlog : ⟨key, iv, Utf8.encode plaintext⟩ ∈ log) :
    ∃ envelope, encryptSecret rt (some key) iv plaintext = .ok envelope ∧
      decryptSecret rt (some key) (some envelope) = .ok (some plaintext) := by
  refine ⟨_, rfl, ?_⟩
  have hdecrypt := h.correct _ hlog rfl
  rw [Encryption.result] at hdecrypt
  unfold decryptSecret
  dsimp only
  rw [if_neg (envelopeOf_ne_nil _ _ _), openEnvelope_envelopeOf, hdecrypt, Except.map,
    Utf8.decode_encode]
  rfl

/-- **Nothing is thrown, and whatever decrypts** was encrypted under the same key. -/
theorem decryptSecret_cases (h : rt.gcm.Trusted key log) (envelope : Option Units) :
    decryptSecret rt (some key) envelope = .ok none ∨
      ∃ e ∈ log, e.key = key ∧
        decryptSecret rt (some key) envelope = .ok (some (Utf8.decode e.plaintext)) := by
  cases envelope with
  | none => exact .inl rfl
  | some envelope =>
    unfold decryptSecret
    dsimp only
    by_cases hempty : envelope = []
    · exact .inl (if_pos hempty)
    · rw [if_neg hempty]
      rcases hopen : openEnvelope rt key envelope with err | _ | plaintext
      · exact .inl rfl
      · exact .inl rfl
      · obtain ⟨iv, authTag, ciphertext, bytes, hdecrypt, rfl⟩ := exists_of_openEnvelope hopen
        obtain ⟨e, he, hkey, rfl, hresult⟩ := h.authentic _ _ _ _ hdecrypt
        have hcorrect := h.correct e he hkey
        rw [hresult, hdecrypt, Except.ok.injEq] at hcorrect
        exact .inr ⟨e, he, hkey, by rw [← hcorrect]; rfl⟩

end WatchTower

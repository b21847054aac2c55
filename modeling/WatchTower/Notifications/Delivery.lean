import WatchTower.Notifications.DispatchContract

set_option relaxedAutoImplicit false
set_option autoImplicit false

/-!
# What the audit trail of a dispatch tells

`notifications/email.notifier.js` and `notifications/webhook.notifier.js`, dispatched together. Each
looks up the active channels of the owner first, and each goes on when that fails: the e-mail
notifier with the account address alone, the webhook notifier with nothing. In both cases the
channels that were not loaded leave no entry. An SMS channel has no notifier: even when it is active
it is nobody's destination, is never told and leaves no row.

## Main definitions

* `WatchTower.Channel`, `WatchTower.DeliveryEnv` — channels, and what delivering to them comes to.
* `WatchTower.emailNotifier`, `WatchTower.webhookNotifier`, `WatchTower.defaultNotifiers`.
* `WatchTower.StoringStep`, `WatchTower.Dispatch.stored` — dispatches whose audit writes succeed,
  and the rows that they leave.
* `WatchTower.Accounted` — every destination has its outcome, or its notifier a failure.
* `WatchTower.LooksUp` — a lookup fails only where it would have found nothing new.

## Main results

* `WatchTower.accounted_iff` — every destination is accounted for exactly when no failed lookup
  would have found another one.
-/

namespace WatchTower

open Transition

/-! ## Channels and failures -/

/-- `type` of a channel. -/
inductive ChannelType
  | email
  | slack
  | webhook
  | sms
  deriving DecidableEq

/-- Its text. -/
def ChannelType.text : ChannelType → String
  | .email => "Email"
  | .slack => "Slack"
  | .webhook => "Webhook"
  | .sms => "SMS"

/-- A document of the channel collection. -/
structure Channel where
  /-- `_id`. -/
  id : ℕ
  /-- The owner. -/
  userId : ℕ
  /-- `type`. -/
  type : ChannelType
  /-- `target`. -/
  target : String
  /-- `active`. -/
  active : Bool
  deriving DecidableEq

/-- How a `fetch` ends. -/
inductive Fetched
  /-- The receiver answers. -/
  | response (status : ℕ)
  /-- The request fails, or its timeout aborts it. -/
  | failed (err : JsError)

/-- The channels, and what goes wrong. -/
structure DeliveryEnv where
  /-- The channel collection. -/
  channels : List Channel
  /-- The failure of the e-mail notifier's lookup. -/
  emailLookup : Option JsError
  /-- The failure of the webhook notifier's lookup. -/
  webhookLookup : Option JsError
  /-- What `incidentOpenedEmail` or `incidentClosedEmail` throws. -/
  template : Payload → Option JsError
  /-- What `buildBody` throws. -/
  body : Payload → Option JsError
  /-- The failure of `sendEmail` to an address. -/
  mail : String → Option JsError
  /-- How the receiver of a channel answers. -/
  fetch : Channel → Fetched

/-- `err?.message`, nothing when it is empty. -/
def JsError.text (err : JsError) : Option String := if err.message = "" then none else err.message

/-! ## The notifiers -/

/-- `supports` of both notifiers. -/
def supportsIncident (event : IncidentEvent) : Except JsError Js :=
  .ok (.bool (event = .opened || event = .closed))

/-- A channel that the query of a notifier matches. -/
def Channel.matches (payload : Payload) (types : List ChannelType) (c : Channel) : Bool :=
  c.userId = payload.userId && types.contains c.type && c.active

/-- `recipients`: the account address, and the targets of the channels found. -/
def recipients (payload : Payload) (channels : List Channel) : List String :=
  ((payload.email.toList ++ channels.map (·.target)).filter (· ≠ "")).eraseDups

/-- What one e-mail comes to. -/
def emailOutcome (env : DeliveryEnv) (target : String) : SendOutcome :=
  match env.mail target with
  | none => ⟨none, some .delivered, some target, some "Incident email"⟩
  | some err => ⟨none, some .failed, some target, some (err.text.getD "SMTP delivery failed")⟩

/-- The channels that the e-mail notifier finds: none when its lookup fails. -/
def emailChannels (env : DeliveryEnv) (payload : Payload) : List Channel :=
  match env.emailLookup with
  | none => env.channels.filter (·.matches payload [.email])
  | some _ => []

/-- `emailNotifier.send`. -/
def sendEmails (env : DeliveryEnv) (payload : Payload) : Sent :=
  match env.template payload with
  | some err => .failed (.message err.text)
  | none =>
    let targets := recipients payload (emailChannels env payload)
    if targets = [] then
      .returned (.many [some ⟨none, some .skipped, none,
        some "No email address on file for this account"⟩])
    else .returned (.many (targets.map fun target => some (emailOutcome env target)))

/-- What one webhook comes to. -/
def webhookOutcome (env : DeliveryEnv) (c : Channel) : SendOutcome :=
  match env.fetch c with
  | .response status =>
    if 200 ≤ status ∧ status < 300 then
      ⟨some (some c.type.text), some .delivered, some c.target, none⟩
    else
      ⟨some (some c.type.text), some .failed, some c.target,
        some ("Receiver returned HTTP " ++ toString status)⟩
  | .failed err =>
    ⟨some (some c.type.text), some .failed, some c.target,
      some (err.text.getD "Webhook delivery failed")⟩

/-- The channels of the webhook notifier. -/
def webhookChannels (env : DeliveryEnv) (payload : Payload) : List Channel :=
  env.channels.filter (·.matches payload [.webhook, .slack])

/-- `webhookNotifier.send`. -/
def sendWebhooks (env : DeliveryEnv) (payload : Payload) : Sent :=
  match env.webhookLookup with
  | some _ => .returned (.many [])
  | none =>
    if webhookChannels env payload = [] then .returned (.many [])
    else
      match env.body payload with
      | some err => .failed (.message err.text)
      | none => .returned (.many ((webhookChannels env payload).map fun c =>
          some (webhookOutcome env c)))

/-- `emailNotifier`. -/
def emailNotifier (env : DeliveryEnv) : Notifier := ⟨"Email", supportsIncident, sendEmails env⟩

/-- `webhookNotifier`. -/
def webhookNotifier (env : DeliveryEnv) : Notifier :=
  ⟨"Webhook", supportsIncident, sendWebhooks env⟩

/-- The registry of `notifications/index.js`. -/
def defaultNotifiers (env : DeliveryEnv) : List Notifier := [emailNotifier env, webhookNotifier env]

/-- A notifier as it is passed to `register`. -/
def Notifier.candidate (n : Notifier) : Candidate := ⟨some n.name, some n.supports, some n.send⟩

/-- It is what registering one after the other leads to. -/
lemma defaultNotifiers_eq (env : DeliveryEnv) :
    (do let ns ← register [] (emailNotifier env).candidate
        register ns (webhookNotifier env).candidate) = .ok (defaultNotifiers env) := rfl

/-! ## The audit trail -/

/-- An audit write that succeeds. -/
def alwaysStored (_ : ℕ) : Recorded := .stored

/-- The steps of a dispatch whose audit writes succeed. -/
abbrev StoringStep (payload : Payload) := DispatchStep payload alwaysStored

/-- The rows that have been stored. -/
def Dispatch.stored (s : Dispatch) : List AuditRow :=
  (s.attempted.zip s.audits).filterMap fun
    | (row, some .stored) => some row
    | _ => none

/-- The addresses that the e-mail notifier has to reach. -/
def emailDestinations (env : DeliveryEnv) (payload : Payload) : List String :=
  recipients payload (env.channels.filter (·.matches payload [.email]))

/-- What a row says about a destination: the channel, the target and the status. -/
abbrev AuditOutcome := String × Option String × Option DeliveryStatus

/-- The outcome that a row records. -/
def AuditRow.outcome (row : AuditRow) : AuditOutcome := (row.channel, row.target, row.status)

/-- The outcome of an address. -/
def addressOutcome (env : DeliveryEnv) (target : String) : AuditOutcome :=
  ("Email", some target, some (if env.mail target = none then .delivered else .failed))

/-- The receiver of a channel has taken the message. -/
def Fetched.ok : Fetched → Bool
  | .response status => 200 ≤ status && status < 300
  | .failed _ => false

/-- The outcome of a webhook or Slack channel. -/
def channelOutcome (env : DeliveryEnv) (c : Channel) : AuditOutcome :=
  (c.type.text, some c.target, some (if (env.fetch c).ok then .delivered else .failed))

/-- The failure of a notifier as a whole, which names no target. -/
def notifierFailure (name : String) : AuditOutcome := (name, none, some .failed)

/-- An address has been told: the e-mail was rendered and sent to it, and that succeeded. -/
def AddressTold (env : DeliveryEnv) (payload : Payload) (target : String) : Prop :=
  env.template payload = none ∧ target ∈ recipients payload (emailChannels env payload) ∧
    env.mail target = none

/-- A channel has been told: it was looked up, and its receiver took the message. -/
def ChannelTold (env : DeliveryEnv) (payload : Payload) (c : Channel) : Prop :=
  env.webhookLookup = none ∧ env.body payload = none ∧ (env.fetch c).ok = true

/-- **Every delivery attempt leaves an outcome.** For each notifier, there is the outcome of every
destination, or its failure; and where a destination was not told, something has failed or was
skipped. SMS channels are no destinations of either notifier, and nothing is asked about them. -/
structure Accounted (env : DeliveryEnv) (payload : Payload) (outcomes : List AuditOutcome) :
    Prop where
  emails : (∀ target ∈ emailDestinations env payload, addressOutcome env target ∈ outcomes) ∨
    notifierFailure "Email" ∈ outcomes
  webhooks : ((webhookChannels env payload).map (channelOutcome env)).Sublist outcomes ∨
    notifierFailure "Webhook" ∈ outcomes
  untold : (∃ target ∈ emailDestinations env payload, ¬AddressTold env payload target) ∨
      (∃ c ∈ webhookChannels env payload, ¬ChannelTold env payload c) →
    ∃ o ∈ outcomes, o.2.2 = some .failed ∨ o.2.2 = some .skipped

/-- A lookup fails only where it would have found nothing new: that of the e-mail notifier where
every active e-mail channel is the account address, or the e-mail cannot be rendered anyway; that of
the webhook notifier where there is no active channel. -/
def LooksUp (env : DeliveryEnv) (payload : Payload) : Prop :=
  (env.emailLookup ≠ none → env.template payload = none →
      ∀ target ∈ emailDestinations env payload, payload.email = some target) ∧
    (env.webhookLookup ≠ none → webhookChannels env payload = [])

variable {env : DeliveryEnv} {payload : Payload} {s s' : Dispatch}

/-! ## The rows of a dispatch -/

/-- Neither of the two notifiers throws where that is not caught. -/
lemma behave_defaultNotifiers (env : DeliveryEnv) (payload : Payload) :
    Behave payload (defaultNotifiers env) := by
  refine .inr fun n hn => ?_
  simp only [defaultNotifiers, List.mem_cons, List.not_mem_nil, or_false] at hn
  rcases hn with rfl | rfl
  · refine ⟨_, rfl, fun _ err => ?_⟩
    simp only [emailNotifier, sendEmails]
    cases env.template payload with
    | some err => simp
    | none =>
      dsimp only
      split_ifs <;> simp
  · refine ⟨_, rfl, fun _ err => ?_⟩
    simp only [webhookNotifier, sendWebhooks]
    cases env.webhookLookup with
    | some err => simp
    | none =>
      dsimp only
      split_ifs
      · simp
      · cases env.body payload <;> simp

/-- What has been stored everywhere is everything. -/
lemma filterMap_zip_stored (rows : List AuditRow) :
    (rows.zip ((List.range rows.length).map (some ∘ alwaysStored))).filterMap (fun
      | (row, some .stored) => some row
      | _ => none) = rows := by
  induction rows with
  | nil => rfl
  | cons row rows ih =>
    rw [List.length_cons, List.range_succ_eq_map, List.map_cons, List.map_map, List.zip_cons_cons,
      List.filterMap_cons]
    exact congrArg (row :: ·) ih

/-- **A dispatch that has ended has stored one row for each promised result**, if its audit writes
succeed. -/
theorem stored_of_ended {es : List DispatchEvent}
    (h : Run (StoringStep payload) (dispatch payload (defaultNotifiers env)) es s)
    (hended : s.Ended payload alwaysStored) :
    s.stored = (promised payload (defaultNotifiers env)).map (auditRow payload) := by
  have hdispatches : Dispatches payload alwaysStored (defaultNotifiers env) :=
    ⟨behave_defaultNotifiers env payload, fun _ _ => rfl⟩
  have hpromise := (dispatchContract_of_dispatches hdispatches).answers es s h hended
  obtain ⟨-, hattempted, haudits, -⟩ := (Dispatch.stage_of_run h).of_resolved hpromise
  have hrows := filterMap_zip_stored s.attempted
  rw [hattempted, List.length_map] at hrows
  rw [Dispatch.stored, haudits, hattempted]
  exact hrows

/-! ## The outcomes of the two notifiers -/

/-- The outcomes that the e-mail notifier leaves. -/
def emailOutcomes (env : DeliveryEnv) (payload : Payload) : List AuditOutcome :=
  match env.template payload with
  | some _ => [notifierFailure "Email"]
  | none =>
    let targets := recipients payload (emailChannels env payload)
    if targets = [] then [("Email", none, some .skipped)] else targets.map (addressOutcome env)

/-- The outcomes that the webhook notifier leaves. -/
def webhookOutcomes (env : DeliveryEnv) (payload : Payload) : List AuditOutcome :=
  match env.webhookLookup with
  | some _ => []
  | none =>
    if webhookChannels env payload = [] then []
    else
      match env.body payload with
      | some _ => [notifierFailure "Webhook"]
      | none => (webhookChannels env payload).map (channelOutcome env)

/-- The outcome of one e-mail. -/
lemma outcome_emailOutcome (env : DeliveryEnv) (payload : Payload) (target : String) :
    (auditRow payload ((emailOutcome env target).entry "Email")).outcome =
      addressOutcome env target := by
  unfold emailOutcome addressOutcome
  cases env.mail target <;> rfl

/-- The outcome of one webhook. -/
lemma outcome_webhookOutcome (env : DeliveryEnv) (payload : Payload) (c : Channel) :
    (auditRow payload ((webhookOutcome env c).entry "Webhook")).outcome = channelOutcome env c := by
  have htext : orText (some c.type.text) "Email" = c.type.text := by
    cases c.type <;> rfl
  unfold webhookOutcome channelOutcome
  cases env.fetch c with
  | failed err =>
    simp only [SendOutcome.entry, auditRow, AuditRow.outcome, Option.getD_some, htext]
    rfl
  | response status =>
    by_cases hok : 200 ≤ status ∧ status < 300
    · simp only [if_pos hok, SendOutcome.entry, auditRow, AuditRow.outcome, Option.getD_some, htext,
        Fetched.ok]
      simp [hok]
    · have hnot : (Fetched.response status).ok = false := by
        simpa [Fetched.ok] using hok
      simp only [if_neg hok, SendOutcome.entry, auditRow, AuditRow.outcome, Option.getD_some, htext,
        hnot]
      rfl

/-- **The outcomes of a dispatch** are those of its two notifiers. -/
theorem outcomes_promised (hout : payload.optedOut = false) :
    ((promised payload (defaultNotifiers env)).map (auditRow payload)).map (·.outcome) =
      emailOutcomes env payload ++ webhookOutcomes env payload := by
  have hsupports : ∀ event, supportsIncident event = .ok (.bool true) := by
    intro event
    cases event <;> rfl
  have hemail : (((emailNotifier env).entries payload).map (auditRow payload)).map (·.outcome) =
      emailOutcomes env payload := by
    simp only [Notifier.entries, emailNotifier, hsupports, Js.truthy, if_true, sendEmails,
      emailOutcomes]
    cases env.template payload with
    | some err => rfl
    | none =>
      dsimp only
      split_ifs
      · rfl
      · simp [Sent.entries, Returned.outcomes, List.map_map, Function.comp_def,
          outcome_emailOutcome, List.filterMap_map]
  have hwebhook : (((webhookNotifier env).entries payload).map (auditRow payload)).map (·.outcome) =
      webhookOutcomes env payload := by
    simp only [Notifier.entries, webhookNotifier, hsupports, Js.truthy, if_true, sendWebhooks,
      webhookOutcomes]
    cases env.webhookLookup with
    | some err => rfl
    | none =>
      dsimp only
      split_ifs
      · rfl
      · cases env.body payload with
        | some err => rfl
        | none =>
          simp [Sent.entries, Returned.outcomes, List.map_map, Function.comp_def,
            outcome_webhookOutcome, List.filterMap_map]
  rw [promised, hout, ← hemail, ← hwebhook]
  simp [defaultNotifiers]

/-! ## Accounting for the destinations -/

/-- The e-mail notifier speaks of its own channel only. -/
lemma channel_of_mem_emailOutcomes {o : AuditOutcome} (h : o ∈ emailOutcomes env payload) :
    o.1 = "Email" := by
  unfold emailOutcomes at h
  cases htemplate : env.template payload with
  | some err =>
    rw [htemplate] at h
    rw [List.mem_singleton.1 h]
    rfl
  | none =>
    rw [htemplate] at h
    dsimp only at h
    split_ifs at h
    · rw [List.mem_singleton.1 h]
    · obtain ⟨target, -, rfl⟩ := List.mem_map.1 h
      rfl

/-- A channel of the webhook notifier is no e-mail channel. -/
lemma text_ne_of_mem_webhookChannels {c : Channel} (h : c ∈ webhookChannels env payload) :
    c.type.text ≠ "Email" := by
  have hmatch := (List.mem_filter.1 h).2
  cases htype : c.type with
  | email => simp [Channel.matches, htype] at hmatch
  | slack => decide
  | webhook => decide
  | sms => decide

/-- The webhook notifier speaks of the other channels only. -/
lemma channel_of_mem_webhookOutcomes {o : AuditOutcome} (h : o ∈ webhookOutcomes env payload) :
    o.1 ≠ "Email" := by
  unfold webhookOutcomes at h
  cases hlookup : env.webhookLookup with
  | some err => simp [hlookup] at h
  | none =>
    rw [hlookup] at h
    dsimp only at h
    split_ifs at h
    · cases h
    · cases hbody : env.body payload with
      | some err =>
        rw [hbody] at h
        rw [List.mem_singleton.1 h]
        decide
      | none =>
        rw [hbody] at h
        obtain ⟨c, hc, rfl⟩ := List.mem_map.1 h
        exact text_ne_of_mem_webhookChannels hc

/-- An address that is told of or not is among the recipients, unless a failed lookup hid it. -/
lemma LooksUp.mem_recipients (h : LooksUp env payload) (htemplate : env.template payload = none)
    {target : String} (htarget : target ∈ emailDestinations env payload) :
    target ∈ recipients payload (emailChannels env payload) := by
  unfold emailChannels
  cases hlookup : env.emailLookup with
  | none => exact htarget
  | some err =>
    have heq := h.1 (by simp [hlookup]) htemplate target htarget
    have hne : target ≠ "" := by
      have hmem := List.mem_eraseDups.1 htarget
      simpa using (List.mem_filter.1 hmem).2
    simp [recipients, heq, hne]

/-- The outcome of an address that is among the recipients. -/
lemma mem_emailOutcomes (htemplate : env.template payload = none) {target : String}
    (htarget : target ∈ recipients payload (emailChannels env payload)) :
    addressOutcome env target ∈ emailOutcomes env payload := by
  unfold emailOutcomes
  rw [htemplate]
  dsimp only
  rw [if_neg (List.ne_nil_of_mem htarget)]
  exact List.mem_map_of_mem htarget

/-- The outcomes of the channels that have been looked up. -/
lemma webhookOutcomes_eq (hlookup : env.webhookLookup = none) (hbody : env.body payload = none) :
    webhookOutcomes env payload = (webhookChannels env payload).map (channelOutcome env) := by
  unfold webhookOutcomes
  rw [hlookup, hbody]
  dsimp only
  split_ifs with hnil
  · rw [hnil, List.map_nil]
  · rfl

/-- The failure of the webhook notifier. -/
lemma webhookOutcomes_of_body {err : JsError} (hlookup : env.webhookLookup = none)
    (hne : webhookChannels env payload ≠ []) (hbody : env.body payload = some err) :
    webhookOutcomes env payload = [notifierFailure "Webhook"] := by
  unfold webhookOutcomes
  rw [hlookup, hbody]
  exact if_neg hne

/-- **Where no lookup hides a destination**, all are accounted for. -/
lemma LooksUp.accounted (h : LooksUp env payload) :
    Accounted env payload (emailOutcomes env payload ++ webhookOutcomes env payload) := by
  have hfailure : ∀ {err}, env.template payload = some err →
      notifierFailure "Email" ∈ emailOutcomes env payload := by
    intro err herr
    rw [emailOutcomes, herr]
    exact List.mem_singleton.2 rfl
  have hlookup : ∀ c ∈ webhookChannels env payload, env.webhookLookup = none := by
    intro c hc
    by_contra hne
    rw [h.2 hne] at hc
    cases hc
  refine ⟨?_, ?_, ?_⟩
  · cases htemplate : env.template payload with
    | some err => exact .inr (List.mem_append_left _ (hfailure htemplate))
    | none =>
      refine .inl fun target htarget => List.mem_append_left _ ?_
      exact mem_emailOutcomes htemplate (h.mem_recipients htemplate htarget)
  · rcases List.eq_nil_or_concat (webhookChannels env payload) with hnil | ⟨init, c, hconcat⟩
    · exact .inl (by rw [hnil]; exact List.nil_sublist _)
    · have hc : c ∈ webhookChannels env payload := by simp [hconcat]
      cases hbody : env.body payload with
      | some err =>
        rw [webhookOutcomes_of_body (hlookup c hc) (List.ne_nil_of_mem hc) hbody]
        exact .inr (by simp)
      | none =>
        rw [webhookOutcomes_eq (hlookup c hc) hbody]
        exact .inl (List.sublist_append_right _ _)
  · rintro (⟨target, htarget, huntold⟩ | ⟨c, hc, huntold⟩)
    · cases htemplate : env.template payload with
      | some err => exact ⟨_, List.mem_append_left _ (hfailure htemplate), .inl rfl⟩
      | none =>
        have hmem := h.mem_recipients htemplate htarget
        refine ⟨_, List.mem_append_left _ (mem_emailOutcomes htemplate hmem), .inl ?_⟩
        have hmail : env.mail target ≠ none := fun hmail => huntold ⟨htemplate, hmem, hmail⟩
        simp [addressOutcome, hmail]
    · cases hbody : env.body payload with
      | some err =>
        rw [webhookOutcomes_of_body (hlookup c hc) (List.ne_nil_of_mem hc) hbody]
        exact ⟨notifierFailure "Webhook", by simp, .inl rfl⟩
      | none =>
        rw [webhookOutcomes_eq (hlookup c hc) hbody]
        refine ⟨channelOutcome env c, List.mem_append_right _ (List.mem_map_of_mem hc), .inl ?_⟩
        have hfetch : (env.fetch c).ok ≠ true := fun hok => huntold ⟨hlookup c hc, hbody, hok⟩
        simp [channelOutcome, hfetch]

/-- **And only there.** -/
lemma looksUp_of_accounted
    (h : Accounted env payload (emailOutcomes env payload ++ webhookOutcomes env payload)) :
    LooksUp env payload := by
  constructor
  · intro hlookup htemplate target htarget
    have hchannels : emailChannels env payload = [] := by
      unfold emailChannels
      cases hl : env.emailLookup with
      | none => exact (hlookup hl).elim
      | some err => rfl
    have hemail : ∀ o, o.1 = "Email" → o.2.2 ≠ some .skipped →
        o ∈ emailOutcomes env payload ++ webhookOutcomes env payload →
        ∃ target ∈ recipients payload [], o = addressOutcome env target := by
      intro o ho hskip hmem
      rcases List.mem_append.1 hmem with hmem | hmem
      · unfold emailOutcomes at hmem
        rw [htemplate, hchannels] at hmem
        dsimp only at hmem
        split_ifs at hmem
        · rw [List.mem_singleton.1 hmem] at hskip
          exact (hskip rfl).elim
        · obtain ⟨target, hrec, rfl⟩ := List.mem_map.1 hmem
          exact ⟨target, hrec, rfl⟩
      · exact (channel_of_mem_webhookOutcomes hmem ho).elim
    rcases h.emails with hall | hfailure
    · have hskip : (addressOutcome env target).2.2 ≠ some .skipped := by
        unfold addressOutcome
        split_ifs <;> simp
      obtain ⟨target', hrec, heq⟩ := hemail _ rfl hskip (hall target htarget)
      obtain rfl : target = target' := by simpa [addressOutcome] using congrArg (·.2.1) heq
      have hmem := List.mem_filter.1 (List.mem_eraseDups.1 hrec)
      simpa using hmem.1
    · obtain ⟨target', -, heq⟩ := hemail _ rfl (by simp [notifierFailure]) hfailure
      simp [notifierFailure, addressOutcome] at heq
  · intro hlookup
    have hnil : webhookOutcomes env payload = [] := by
      unfold webhookOutcomes
      cases hl : env.webhookLookup with
      | none => exact (hlookup hl).elim
      | some err => rfl
    refine List.eq_nil_iff_forall_not_mem.2 fun c hc => ?_
    rcases h.webhooks with hall | hfailure
    · have hmem := hall.subset (List.mem_map_of_mem hc)
      rw [hnil, List.append_nil] at hmem
      exact text_ne_of_mem_webhookChannels hc (channel_of_mem_emailOutcomes hmem)
    · rw [hnil, List.append_nil] at hfailure
      exact absurd (channel_of_mem_emailOutcomes hfailure) (by simp [notifierFailure])

/-- The outcomes that a dispatch leaves behind. -/
lemma outcomes_of_ended {es : List DispatchEvent} (henabled : payload.incidentAlerts ≠ some false)
    (h : Run (StoringStep payload) (dispatch payload (defaultNotifiers env)) es s)
    (hended : s.Ended payload alwaysStored) : s.stored.map (·.outcome) =
      emailOutcomes env payload ++ webhookOutcomes env payload := by
  rw [stored_of_ended h hended, outcomes_promised (by simpa [Payload.optedOut] using henabled)]

/-- **Every destination of a dispatch is accounted for, however it runs and whatever else fails,
exactly when no failed lookup hides one.** -/
theorem accounted_iff (env : DeliveryEnv) (payload : Payload)
    (henabled : payload.incidentAlerts ≠ some false) :
    (∀ es s, Run (StoringStep payload) (dispatch payload (defaultNotifiers env)) es s →
        s.Ended payload alwaysStored → Accounted env payload (s.stored.map (·.outcome))) ↔
      LooksUp env payload := by
  constructor
  · intro h
    obtain ⟨es, s, hrun, hended⟩ :=
      Dispatch.exists_ended payload alwaysStored (defaultNotifiers env)
    have haccounted := h es s hrun hended
    rw [outcomes_of_ended henabled hrun hended] at haccounted
    exact looksUp_of_accounted haccounted
  · intro h es s hrun hended
    rw [outcomes_of_ended henabled hrun hended]
    exact h.accounted

/-- The owner has an active webhook; its receiver and the mail server work. -/
def sampleDelivery (webhookLookup : Option JsError) : DeliveryEnv where
  channels := [⟨7, 2, .webhook, "https://hooks.test/1", true⟩]
  emailLookup := none
  webhookLookup := webhookLookup
  template _ := none
  body _ := none
  mail _ := none
  fetch _ := .response 204

/-- With working lookups. -/
theorem accounted_iff_sample :
    (∀ es s, Run (StoringStep samplePayload)
        (dispatch samplePayload (defaultNotifiers (sampleDelivery none))) es s →
        s.Ended samplePayload alwaysStored →
        Accounted (sampleDelivery none) samplePayload (s.stored.map (·.outcome))) ↔
      LooksUp (sampleDelivery none) samplePayload :=
  accounted_iff (sampleDelivery none) samplePayload (by decide)

/-- The channel lookup of the webhook notifier fails: the e-mail is delivered and recorded, and that
the webhook was not told is recorded nowhere. -/
theorem accounted_fails_on_failed_lookup :
    ¬∀ es s, Run (StoringStep samplePayload)
        (dispatch samplePayload (defaultNotifiers (sampleDelivery (some ⟨"timed out", none⟩))))
        es s →
        s.Ended samplePayload alwaysStored →
        Accounted (sampleDelivery (some ⟨"timed out", none⟩)) samplePayload
          (s.stored.map (·.outcome)) := by
  intro h
  obtain ⟨es, s, hrun, hended⟩ := Dispatch.exists_ended samplePayload alwaysStored
    (defaultNotifiers (sampleDelivery (some ⟨"timed out", none⟩)))
  have haccounted := h es s hrun hended
  rw [outcomes_of_ended (by decide) hrun hended] at haccounted
  have hnil := (looksUp_of_accounted haccounted).2 (by simp [sampleDelivery])
  exact absurd hnil (by decide)

end WatchTower

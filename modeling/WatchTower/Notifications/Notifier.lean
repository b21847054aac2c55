import WatchTower.Probe.Node
import WatchTower.Scheduler.Store
import WatchTower.Transition.Gather
import WatchTower.Transition.Run

set_option relaxedAutoImplicit false
set_option autoImplicit false

/-!
# Notifiers, the registry and dispatch

`notifications/notifier.js`. A notifier is an object of third-party code: `supports` and `send` may
do anything. A dispatch asks every registered notifier whether it supports the event, sends through
those that do, all at once, and when all sends have ended builds the list of results, counts them,
and writes one audit row each, again all at once.

## Main definitions

* `WatchTower.Payload`, `WatchTower.SendOutcome`, `WatchTower.NotificationResult`,
  `WatchTower.AuditRow` — what is sent, returned and recorded.
* `WatchTower.Notifier`, `WatchTower.register`, `WatchTower.unregister` — the registry.
* `WatchTower.Notifier.report` — the entries of one notifier.
* `WatchTower.Dispatch`, `WatchTower.dispatch`, `WatchTower.DispatchStep` — a call of `dispatch`.

## Main results

* `WatchTower.registered_nodup` — a registry never holds two notifiers of one name.
-/

namespace WatchTower

open Transition

/-! ## What is sent and returned -/

/-- The argument of `dispatch`: the event with its incident, monitor and owner. -/
structure Payload extends Notification where
  /-- `user.email`. -/
  email : Option String
  /-- `user.preferences.incidentAlerts`. -/
  incidentAlerts : Option Bool

/-- `status` of a result. The contract names three values; a notifier may return any. -/
inductive DeliveryStatus
  | delivered
  | failed
  | skipped
  | other (text : String)
  deriving DecidableEq

/-- An object that `send` returns, by the properties that are read. Its `channel` takes the place of
the notifier's name if it is there, also when it is undefined. -/
structure SendOutcome where
  /-- `channel`, if the object has it. -/
  channel : Option (Option String) := none
  /-- `status`. -/
  status : Option DeliveryStatus
  /-- `target`. -/
  target : Option String := none
  /-- `detail`. -/
  detail : Option String := none

/-- What `send` returns: an array or not, and some of it may be falsy. -/
inductive Returned
  | one (outcome : Option SendOutcome)
  | many (outcomes : List (Option SendOutcome))

/-- What a promise rejects with, by its `message`. -/
inductive Reason
  /-- `undefined`, which has no properties. -/
  | undefined
  /-- `null`, which has none either. -/
  | null
  /-- A value with this message, nothing when that is falsy. -/
  | message (text : Option String)
  /-- A value whose message cannot be put into a string, such as a symbol: that throws. -/
  | unprintable (err : JsError)

/-- `reason?.message` in a template string. -/
def Reason.optionalMessage : Reason → Except JsError (Option String)
  | .undefined | .null => .ok none
  | .message text => .ok text
  | .unprintable err => .error err

/-- `err.message` in a template string. -/
def Reason.requiredMessage : Reason → Except JsError (Option String)
  | .undefined => .error ⟨"Cannot read properties of undefined (reading 'message')", none⟩
  | .null => .error ⟨"Cannot read properties of null (reading 'message')", none⟩
  | .message text => .ok text
  | .unprintable err => .error err

/-- How `await notifier.send(payload)` ends. -/
inductive Sent
  /-- It returns. -/
  | returned (value : Returned)
  /-- `send` throws, or its promise rejects. -/
  | failed (reason : Reason)

/-- A notifier. -/
structure Notifier where
  /-- `name`. -/
  name : String
  /-- `supports(event)`, which may throw. -/
  supports : IncidentEvent → Except JsError Js
  /-- What sending leads to. -/
  send : Payload → Sent

/-- An entry of the list that `dispatch` resolves with. -/
structure NotificationResult where
  /-- `channel`. -/
  channel : Option String
  /-- `status`. -/
  status : Option DeliveryStatus
  /-- `target`. -/
  target : Option String
  /-- `detail`. -/
  detail : Option String
  deriving DecidableEq

/-- The object passed to `notificationLogModel.create`. -/
structure AuditRow where
  /-- The owner. -/
  userId : ℕ
  /-- The monitor. -/
  monitorId : ℕ
  /-- The label of the event. -/
  event : String
  /-- The channel. -/
  channel : String
  /-- Where it was sent. -/
  target : Option String
  /-- What came of it. -/
  status : Option DeliveryStatus
  /-- More about that. -/
  detail : Option String
  deriving DecidableEq

/-- `EVENT_LABELS`. -/
def eventLabel : IncidentEvent → String
  | .opened => "CRITICAL_OUTAGE"
  | .closed => "HEALTH_RECOVERY"

/-- The row that `#record` writes. -/
def auditRow (payload : Payload) (result : NotificationResult) : AuditRow where
  userId := payload.userId
  monitorId := payload.monitorId
  event := eventLabel payload.event
  channel := orText result.channel "Email"
  target := result.target
  status := result.status
  detail := result.detail

/-! ## The registry -/

/-- The argument of `register`. -/
structure Candidate where
  /-- `name`. -/
  name : Option String
  /-- `supports`, if it is a function. -/
  supports : Option (IncidentEvent → Except JsError Js)
  /-- `send`, if it is a function. -/
  send : Option (Payload → Sent)

/-- `register`: a notifier replaces the one of its name, and goes to the end. -/
def register (notifiers : List Notifier) (notifier : Candidate) : Except JsError (List Notifier) :=
  match notifier.name, notifier.send with
  | some name, some send =>
    if name = "" then .error ⟨"Notifier must have a name and a send() function", none⟩
    else .ok (notifiers.filter (·.name ≠ name) ++
      [⟨name, notifier.supports.getD fun _ => .ok (.bool true), send⟩])
  | _, _ => .error ⟨"Notifier must have a name and a send() function", none⟩

/-- `unregister`. -/
def unregister (notifiers : List Notifier) (name : String) : List Notifier :=
  notifiers.filter (·.name ≠ name)

/-- The lists of notifiers that a registry can hold. -/
inductive Registered : List Notifier → Prop
  | nil : Registered []
  | register {ns ns' : List Notifier} {notifier : Candidate} :
      Registered ns → register ns notifier = .ok ns' → Registered ns'
  | unregister {ns : List Notifier} (name : String) :
      Registered ns → Registered (unregister ns name)

/-- **A registry never holds two notifiers of one name.** -/
theorem registered_nodup {ns : List Notifier} (h : Registered ns) : (ns.map (·.name)).Nodup := by
  induction h with
  | nil => simp
  | @register ns ns' notifier _ heq ih =>
    unfold register at heq
    split at heq
    · split_ifs at heq
      obtain rfl := Except.ok.inj heq
      rw [List.map_append, List.nodup_append]
      refine ⟨ih.sublist (List.filter_sublist.map _), by simp, fun a ha b hb => ?_⟩
      obtain ⟨n, hn, rfl⟩ := List.mem_map.1 ha
      simp only [List.map_cons, List.map_nil, List.mem_singleton] at hb
      have := (List.mem_filter.1 hn).2
      rw [hb]
      simpa using this
    · cases heq
  | unregister name _ ih => exact ih.sublist (List.filter_sublist.map _)

/-! ## Dispatch -/

/-- The entries of a value that `send` returned. -/
def Returned.outcomes : Returned → List SendOutcome
  | .one outcome => outcome.toList
  | .many outcomes => outcomes.filterMap id

/-- `{ channel: notifier.name, ...outcome }`. -/
def SendOutcome.entry (name : String) (outcome : SendOutcome) : NotificationResult where
  channel := outcome.channel.getD (some name)
  status := outcome.status
  target := outcome.target
  detail := outcome.detail

/-- The entry of a notifier that threw. -/
def failedEntry (name : String) (message : Option String) : NotificationResult where
  channel := some name
  status := some .failed
  target := none
  detail := some (message.getD "Notifier threw")

/-- The entries of a notifier whose send has ended. The log line of a failure puts the message of
its reason into a string. -/
def Notifier.report (n : Notifier) : Sent → Except JsError (List NotificationResult)
  | .returned value => .ok (value.outcomes.map (·.entry n.name))
  | .failed reason => reason.optionalMessage.map fun text => [failedEntry n.name text]

/-- The notifiers that support an event, asked in order. -/
def applicable (event : IncidentEvent) : List Notifier → Except JsError (List Notifier)
  | [] => .ok []
  | n :: ns => do
    let supported ← n.supports event
    let rest ← applicable event ns
    return if supported.truthy then n :: rest else rest

/-- The entries of all notifiers, in order. -/
def reports : List (Notifier × Sent) → Except JsError (List NotificationResult)
  | [] => .ok []
  | (n, sent) :: rest => do
    let own ← n.report sent
    let others ← reports rest
    return own ++ others

/-- The promise of a dispatch. -/
inductive DispatchPromise
  | pending
  | resolved (results : List NotificationResult)
  | rejected (err : JsError)

/-- How an audit write ends. -/
inductive Recorded
  /-- The row is stored. -/
  | stored
  /-- `notificationLogModel.create` throws, or its promise rejects. -/
  | failed (reason : Reason)

/-- How `#record` ends then: the failure of a write is caught, but the log line reads its
message. -/
def Recorded.logged : Recorded → Except JsError Unit
  | .stored => .ok ()
  | .failed reason => reason.requiredMessage.map fun _ => ()

/-- A call of `dispatch`. -/
structure Dispatch where
  /-- `applicable`. -/
  notifiers : List Notifier
  /-- The sends. -/
  sends : Slots Sent
  /-- `results`, once they have been built. -/
  results : Option (List NotificationResult)
  /-- The labels that `notificationsTotal` was incremented with. -/
  counted : List (String × Option DeliveryStatus)
  /-- The labels that `notificationFailuresTotal` was incremented with. -/
  failures : List String
  /-- The rows passed to `notificationLogModel.create`, one call each. -/
  attempted : List AuditRow
  /-- The calls, and how they have ended. -/
  audits : Slots Recorded
  /-- The promise. -/
  promise : DispatchPromise

/-- A user who has turned incident alerts off. -/
def Payload.optedOut (payload : Payload) : Bool := payload.incidentAlerts = some false

/-- The entry of an opt-out. -/
def optOutEntry (payload : Payload) : NotificationResult where
  channel := some "Email"
  status := some .skipped
  target := payload.email
  detail := some "Incident alerts are disabled in preferences"

namespace Dispatch

/-- The call returns `results` when every audit write has ended. -/
def settle (s : Dispatch) : Dispatch :=
  match s.results, s.audits.values? with
  | some results, some _ => { s with promise := .resolved results }
  | _, _ => s

/-- An audit write has ended. A `#record` that throws rejects the call, which settles once. -/
def recorded (s : Dispatch) (i : ℕ) (ended : Recorded) : Dispatch :=
  let s := { s with audits := s.audits.fill i ended }
  match s.promise, ended.logged with
  | .pending, .ok () => s.settle
  | .pending, .error err => { s with promise := .rejected err }
  | _, _ => s

/-- One call of `#record` for each result. -/
def record (s : Dispatch) (payload : Payload) (results : List NotificationResult) : Dispatch :=
  ({ s with
    results := some results
    attempted := results.map (auditRow payload)
    audits := .empty results.length }).settle

/-- The results are counted. -/
def count (s : Dispatch) (results : List NotificationResult) : Dispatch :=
  { s with
    counted := results.map fun r => (orText r.channel "unknown", r.status)
    failures := (results.filter (·.status = some .failed)).map (orText ·.channel "unknown") }

/-- When every send has ended, the results are built, counted and recorded. -/
def collect (s : Dispatch) (payload : Payload) : Dispatch :=
  match s.sends.values? with
  | none => s
  | some sent =>
    match reports (s.notifiers.zip sent) with
    | .error err => { s with promise := .rejected err }
    | .ok results => (s.count results).record payload results

end Dispatch

/-- A call of `dispatch`, up to its first wait. -/
def dispatch (payload : Payload) (notifiers : List Notifier) : Dispatch :=
  let s : Dispatch := ⟨[], [], none, [], [], [], [], .pending⟩
  if payload.optedOut then s.record payload [optOutEntry payload]
  else
    match applicable payload.event notifiers with
    | .error err => { s with promise := .rejected err }
    | .ok ns => ({ s with notifiers := ns, sends := .empty ns.length }).collect payload

/-- What a dispatch waits for. -/
inductive DispatchEvent
  /-- A send ends. -/
  | sent (i : ℕ)
  /-- An audit write ends. -/
  | recorded (i : ℕ)

/-- The sends and the audit writes end in any order, each audit write as `audit` says. -/
inductive DispatchStep (payload : Payload) (audit : ℕ → Recorded) :
    Dispatch → DispatchEvent → Dispatch → Prop
  | sent {s : Dispatch} {i : ℕ} {n : Notifier} :
      s.sends.Running i → s.notifiers[i]? = some n →
      DispatchStep payload audit s (.sent i)
        (({ s with sends := s.sends.fill i (n.send payload) }).collect payload)
  | recorded {s : Dispatch} {i : ℕ} :
      s.audits.Running i → DispatchStep payload audit s (.recorded i) (s.recorded i (audit i))

end WatchTower

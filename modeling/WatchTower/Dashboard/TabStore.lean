import WatchTower.Runtime.Text
import WatchTower.Transition.Run

set_option relaxedAutoImplicit false
set_option autoImplicit false

/-!
# Accounts that share a tab

The store of the frontend holds the account that is signed in on the tab and the monitors fetched
for it. Logging out wipes the whole store, so that the monitors of one account are not "rendered to
the next account that signs in on the same tab".

The requests of the tab carry the session cookie as it is when they are sent, and are answered
later, in any order; the server answers with what belongs to the account of the cookie. The cookie
is shared with the other tabs of the browser. Neither the answers nor the cookie ask the store.

## Main definitions

* `WatchTower.TabState`, `WatchTower.rootReducer` — the slices that pages read, and the reducer.
* `WatchTower.Tab`, `WatchTower.Tab.send`, `WatchTower.Tab.receive` — `useMonitors` and `useAuth`,
  before and after the request that each of their functions awaits.
* `WatchTower.TabStep` — a request is sent or answered, or another tab changes the cookie.
* `WatchTower.TabIsolated` — the store holds monitors of the account that is signed in only.
* `WatchTower.Prompt`, `WatchTower.PromptTabStep` — no answer crosses a change of the session.

## Main results

* `WatchTower.isolated_of_prompt` — the accounts are isolated whenever every answer is prompt.
* `WatchTower.isolated_of_logout` — whatever has happened before, a logout sets the tab right.
-/

namespace WatchTower

open Transition

/-! ## The store -/

/-- A monitor as the API sends it. -/
structure TabMonitor where
  /-- `_id`. -/
  id : Text
  /-- The account that it belongs to. -/
  owner : ℕ
  deriving DecidableEq

/-- The state of the slice `monitor`. -/
structure MonitorState where
  /-- `monitors`. -/
  monitors : List TabMonitor
  /-- `loading`. -/
  loading : Bool
  /-- `error`. -/
  error : Option Text
  /-- `lastFetched`. -/
  lastFetched : Option Time
  deriving DecidableEq

/-- The state of the slice `auth`, but for the sign-up. -/
structure AuthState where
  /-- `user`: the account. -/
  user : Option ℕ
  /-- `loading`. -/
  loading : Bool
  /-- `error`. -/
  error : Option Text
  /-- `isAuthenticated`. -/
  isAuthenticated : Bool
  deriving DecidableEq

/-- The store. -/
structure TabState where
  /-- The slice `auth`. -/
  auth : AuthState
  /-- The slice `monitor`. -/
  monitor : MonitorState
  deriving DecidableEq

/-- What is dispatched. -/
inductive TabAction
  /-- `monitor/setLoading`. -/
  | setMonitorLoading (loading : Bool)
  /-- `monitor/setError`. -/
  | setMonitorError (message : Text)
  /-- `monitor/setMonitors`, at the time that the reducer reads. -/
  | setMonitors (monitors : List TabMonitor) (now : Time)
  /-- `monitor/addMonitor`. -/
  | addMonitor (monitor : TabMonitor)
  /-- `monitor/removeMonitor`. -/
  | removeMonitor (id : Text)
  /-- `auth/setUser`. -/
  | setUser (user : Option ℕ)
  /-- `auth/setLoading`. -/
  | setAuthLoading (loading : Bool)
  /-- `auth/setError`. -/
  | setAuthError (message : Text)
  /-- `auth/setAuthenticated`. -/
  | setAuthenticated (authenticated : Bool)
  /-- `auth/clearAuthState`. -/
  | clearAuthState

/-- The initial state. -/
def TabState.initial : TabState := ⟨⟨none, false, none, false⟩, ⟨[], false, none, none⟩⟩

/-- `monitorReducer`. -/
def monitorReducer (s : MonitorState) : TabAction → MonitorState
  | .setMonitorLoading loading => { s with loading := loading }
  | .setMonitorError message => { s with error := some message, loading := false }
  | .setMonitors monitors now =>
    { s with monitors := monitors, error := none, lastFetched := some now }
  | .addMonitor monitor => { s with monitors := monitor :: s.monitors, error := none }
  | .removeMonitor id =>
    { s with monitors := s.monitors.filter fun m => m.id ≠ id, error := none }
  | _ => s

/-- `authReducer`. -/
def authReducer (s : AuthState) : TabAction → AuthState
  | .setUser user => { s with user := user }
  | .setAuthLoading loading => { s with loading := loading }
  | .setAuthError message => { s with error := some message }
  | .setAuthenticated authenticated => { s with isAuthenticated := authenticated }
  | .clearAuthState => ⟨none, false, none, false⟩
  | _ => s

/-- `appReducer`. -/
def appReducer (s : TabState) (action : TabAction) : TabState :=
  ⟨authReducer s.auth action, monitorReducer s.monitor action⟩

/-- `rootReducer`: logging out wipes the whole store. -/
def rootReducer (s : TabState) : TabAction → TabState
  | .clearAuthState => appReducer .initial .clearAuthState
  | action => appReducer s action

/-! ## The hooks -/

/-- What a request of the tab is for. -/
inductive TabRequest
  /-- `handleGetMonitors`. -/
  | getMonitors
  /-- `handleCreateMonitor`. -/
  | createMonitor
  /-- `handleDeleteMonitor(monitorId)`. -/
  | deleteMonitor (monitorId : Text)
  /-- `handleLogin`, `handleGoogleSignIn`, `handleRegister`: what a token comes back from. -/
  | signIn
  /-- `handleGetUserProfile`, by `initAuth` of the application when `restoring`; or an update of the
  profile, which answers with it. -/
  | getUserProfile (restoring : Bool)
  /-- `handleLogout`. -/
  | logout
  deriving DecidableEq

/-- A request on its way. -/
structure SentRequest where
  /-- What it is for. -/
  request : TabRequest
  /-- The account of the cookie that it carries. -/
  account : Option ℕ
  /-- How often the session had changed when it was sent. -/
  epoch : ℕ
  deriving DecidableEq

/-- What is answered. -/
inductive TabAnswer
  /-- The monitors, with the time at which they are stored. -/
  | monitors (monitors : List TabMonitor) (now : Time)
  /-- The new monitor. -/
  | created (monitor : TabMonitor)
  /-- The monitor is deleted. -/
  | deleted
  /-- A user and a token: the account that has signed in. -/
  | token (account : ℕ)
  /-- The profile of an account. -/
  | profile (account : ℕ)
  /-- The cookie is cleared. -/
  | loggedOut
  /-- The request has failed. -/
  | failed (message : Text)
  deriving DecidableEq

/-- The tab. -/
structure Tab where
  /-- The account of the session cookie. -/
  session : Option ℕ
  /-- The store. -/
  store : TabState
  /-- The requests on their way. -/
  sent : List SentRequest
  /-- How often the session has changed: a sign-in, a logout, or a change by another tab. -/
  epoch : ℕ

/-- A tab that has been opened. -/
def Tab.opened (session : Option ℕ) : Tab := ⟨session, .initial, [], 0⟩

/-- Whether a page under `ProtectedRoute` makes the request. -/
def TabRequest.isProtected : TabRequest → Bool
  | .getMonitors | .createMonitor | .deleteMonitor _ | .logout => true
  | .signIn | .getUserProfile _ => false

/-- What is dispatched before the request. -/
def TabRequest.before : TabRequest → TabAction
  | .getMonitors | .createMonitor | .deleteMonitor _ => .setMonitorLoading true
  | .signIn | .getUserProfile _ | .logout => .setAuthLoading true

/-- A request is sent. -/
def Tab.send (s : Tab) (request : TabRequest) : Tab :=
  { s with
    store := rootReducer s.store request.before
    sent := s.sent ++ [⟨request, s.session, s.epoch⟩] }

/-- What the server can answer: what belongs to the account of the cookie, and nothing without a
cookie but a sign-in. Any request can fail. -/
def SentRequest.Answers (r : SentRequest) : TabAnswer → Prop
  | .monitors monitors _ => r.request = .getMonitors ∧ r.account.isSome ∧
      ∀ m ∈ monitors, r.account = some m.owner
  | .created monitor => r.request = .createMonitor ∧ r.account = some monitor.owner
  | .deleted => r.account.isSome ∧ ∃ id, r.request = .deleteMonitor id
  | .token _ => r.request = .signIn
  | .profile account =>
    r.account = some account ∧ ∃ restoring, r.request = .getUserProfile restoring
  | .loggedOut => r.request = .logout
  | .failed _ => True

/-- What is dispatched after a request has failed. -/
def TabRequest.dispatchesFailure (message : Text) : TabRequest → List TabAction
  | .getMonitors | .createMonitor | .deleteMonitor _ =>
    [.setMonitorError message, .setMonitorLoading false]
  | .signIn | .getUserProfile _ => [.setAuthError message, .setAuthLoading false]
  | .logout => [.setAuthLoading false, .clearAuthState]

/-- What is dispatched after the answer. -/
def TabRequest.dispatches (request : TabRequest) : TabAnswer → List TabAction
  | .monitors monitors now => [.setMonitors monitors now, .setMonitorLoading false]
  | .created monitor => [.addMonitor monitor, .setMonitorLoading false]
  | .deleted =>
    match request with
    | .deleteMonitor id => [.removeMonitor id, .setMonitorLoading false]
    | _ => []
  | .token account => [.setUser (some account), .setAuthenticated true, .setAuthLoading false]
  | .profile account =>
    match request with
    | .getUserProfile true =>
      [.setUser (some account), .setAuthLoading false, .setAuthenticated true]
    | _ => [.setUser (some account), .setAuthLoading false]
  | .loggedOut => [.setAuthLoading false, .clearAuthState]
  | .failed message => request.dispatchesFailure message

/-- The session after an answer: a sign-in sets the cookie, and a logout clears it. -/
def sessionAfter (session : Option ℕ) : TabAnswer → Option ℕ
  | .token account => some account
  | .loggedOut => none
  | _ => session

/-- Whether a request changes the session when it is so answered: a logout ends it on this tab, also
when it fails. -/
def TabRequest.changesSession (request : TabRequest) : TabAnswer → Bool
  | .token _ => true
  | _ => request = .logout

/-- A request is answered; `sent` are the others. -/
def Tab.receive (s : Tab) (request : TabRequest) (answer : TabAnswer) (sent : List SentRequest) :
    Tab where
  session := sessionAfter s.session answer
  store := (request.dispatches answer).foldl rootReducer s.store
  sent := sent
  epoch := if request.changesSession answer then s.epoch + 1 else s.epoch

/-- What happens. -/
inductive TabEvent
  /-- A request is sent. -/
  | send (request : TabRequest)
  /-- One is answered. -/
  | answer (r : SentRequest) (answer : TabAnswer)
  /-- The cookie is changed by another tab. -/
  | otherTab (session : Option ℕ)

/-- The steps. -/
inductive TabStep : Tab → TabEvent → Tab → Prop
  | send {s : Tab} {request : TabRequest} :
      (request.isProtected = true → s.store.auth.isAuthenticated = true) →
      TabStep s (.send request) (s.send request)
  | answer {s : Tab} {pre post : List SentRequest} {r : SentRequest} {answer : TabAnswer} :
      s.sent = pre ++ r :: post →
      r.Answers answer →
      TabStep s (.answer r answer) (s.receive r.request answer (pre ++ post))
  | otherTab {s : Tab} {session : Option ℕ} :
      TabStep s (.otherTab session) { s with session := session, epoch := s.epoch + 1 }

/-! ## Isolation -/

/-- **Isolation**: every monitor in the store belongs to the account that is signed in. -/
def TabIsolated (s : Tab) : Prop :=
  ∀ m ∈ s.store.monitor.monitors, s.store.auth.user = some m.owner

/-- No answer crosses a change of the session, nobody signs in over somebody else, and other tabs
keep the session of one who is signed in. -/
def Prompt (s : Tab) : TabEvent → Prop
  | .send _ | .answer _ (.failed _) | .answer _ .loggedOut => True
  | .answer r (.token _) => r.epoch = s.epoch ∧ s.store.auth.isAuthenticated = false
  | .answer r _ => r.epoch = s.epoch
  | .otherTab _ => s.store.auth.isAuthenticated = false

/-- The steps of a tab on which everything is prompt. -/
def PromptTabStep (s : Tab) (e : TabEvent) (s' : Tab) : Prop := TabStep s e s' ∧ Prompt s e

variable {s s' : Tab} {e : TabEvent} {es : List TabEvent}

/-! ## What an answer leaves -/

/-- The user in the store after an answer. -/
def userAfter (s : Tab) (request : TabRequest) : TabAnswer → Option ℕ
  | .token account | .profile account => some account
  | .loggedOut => none
  | .failed _ => if request = .logout then none else s.store.auth.user
  | _ => s.store.auth.user

/-- The monitors in the store after an answer. -/
def monitorsAfter (s : Tab) (request : TabRequest) : TabAnswer → List TabMonitor
  | .monitors monitors _ => monitors
  | .created monitor => monitor :: s.store.monitor.monitors
  | .deleted =>
    match request with
    | .deleteMonitor id => s.store.monitor.monitors.filter fun m => m.id ≠ id
    | _ => s.store.monitor.monitors
  | .loggedOut => []
  | .failed _ => if request = .logout then [] else s.store.monitor.monitors
  | _ => s.store.monitor.monitors

/-- Whether somebody is signed in after an answer. -/
def authenticatedAfter (s : Tab) (request : TabRequest) : TabAnswer → Bool
  | .token _ => true
  | .profile _ => request = .getUserProfile true ∨ s.store.auth.isAuthenticated = true
  | .loggedOut => false
  | .failed _ => if request = .logout then false else s.store.auth.isAuthenticated
  | _ => s.store.auth.isAuthenticated

/-- **The store after an answer**, as far as isolation goes. -/
lemma store_receive (s : Tab) (request : TabRequest) (answer : TabAnswer)
    (sent : List SentRequest) :
    (s.receive request answer sent).store.auth.user = userAfter s request answer ∧
    (s.receive request answer sent).store.monitor.monitors = monitorsAfter s request answer ∧
    (s.receive request answer sent).store.auth.isAuthenticated =
      authenticatedAfter s request answer := by
  cases answer with
  | failed message => cases request <;> exact ⟨rfl, rfl, rfl⟩
  | deleted => cases request <;> exact ⟨rfl, rfl, rfl⟩
  | profile account =>
    rcases request with _ | _ | _ | _ | (_ | _) | _ <;> simp [Tab.receive, TabRequest.dispatches,
      rootReducer, appReducer, authReducer, monitorReducer, userAfter, monitorsAfter,
      authenticatedAfter]
  | _ => exact ⟨rfl, rfl, rfl⟩

/-- Sending a request leaves the accounts and the monitors alone. -/
lemma store_send (s : Tab) (request : TabRequest) :
    (s.send request).store.auth.user = s.store.auth.user ∧
    (s.send request).store.monitor.monitors = s.store.monitor.monitors ∧
    (s.send request).store.auth.isAuthenticated = s.store.auth.isAuthenticated := by
  cases request <;> exact ⟨rfl, rfl, rfl⟩

/-! ## Prompt answers -/

/-- What prompt answers keep. -/
structure SessionKept (s : Tab) : Prop where
  isolated : TabIsolated s
  /-- While nobody is signed in, nothing is fetched. -/
  idle : s.store.auth.isAuthenticated = false → s.store.monitor.monitors = [] ∧
    ∀ r ∈ s.sent, r.epoch = s.epoch → r.request.isProtected = false
  /-- Who is signed in has the session. -/
  user : s.store.auth.isAuthenticated = true → s.store.auth.user = s.session
  /-- The session is carried by the requests that have been sent since it changed. -/
  carried : ∀ r ∈ s.sent, r.epoch = s.epoch → r.account = s.session
  past : ∀ r ∈ s.sent, r.epoch ≤ s.epoch

/-- A request is sent. -/
lemma SessionKept.send (hs : SessionKept s) {request : TabRequest}
    (h : request.isProtected = true → s.store.auth.isAuthenticated = true) :
    SessionKept (s.send request) := by
  obtain ⟨huser, hmonitors, hauth⟩ := store_send s request
  refine ⟨?_, fun hout => ?_, fun hin => ?_, ?_, ?_⟩
  · rw [TabIsolated, huser, hmonitors]
    exact hs.isolated
  · rw [hauth] at hout
    obtain ⟨hnil, hrequests⟩ := hs.idle hout
    refine ⟨hmonitors.trans hnil, ?_⟩
    change ∀ r ∈ s.sent ++ [_], _
    rw [List.forall_mem_append, List.forall_mem_singleton]
    refine ⟨hrequests, fun _ => ?_⟩
    rw [Bool.eq_false_iff]
    exact fun hprotected => by simp [h hprotected] at hout
  · rw [huser]
    exact hs.user (hauth.symm.trans hin)
  · change ∀ r ∈ s.sent ++ [_], _
    rw [List.forall_mem_append, List.forall_mem_singleton]
    exact ⟨hs.carried, fun _ => rfl⟩
  · change ∀ r ∈ s.sent ++ [_], _
    rw [List.forall_mem_append, List.forall_mem_singleton]
    exact ⟨hs.past, le_rfl⟩

/-- The session changes: no request carries it yet. -/
lemma sessionKept_of_changed (hpast : ∀ r ∈ s.sent, r.epoch < s.epoch) (hs : TabIsolated s)
    (hidle : s.store.auth.isAuthenticated = false → s.store.monitor.monitors = [])
    (huser : s.store.auth.isAuthenticated = true → s.store.auth.user = s.session) :
    SessionKept s := by
  refine ⟨hs, fun hout => ⟨hidle hout, fun r hr hepoch => ?_⟩, huser, fun r hr hepoch => ?_,
    fun r hr => (hpast r hr).le⟩
  · exact absurd hepoch (hpast r hr).ne
  · exact absurd hepoch (hpast r hr).ne

/-- An answer that keeps the session, and who is signed in. -/
lemma SessionKept.kept (hs : SessionKept s) {store : TabState} {sent : List SentRequest}
    (hsent : ∀ r ∈ sent, r ∈ s.sent) (hisolated : TabIsolated { s with store := store })
    (hidle : s.store.auth.isAuthenticated = false → store.monitor.monitors = [])
    (hauth : store.auth.isAuthenticated = s.store.auth.isAuthenticated)
    (huser : s.store.auth.isAuthenticated = true → store.auth.user = s.store.auth.user) :
    SessionKept { s with store := store, sent := sent } := by
  refine ⟨hisolated, fun hout => ?_, fun hin => ?_, fun r hr => hs.carried r (hsent r hr),
    fun r hr => hs.past r (hsent r hr)⟩
  · have hout' := hauth.symm.trans hout
    exact ⟨hidle hout', fun r hr => (hs.idle hout').2 r (hsent r hr)⟩
  · have hin' := hauth.symm.trans hin
    exact (huser hin').trans (hs.user hin')

/-- An answer to anything but a sign-in or a logout keeps the session. -/
lemma receive_eq {request : TabRequest} {answer : TabAnswer} (sent : List SentRequest)
    (hsession : sessionAfter s.session answer = s.session)
    (hchanges : request.changesSession answer = false) : s.receive request answer sent =
      { s with store := (request.dispatches answer).foldl rootReducer s.store, sent := sent } := by
  rw [Tab.receive, hsession, hchanges]
  rfl

/-- Who is answered in time, while somebody is signed in, is the user. -/
lemma SessionKept.user_eq (hs : SessionKept s) {r : SentRequest} (hr : r ∈ s.sent)
    (hepoch : r.epoch = s.epoch) (hprotected : r.request.isProtected = true) :
    s.store.auth.isAuthenticated = true ∧ s.store.auth.user = r.account := by
  have hin : s.store.auth.isAuthenticated = true := by
    by_contra hout
    have hopen := (hs.idle (Bool.eq_false_iff.2 hout)).2 r hr hepoch
    rw [hopen] at hprotected
    cases hprotected
  exact ⟨hin, (hs.user hin).trans (hs.carried r hr hepoch).symm⟩

/-- **The session ends on this tab**: whatever the store holds, a logout leaves it empty, and no
request carries the session that comes next. -/
lemma sessionKept_of_logout (hpast : ∀ r ∈ s.sent, r.epoch ≤ s.epoch) {answer : TabAnswer}
    {sent : List SentRequest} (hsent : ∀ r ∈ sent, r ∈ s.sent)
    (hmonitors : monitorsAfter s .logout answer = [])
    (hauth : authenticatedAfter s .logout answer = false) :
    SessionKept (s.receive .logout answer sent) := by
  obtain ⟨-, hmonitors', hauth'⟩ := store_receive s .logout answer sent
  rw [hmonitors] at hmonitors'
  rw [hauth] at hauth'
  have hepoch : (s.receive .logout answer sent).epoch = s.epoch + 1 := by
    cases answer <;> rfl
  refine sessionKept_of_changed (fun r hr => ?_) (fun m hm => ?_) (fun _ => hmonitors')
    fun hin => ?_
  · rw [hepoch]
    exact Nat.lt_succ_of_le (hpast r (hsent r hr))
  · rw [hmonitors'] at hm
    exact absurd hm List.not_mem_nil
  · rw [hauth'] at hin
    cases hin

/-- The other requests are on their way as well. -/
lemma mem_sent_of_mem {pre post : List SentRequest} {r : SentRequest}
    (hsent : s.sent = pre ++ r :: post) : ∀ r' ∈ pre ++ post, r' ∈ s.sent := by
  intro r' hr'
  rw [hsent]
  exact (List.sublist_cons_self r post |>.append_left pre).subset hr'

/-- The profile of the account that has the session. -/
lemma SessionKept.profile (hs : SessionKept s) {account : ℕ} {restoring : Bool}
    {sent : List SentRequest} (hsent : ∀ r ∈ sent, r ∈ s.sent) (hsession : s.session = some account)
    (huser : (s.receive (.getUserProfile restoring) (.profile account) sent).store.auth.user =
      some account)
    (hmonitors : (s.receive (.getUserProfile restoring) (.profile account)
      sent).store.monitor.monitors = s.store.monitor.monitors)
    (hauth : (s.receive (.getUserProfile restoring) (.profile account)
      sent).store.auth.isAuthenticated =
        authenticatedAfter s (.getUserProfile restoring) (.profile account)) :
    SessionKept (s.receive (.getUserProfile restoring) (.profile account) sent) := by
  refine ⟨?_, fun hout => ?_, fun _ => huser.trans hsession.symm,
    fun r hr => hs.carried r (hsent r hr), fun r hr => hs.past r (hsent r hr)⟩
  · rw [TabIsolated, huser, hmonitors, ← hsession]
    cases hin : s.store.auth.isAuthenticated with
    | true =>
      rw [← hs.user hin]
      exact hs.isolated
    | false =>
      rw [(hs.idle hin).1]
      exact List.forall_mem_nil _
  · rw [hauth] at hout
    have hout' : s.store.auth.isAuthenticated = false := by
      simp only [authenticatedAfter, decide_eq_false_iff_not, not_or, Bool.not_eq_true] at hout
      exact hout.2
    exact ⟨hmonitors.trans (hs.idle hout').1, fun r hr => (hs.idle hout').2 r (hsent r hr)⟩

/-- **A prompt answer** keeps the accounts apart. -/
lemma SessionKept.receive (hs : SessionKept s) {pre post : List SentRequest} {r : SentRequest}
    {answer : TabAnswer} (hsent : s.sent = pre ++ r :: post) (hanswers : r.Answers answer)
    (hprompt : Prompt s (.answer r answer)) :
    SessionKept (s.receive r.request answer (pre ++ post)) := by
  have hr : r ∈ s.sent := hsent ▸ List.mem_append_right _ List.mem_cons_self
  have hothers := mem_sent_of_mem hsent
  obtain ⟨huser, hmonitors, hauth⟩ := store_receive s r.request answer (pre ++ post)
  cases answer with
  | monitors monitors now =>
    obtain ⟨hrequest, -, howner⟩ := hanswers
    obtain ⟨hin, hsame⟩ := hs.user_eq hr hprompt (by rw [hrequest]; rfl)
    rw [receive_eq _ rfl (by rw [hrequest]; rfl)]
    refine hs.kept hothers (fun m hm => hsame.trans (howner m hm)) (fun hout => ?_) rfl fun _ => rfl
    rw [hin] at hout
    cases hout
  | created monitor =>
    obtain ⟨hrequest, howner⟩ := hanswers
    obtain ⟨hin, hsame⟩ := hs.user_eq hr hprompt (by rw [hrequest]; rfl)
    rw [receive_eq _ rfl (by rw [hrequest]; rfl)]
    refine hs.kept hothers ?_ (fun hout => ?_) rfl fun _ => rfl
    · exact List.forall_mem_cons.2 ⟨hsame.trans howner, hs.isolated⟩
    · rw [hin] at hout
      cases hout
  | deleted =>
    obtain ⟨-, id, hrequest⟩ := hanswers
    rw [hrequest, receive_eq _ rfl rfl]
    refine hs.kept hothers (fun m hm => hs.isolated m (List.mem_of_mem_filter hm)) (fun hout => ?_)
      rfl fun _ => rfl
    change s.store.monitor.monitors.filter _ = []
    rw [(hs.idle hout).1]
    rfl
  | token account =>
    have hnil := (hs.idle hprompt.2).1
    refine sessionKept_of_changed (fun r' hr' => ?_) (fun m hm => ?_) (fun _ => ?_) fun _ => huser
    · exact Nat.lt_succ_of_le (hs.past r' (hothers r' hr'))
    · rw [hmonitors.trans hnil] at hm
      exact absurd hm List.not_mem_nil
    · exact hmonitors.trans hnil
  | profile account =>
    obtain ⟨haccount, restoring, hrequest⟩ := hanswers
    rw [hrequest] at huser hmonitors hauth ⊢
    exact hs.profile hothers ((hs.carried r hr hprompt).symm.trans haccount) huser hmonitors hauth
  | loggedOut =>
    rw [show r.request = .logout from hanswers]
    exact sessionKept_of_logout hs.past hothers rfl rfl
  | failed message =>
    by_cases hlogout : r.request = .logout
    · rw [hlogout]
      exact sessionKept_of_logout hs.past hothers rfl rfl
    rw [receive_eq _ rfl (by simpa [TabRequest.changesSession] using hlogout)]
    have huser' := huser.trans (if_neg hlogout)
    have hmonitors' := hmonitors.trans (if_neg hlogout)
    refine hs.kept hothers (fun m hm => ?_) (fun hout => ?_) (hauth.trans (if_neg hlogout))
      fun _ => huser'
    · exact huser'.trans (hs.isolated m (hmonitors' ▸ hm))
    · exact hmonitors'.trans (hs.idle hout).1

/-- **A step of a prompt run.** -/
lemma SessionKept.step (hs : SessionKept s) (h : PromptTabStep s e s') : SessionKept s' := by
  obtain ⟨hstep, hprompt⟩ := h
  cases hstep with
  | send hprotected => exact hs.send hprotected
  | answer hsent hanswers => exact hs.receive hsent hanswers hprompt
  | otherTab =>
    have hout : s.store.auth.isAuthenticated = false := hprompt
    refine sessionKept_of_changed (fun r hr => Nat.lt_succ_of_le (hs.past r hr)) hs.isolated
      (fun hout => (hs.idle hout).1) fun hin => ?_
    have hin' : s.store.auth.isAuthenticated = true := hin
    rw [hout] at hin'
    cases hin'

/-- **Accounts that share a tab are isolated in every prompt run**: the store never holds a monitor
that does not belong to the account that is signed in. -/
theorem isolated_of_prompt (session : Option ℕ)
    (h : Run PromptTabStep (.opened session) es s) : TabIsolated s := by
  have hopened : SessionKept (.opened session) := by
    refine sessionKept_of_changed (List.forall_mem_nil _) (List.forall_mem_nil _) (fun _ => rfl)
      fun hin => ?_
    cases hin
  exact (h.invariant (fun _ _ _ hs hstep => hs.step hstep) hopened).isolated

/-- A request is answered before anything else happens. -/
lemma run_request {a : Tab} (hrun : Run PromptTabStep a es s) (hsent : s.sent = [])
    (request : TabRequest) (answer : TabAnswer)
    (hprotected : request.isProtected = true → s.store.auth.isAuthenticated = true)
    (hanswers : SentRequest.Answers ⟨request, s.session, s.epoch⟩ answer)
    (h : Prompt (s.send request) (.answer ⟨request, s.session, s.epoch⟩ answer)) :
    ∃ es', Run PromptTabStep a es' ((s.send request).receive request answer []) := by
  have hsent' : (s.send request).sent = [] ++ ⟨request, s.session, s.epoch⟩ :: [] := by
    rw [Tab.send, hsent]
  exact ⟨_, (hrun.snoc ⟨.send hprotected, trivial⟩).snoc ⟨.answer hsent' hanswers, h⟩⟩

/-- One account signs in, fetches its monitors and signs out; the next one signs in, and the
monitors that are stored are its own. -/
theorem isolated_of_prompt_next : ∃ s : Tab, s.store.monitor.monitors = [⟨"b".toList, 2⟩] ∧
    TabIsolated s := by
  obtain ⟨_, h₁⟩ :=
    run_request (.nil (.opened none)) rfl .signIn (.token 1) Bool.noConfusion rfl ⟨rfl, rfl⟩
  obtain ⟨_, h₂⟩ := run_request h₁ rfl .getMonitors (.monitors [⟨"a".toList, 1⟩] 5) (fun _ => rfl)
    ⟨rfl, rfl, by simp [Tab.receive, sessionAfter]⟩ rfl
  obtain ⟨_, h₃⟩ := run_request h₂ rfl .logout .loggedOut (fun _ => rfl) rfl trivial
  obtain ⟨_, h₄⟩ := run_request h₃ rfl .signIn (.token 2) Bool.noConfusion rfl ⟨rfl, rfl⟩
  obtain ⟨_, h₅⟩ := run_request h₄ rfl .getMonitors (.monitors [⟨"b".toList, 2⟩] 9) (fun _ => rfl)
    ⟨rfl, rfl, by simp [Tab.receive, sessionAfter]⟩ rfl
  exact ⟨_, rfl, isolated_of_prompt none h₅⟩

/-! ## After a logout -/

/-- No request carries a session that is yet to come. -/
lemma epoch_le_of_run {session : Option ℕ} (hrun : Run TabStep (.opened session) es s) :
    ∀ r ∈ s.sent, r.epoch ≤ s.epoch := by
  have hstep : ∀ s e s', (∀ r ∈ s.sent, r.epoch ≤ s.epoch) → TabStep s e s' →
      ∀ r ∈ s'.sent, r.epoch ≤ s'.epoch := by
    intro s e s' hs h
    cases h with
    | @send request =>
      change ∀ r ∈ s.sent ++ [_], _
      rw [List.forall_mem_append, List.forall_mem_singleton]
      exact ⟨hs, le_rfl⟩
    | @answer pre post r answer hsent =>
      intro r' hr'
      have hle := hs r' (mem_sent_of_mem hsent r' hr')
      change r'.epoch ≤ if _ then s.epoch + 1 else s.epoch
      split_ifs
      · exact Nat.le_succ_of_le hle
      · exact hle
    | otherTab => exact fun r hr => Nat.le_succ_of_le (hs r hr)
  exact hrun.invariant hstep (List.forall_mem_nil _)

/-- **A logout sets the tab right**: whatever has happened before, and whatever is still on its way,
the accounts are isolated from the answer to a logout on, in every run that is prompt from there. A
logout that fails does the same. -/
theorem isolated_of_logout (session : Option ℕ) (hrun : Run TabStep (.opened session) es s)
    {r : SentRequest} {answer : TabAnswer} (hlogout : r.request = .logout)
    (hstep : TabStep s (.answer r answer) s') {es' : List TabEvent} {t : Tab}
    (hprompt : Run PromptTabStep s' es' t) : TabIsolated t := by
  have hpast := epoch_le_of_run hrun
  have hkept : SessionKept s' := by
    cases hstep with
    | answer hsent hanswers =>
      rw [hlogout]
      have hothers := mem_sent_of_mem hsent
      cases answer with
      | loggedOut => exact sessionKept_of_logout hpast hothers rfl rfl
      | failed message => exact sessionKept_of_logout hpast hothers rfl rfl
      | monitors => cases hlogout.symm.trans hanswers.1
      | created => cases hlogout.symm.trans hanswers.1
      | deleted =>
        obtain ⟨-, id, hrequest⟩ := hanswers
        cases hlogout.symm.trans hrequest
      | token => cases hlogout.symm.trans hanswers
      | profile =>
        obtain ⟨-, restoring, hrequest⟩ := hanswers
        cases hlogout.symm.trans hrequest
  exact (hprompt.invariant (fun _ _ _ hs hstep => hs.step hstep) hkept).isolated

/-- One account fetches its monitors and signs out, the next one signs in, and the monitors arrive
then: the store is no longer isolated. It is again once the next account has signed out and the
first one is back. -/
theorem isolated_of_logout_mixed : ∃ s t : Tab, s.store.auth.user = some 2 ∧ ¬TabIsolated s ∧
    t.store.monitor.monitors = [⟨"a".toList, 1⟩] ∧ TabIsolated t := by
  let late : SentRequest := ⟨.getMonitors, some 1, 1⟩
  let answer : TabAnswer := .monitors [⟨"a".toList, 1⟩] 5
  -- the first account, with its request on its way when it signs out
  let s₁ := ((Tab.opened none).send .signIn).receive .signIn (.token 1) []
  let s₂ := ((s₁.send .getMonitors).send .logout).receive .logout .loggedOut [late]
  -- the next account, to whom the request is answered
  let s₃ := (s₂.send .signIn).receive .signIn (.token 2) [late]
  let s₄ := s₃.receive .getMonitors answer []
  let s₅ := (s₄.send .logout).receive .logout .loggedOut []
  have h₁ : Run TabStep (.opened none) [.send .signIn, .answer ⟨.signIn, none, 0⟩ (.token 1)] s₁ :=
    .cons (.send Bool.noConfusion) (.cons (.answer (show _ = [] ++ _ :: [] from rfl) rfl) (.nil _))
  have h₂ : Run TabStep s₁ [.send .getMonitors, .send .logout,
      .answer ⟨.logout, some 1, 1⟩ .loggedOut] s₂ :=
    .cons (.send fun _ => rfl) (.cons (.send fun _ => rfl)
      (.cons (.answer (show _ = [late] ++ _ :: [] from rfl) rfl) (.nil _)))
  have h₃ : Run TabStep s₂ [.send .signIn, .answer ⟨.signIn, none, 2⟩ (.token 2)] s₃ :=
    .cons (.send Bool.noConfusion)
      (.cons (.answer (show _ = [late] ++ _ :: [] from rfl) rfl) (.nil _))
  have h₄ : Run TabStep s₃ [.answer late answer, .send .logout] (s₄.send .logout) :=
    .cons (.answer (show _ = [] ++ _ :: [] from rfl) ⟨rfl, rfl, by simp [late]⟩)
      (.cons (.send fun _ => rfl) (.nil _))
  have h₅ : TabStep (s₄.send .logout) (.answer ⟨.logout, some 2, 3⟩ .loggedOut) s₅ :=
    .answer (show _ = [] ++ _ :: [] from rfl) rfl
  obtain ⟨_, h₆⟩ := run_request (.nil s₅) rfl .signIn (.token 1) Bool.noConfusion rfl ⟨rfl, rfl⟩
  obtain ⟨_, h₇⟩ := run_request h₆ rfl .getMonitors answer (fun _ => rfl)
    ⟨rfl, rfl, by simp [Tab.receive, sessionAfter]⟩ rfl
  refine ⟨s₄, _, rfl, fun hmixed => ?_, rfl,
    isolated_of_logout none (h₁.append (h₂.append (h₃.append h₄))) rfl h₅ h₇⟩
  exact absurd (hmixed _ List.mem_cons_self) (by decide)

end WatchTower

import WatchTower.Runtime.Text
import WatchTower.Scheduler.Monitor
import WatchTower.Transition.Run

set_option relaxedAutoImplicit false
set_option autoImplicit false

/-!
# The connection indicator

`useRealtime` shows whether the dashboard is connected. All components share one socket, and each
keeps a copy of its state, which the handlers of the hook maintain; a handler fetches everything
again when the socket connects another time.

What is assumed of the socket is that it connects, fails to connect and attempts to reconnect only
while it is not connected, that it disconnects only while it is, and that `disconnect()` reports to
the handlers if it was connected.

## Main definitions

* `WatchTower.Hook`, `WatchTower.Realtime` — a mounted hook, and the socket with all of them.
* `WatchTower.RealtimeEvent`, `WatchTower.Realtime.handle`, `WatchTower.RealtimeStep` — what
  happens.
* `WatchTower.IndicatorRight`, `WatchTower.Resynced` — the law.
* `WatchTower.SparesConnected` — the condition: nothing resets the state of a connected hook.

## Main results

* `WatchTower.Steady.step` — the invariant under the condition.
* `WatchTower.realtimeRight_iff` — the law along every sequence of events, exactly under the
  condition.
-/

namespace WatchTower

open Transition

/-! ## The hook -/

/-- `ConnectionState`. -/
inductive ConnectionState
  | connecting
  | connected
  | reconnecting
  | disconnected
  | unauthorized
  deriving DecidableEq

/-- A mounted hook. -/
structure Hook where
  /-- The component that uses it. -/
  id : ℕ
  /-- `state`. -/
  state : ConnectionState
  /-- `lastConnectedAt`. -/
  lastConnectedAt : Option Time
  /-- `reconnectAttempt`. -/
  reconnectAttempt : ℕ
  /-- `hasConnectedBefore.current`. -/
  hasConnectedBefore : Bool
  /-- How often it has started a resync. -/
  resyncs : ℕ
  /-- Whether it has seen a disconnect. -/
  sawDisconnect : Bool
  deriving DecidableEq

/-- A hook that has just been mounted. -/
def Hook.initial (id : ℕ) : Hook := ⟨id, .connecting, none, 0, false, 0, false⟩

/-- `isTerminalDisconnect(reason)`. -/
def isTerminalDisconnect (reason : String) : Bool :=
  reason = "io client disconnect" || reason = "io server disconnect"

/-- `/unauthorized/i.test(err?.message || '')`. -/
def isUnauthorized (message : Option Text) : Bool :=
  includes ((message.getD []).map Char.toLower) "unauthorized".toList

namespace Hook

/-- `resync()`. -/
def resync (h : Hook) : Hook := { h with resyncs := h.resyncs + 1 }

/-- `handleConnect`. -/
def handleConnect (now : Time) (h : Hook) : Hook :=
  let h' : Hook := { h with
    state := .connected
    lastConnectedAt := some now
    reconnectAttempt := 0
    hasConnectedBefore := true }
  if h.hasConnectedBefore then h'.resync else h'

/-- `handleDisconnect`. -/
def handleDisconnect (reason : String) (h : Hook) : Hook :=
  { h with
    state := if isTerminalDisconnect reason then .disconnected else .reconnecting
    sawDisconnect := true }

/-- `handleConnectError`, but for the call of `socket.disconnect()`. -/
def handleConnectError (message : Option Text) (h : Hook) : Hook :=
  { h with state := if isUnauthorized message then .unauthorized else .reconnecting }

/-- `handleReconnectAttempt`. -/
def handleReconnectAttempt (attempt : ℕ) (h : Hook) : Hook :=
  { h with state := .reconnecting, reconnectAttempt := attempt }

/-- `handleOffline`. -/
def handleOffline (h : Hook) : Hook := { h with state := .reconnecting }

/-- `retryNow` of the component `id`, but for the call of `connectSocket()`. -/
def retryNow (id : ℕ) (h : Hook) : Hook :=
  if h.id = id then { h with state := .connecting } else h

end Hook

/-! ## The shared socket -/

/-- The socket, and the hooks that listen to it. -/
structure Realtime where
  /-- `socket.connected`. -/
  connected : Bool
  /-- Whether the socket tries to connect. -/
  active : Bool
  /-- The mounted hooks. -/
  hooks : List Hook

/-- A socket that has not been used. -/
def Realtime.initial : Realtime := ⟨false, false, []⟩

/-- What happens. -/
inductive RealtimeEvent
  /-- A component with the hook is mounted. -/
  | mount (id : ℕ)
  /-- It is unmounted. -/
  | unmount (id : ℕ)
  /-- The socket connects. -/
  | connect (now : Time)
  /-- The socket disconnects. -/
  | disconnect (reason : String)
  /-- The socket fails to connect, or the server denies the connection. -/
  | connectError (message : Option Text) (denied : Bool)
  /-- The socket attempts to connect again. -/
  | reconnectAttempt (attempt : ℕ)
  /-- The tab is hidden, or shown again. -/
  | visibilityChange (visible : Bool)
  /-- The browser is online again. -/
  | online
  /-- The browser is offline. -/
  | offline
  /-- `retryNow` of a component is called. -/
  | retryNow (id : ℕ)
  /-- `connectSocket()` is called elsewhere. -/
  | connectSocket
  /-- `disconnectSocket()` is called. -/
  | disconnectSocket

namespace Realtime

/-- `connectSocket()`. -/
def connectSocket (s : Realtime) : Realtime :=
  if s.connected then s else { s with active := true }

/-- `socket.disconnect()`, which reports to the handlers if the socket is connected. -/
def disconnect (s : Realtime) : Realtime :=
  if s.connected then
    { connected := false
      active := false
      hooks := s.hooks.map (·.handleDisconnect "io client disconnect") }
  else { s with active := false }

/-- `disconnectSocket()`. -/
def disconnectSocket (s : Realtime) : Realtime := if s.connected then s.disconnect else s

/-- What the handlers do. -/
def handle (s : Realtime) : RealtimeEvent → Realtime
  | .mount id => connectSocket { s with hooks := s.hooks ++ [.initial id] }
  | .unmount id => { s with hooks := s.hooks.filter (·.id ≠ id) }
  | .connect now => { s with connected := true, hooks := s.hooks.map (·.handleConnect now) }
  | .disconnect reason =>
    { connected := false
      active := !isTerminalDisconnect reason
      hooks := s.hooks.map (·.handleDisconnect reason) }
  | .connectError message denied =>
    let s' : Realtime :=
      { s with
        active := s.active && !denied
        hooks := s.hooks.map (·.handleConnectError message) }
    if isUnauthorized message && !s.hooks.isEmpty then s'.disconnect else s'
  | .reconnectAttempt attempt =>
    { s with hooks := s.hooks.map (·.handleReconnectAttempt attempt) }
  | .visibilityChange visible =>
    if !visible || s.hooks.isEmpty then s
    else if s.connected then { s with hooks := s.hooks.map Hook.resync }
    else s.connectSocket
  | .online => if s.hooks.isEmpty then s else s.connectSocket
  | .offline => { s with hooks := s.hooks.map Hook.handleOffline }
  | .retryNow id => connectSocket { s with hooks := s.hooks.map (·.retryNow id) }
  | .connectSocket => s.connectSocket
  | .disconnectSocket => s.disconnectSocket

/-- When an event may happen. -/
def Admits (s : Realtime) : RealtimeEvent → Prop
  | .mount id => ∀ h ∈ s.hooks, h.id ≠ id
  | .unmount id | .retryNow id => ∃ h ∈ s.hooks, h.id = id
  | .connect _ | .connectError _ _ | .reconnectAttempt _ => s.active = true ∧ s.connected = false
  | .disconnect _ => s.connected = true
  | _ => True

end Realtime

/-- One event, with what the handlers do. -/
def RealtimeStep (s : Realtime) (e : RealtimeEvent) (s' : Realtime) : Prop :=
  s.Admits e ∧ s' = s.handle e

/-! ## The law -/

/-- **The indicator is right**: a hook is in the state `CONNECTED` exactly when the socket is
connected. -/
def IndicatorRight (s : Realtime) : Prop :=
  ∀ h ∈ s.hooks, h.state = .connected ↔ s.connected = true

/-- **The data is fetched again**: when the socket connects, a hook that has seen a disconnect
starts a resync. -/
def Resynced (s : Realtime) (e : RealtimeEvent) (s' : Realtime) : Prop :=
  ∀ now, e = .connect now → ∀ h ∈ s.hooks, h.sawDisconnect = true →
    ∃ h' ∈ s'.hooks, h'.id = h.id ∧ h'.resyncs = h.resyncs + 1

/-- After an event, the indicator is right and the data is fetched again. -/
def RealtimeRight (s : Realtime) (e : RealtimeEvent) (s' : Realtime) : Prop :=
  IndicatorRight s' ∧ Resynced s e s'

/-- **The condition**: while the socket is connected, no hook is mounted, no mounted hook retries,
and the browser does not go offline under one. -/
def SparesConnected (s : Realtime) (e : RealtimeEvent) (_ : Realtime) : Prop :=
  match e with
  | .mount _ | .retryNow _ => s.connected = false
  | .offline => s.connected = true → s.hooks = []
  | _ => True

/-! ## The invariant -/

variable {s s' : Realtime} {e : RealtimeEvent}

/-- What holds under the condition: the indicator is right, and a hook that is connected or has
seen a disconnect knows that it has been connected. -/
structure Steady (s : Realtime) : Prop where
  indicator : IndicatorRight s
  before : ∀ h ∈ s.hooks, h.state = .connected ∨ h.sawDisconnect = true →
    h.hasConnectedBefore = true

/-- It holds at the start. -/
lemma steady_initial : Steady .initial := ⟨List.forall_mem_nil _, List.forall_mem_nil _⟩

@[simp] lemma Realtime.connectSocket_hooks (s : Realtime) : s.connectSocket.hooks = s.hooks := by
  unfold Realtime.connectSocket
  split_ifs <;> rfl

@[simp] lemma Realtime.connectSocket_connected (s : Realtime) :
    s.connectSocket.connected = s.connected := by
  unfold Realtime.connectSocket
  split_ifs <;> rfl

/-- Connecting does not change what is shown. -/
lemma Steady.connectSocket (hs : Steady s) : Steady s.connectSocket where
  indicator := by simpa [IndicatorRight] using hs.indicator
  before := by simpa using hs.before

/-- A handler of a disconnect. -/
lemma Steady.handleDisconnect (hs : Steady s) (hconnected : s.connected = true) (active : Bool)
    (reason : String) : Steady ⟨false, active, s.hooks.map (·.handleDisconnect reason)⟩ := by
  constructor
  · refine List.forall_mem_map.2 fun h _ => ?_
    unfold Hook.handleDisconnect
    cases isTerminalDisconnect reason <;> simp
  · refine List.forall_mem_map.2 fun h hh _ => ?_
    exact hs.before h hh (.inl ((hs.indicator h hh).2 hconnected))

/-- So is the one that the client causes. -/
lemma Steady.disconnect (hs : Steady s) : Steady s.disconnect := by
  unfold Realtime.disconnect
  split_ifs with hconnected
  · exact hs.handleDisconnect hconnected false _
  · exact ⟨hs.indicator, hs.before⟩

/-- A handler that changes the state while the socket is not connected. -/
lemma Steady.setState (hs : Steady s) (hconnected : s.connected = false) (active : Bool)
    {f : Hook → Hook} (hstate : ∀ h ∈ s.hooks, (f h).state ≠ .connected)
    (hsaw : ∀ h, (f h).sawDisconnect = h.sawDisconnect)
    (hbefore : ∀ h, (f h).hasConnectedBefore = h.hasConnectedBefore) :
    Steady ⟨s.connected, active, s.hooks.map f⟩ := by
  constructor
  · refine List.forall_mem_map.2 fun h hh => ?_
    simp [hstate h hh, hconnected]
  · refine List.forall_mem_map.2 fun h hh hseen => ?_
    rw [hsaw] at hseen
    rw [hbefore]
    exact hs.before h hh (.inr (hseen.resolve_left (hstate h hh)))

/-- The handlers when the socket connects. -/
lemma Steady.handleConnect (now : Time) :
    Steady ⟨true, s.active, s.hooks.map (·.handleConnect now)⟩ := by
  constructor
  · refine List.forall_mem_map.2 fun h _ => ?_
    unfold Hook.handleConnect
    cases h.hasConnectedBefore <;> simp [Hook.resync]
  · refine List.forall_mem_map.2 fun h _ _ => ?_
    unfold Hook.handleConnect
    cases h.hasConnectedBefore <;> simp [Hook.resync]

/-- **Every step under the condition keeps the invariant.** -/
theorem Steady.step (hs : Steady s) (h : RealtimeStep s e s') (hc : SparesConnected s e s') :
    Steady s' := by
  obtain ⟨hadmits, rfl⟩ := h
  cases e with
  | mount id =>
    refine Steady.connectSocket ⟨?_, ?_⟩
    · simp only [IndicatorRight, List.forall_mem_append, List.forall_mem_singleton]
      exact ⟨hs.indicator, by simp [Hook.initial, show s.connected = false from hc]⟩
    · simp only [List.forall_mem_append, List.forall_mem_singleton]
      exact ⟨hs.before, by simp [Hook.initial]⟩
  | unmount id =>
    exact ⟨fun h hh => hs.indicator h (List.mem_of_mem_filter hh),
      fun h hh => hs.before h (List.mem_of_mem_filter hh)⟩
  | connect now => exact .handleConnect now
  | disconnect reason => exact hs.handleDisconnect hadmits _ reason
  | connectError message denied =>
    have hstate : ∀ h ∈ s.hooks, (Hook.handleConnectError message h).state ≠ .connected := by
      intro h _
      unfold Hook.handleConnectError
      cases isUnauthorized message <;> simp
    have herror := hs.setState hadmits.2 (s.active && !denied) hstate (fun _ => rfl) (fun _ => rfl)
    simp only [Realtime.handle]
    split_ifs
    · exact herror.disconnect
    · exact herror
  | reconnectAttempt attempt =>
    exact hs.setState hadmits.2 s.active (by simp [Hook.handleReconnectAttempt]) (fun _ => rfl)
      (fun _ => rfl)
  | visibilityChange visible =>
    simp only [Realtime.handle]
    split_ifs
    · exact hs
    · exact ⟨List.forall_mem_map.2 fun h hh => hs.indicator h hh,
        List.forall_mem_map.2 fun h hh => hs.before h hh⟩
    · exact hs.connectSocket
  | online =>
    simp only [Realtime.handle]
    split_ifs
    · exact hs
    · exact hs.connectSocket
  | offline =>
    cases hconnected : s.connected with
    | false =>
      exact hs.setState hconnected s.active (by simp [Hook.handleOffline]) (fun _ => rfl)
        (fun _ => rfl)
    | true =>
      have hnone : ∀ h, h ∉ s.hooks := List.eq_nil_iff_forall_not_mem.1 (hc hconnected)
      exact ⟨List.forall_mem_map.2 fun h hh => (hnone h hh).elim,
        List.forall_mem_map.2 fun h hh => (hnone h hh).elim⟩
  | retryNow id =>
    refine (hs.setState hc s.active (fun h hh => ?_) (fun h => ?_) fun h => ?_).connectSocket
    · have hfalse : s.connected = false := hc
      have hstate : h.state ≠ .connected := by simp [hs.indicator h hh, hfalse]
      unfold Hook.retryNow
      split_ifs
      · simp
      · exact hstate
    · unfold Hook.retryNow
      split_ifs <;> rfl
    · unfold Hook.retryNow
      split_ifs <;> rfl
  | connectSocket => exact hs.connectSocket
  | disconnectSocket =>
    simp only [Realtime.handle, Realtime.disconnectSocket]
    split_ifs
    · exact hs.disconnect
    · exact hs

/-! ## The law along a sequence of events -/

/-- When the socket connects, a hook that has seen a disconnect starts a resync. -/
lemma Steady.resynced (hs : Steady s) (h : RealtimeStep s e s') : Resynced s e s' := by
  rintro now rfl hook hmem hsaw
  obtain ⟨-, rfl⟩ := h
  refine ⟨hook.handleConnect now, List.mem_map_of_mem hmem, ?_⟩
  simp [Hook.handleConnect, hs.before hook hmem (.inr hsaw), Hook.resync]

/-- A step that violates the condition shows a connected socket as another. -/
lemma sparesConnected_of_right (h : RealtimeStep s e s') (hs' : IndicatorRight s') :
    SparesConnected s e s' := by
  obtain ⟨hadmits, rfl⟩ := h
  cases e with
  | mount id =>
    have hshown := hs' (.initial id) (by simp [Realtime.handle])
    have hfalse : s.connected = false := by simpa [Realtime.handle, Hook.initial] using hshown
    exact hfalse
  | offline =>
    intro hconnected
    rw [List.eq_nil_iff_forall_not_mem]
    intro h hh
    have hshown := hs' h.handleOffline (List.mem_map_of_mem hh)
    simp [Realtime.handle, Hook.handleOffline, hconnected] at hshown
  | retryNow id =>
    obtain ⟨h, hh, rfl⟩ := hadmits
    have hmem : h.retryNow h.id ∈ (s.handle (.retryNow h.id)).hooks := by
      simpa [Realtime.handle] using ⟨h, hh, rfl⟩
    have hshown := hs' _ hmem
    have hfalse : s.connected = false := by simpa [Realtime.handle, Hook.retryNow] using hshown
    exact hfalse
  | _ => trivial

/-- **The indicator is right and the data is fetched again**, along every sequence of events,
exactly when no hook is mounted or retries while the socket is connected, and the browser does not
go offline under a connected hook. -/
theorem realtimeRight_iff (es : List RealtimeEvent) :
    AllSteps RealtimeStep RealtimeRight .initial es ↔
      AllSteps RealtimeStep SparesConnected .initial es := by
  have hiff : ∀ s e s', Steady s → RealtimeStep s e s' →
      (RealtimeRight s e s' ↔ SparesConnected s e s') := fun _ _ _ hs h =>
    ⟨fun hlaw => sparesConnected_of_right h hlaw.1,
      fun hc => ⟨(hs.step h hc).indicator, hs.resynced h⟩⟩
  exact allSteps_iff hiff (fun _ _ _ hs h hc => hs.step h hc) steady_initial es

/-! ## A component that is mounted later -/

/-- A component is mounted, and the socket connects; then another is mounted, and the socket
connects a second time. -/
def laterMount : List RealtimeEvent :=
  [.mount 1, .connect 100, .mount 2, .disconnect "transport close", .connect 200]

/-- **The second hook** shows that it is connecting, on a socket that is connected, and it does not
fetch again what it has missed. -/
theorem laterMount_wrong :
    ¬AllSteps RealtimeStep (fun _ _ s' => IndicatorRight s') .initial laterMount ∧
      ¬AllSteps RealtimeStep Resynced .initial laterMount := by
  have hmount : (Realtime.initial).Admits (.mount 1) := List.forall_mem_nil _
  have hmount' :
      ((Realtime.initial.handle (.mount 1)).handle (.connect 100)).Admits (.mount 2) := by
    simp [Realtime.Admits, Realtime.handle, Realtime.initial, Hook.handleConnect, Hook.initial]
  constructor
  · intro h
    have hconnect := (allSteps_cons.1 h _ ⟨hmount, rfl⟩).2
    have hlater := (allSteps_cons.1 hconnect _ ⟨⟨rfl, rfl⟩, rfl⟩).2
    have hright := (allSteps_cons.1 hlater _ ⟨hmount', rfl⟩).1 (.initial 2) (by
      simp [Realtime.handle])
    cases hright.2 rfl
  · intro h
    have hconnect := (allSteps_cons.1 h _ ⟨hmount, rfl⟩).2
    have hlater := (allSteps_cons.1 hconnect _ ⟨⟨rfl, rfl⟩, rfl⟩).2
    have hdisconnect := (allSteps_cons.1 hlater _ ⟨hmount', rfl⟩).2
    have hagain := (allSteps_cons.1 hdisconnect _ ⟨rfl, rfl⟩).2
    have hresynced := (allSteps_cons.1 hagain _ ⟨⟨rfl, rfl⟩, rfl⟩).1 200 rfl
      ⟨2, .reconnecting, none, 0, false, 0, true⟩ (by decide) rfl
    revert hresynced
    decide

end WatchTower

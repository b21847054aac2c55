import WatchTower.Sockets.Handshake
import WatchTower.Transition.Run

set_option relaxedAutoImplicit false
set_option autoImplicit false

/-!
# Tenant rooms

The rooms of `sockets/server.socket.js`. A socket that has passed the handshake joins the room of
the verified subject, and nothing that a client sends changes the rooms; what concerns a user is
emitted into that user's room.

What is assumed of the socket server is that the name of a socket, which is also the name of a room
of its own, has no colon in it, and that no two sockets have the same. A connection handler that
throws ends the process, so a run has no such step.

## Main definitions

* `WatchTower.Packet`, `WatchTower.LiveSocket`, `WatchTower.SocketServer` — the server.
* `WatchTower.SocketServer.emitToUser` — `emitToUser`.
* `WatchTower.SocketStep` — what happens.
* `WatchTower.packetsTo` — what has been emitted to a user.
* `WatchTower.RoomsRight` — the law.

## Main results

* `WatchTower.roomsRight_of_run` — a socket has received what has been emitted to its verified user
  since it was connected, and nothing else.
-/

namespace WatchTower

open Transition

/-! ## The server -/

/-- `SocketEvent`. -/
inductive SocketEvent
  /-- `monitor:status`. -/
  | monitorStatus
  /-- `incident:opened`. -/
  | incidentOpened
  /-- `incident:closed`. -/
  | incidentClosed
  deriving DecidableEq

/-- What is emitted to a user. -/
structure Packet (P : Type) where
  /-- The event. -/
  event : SocketEvent
  /-- Its payload. -/
  payload : P
  deriving DecidableEq

/-- A socket that is connected. -/
structure LiveSocket (P : Type) where
  /-- `socket.id`. -/
  id : Text
  /-- `socket.user`. -/
  user : Claims
  /-- The rooms that it is in. -/
  rooms : List Text
  /-- What it has received, oldest first. -/
  received : List (Packet P)

/-- `io`, once it is initialised: the sockets. -/
abbrev SocketServer (P : Type) := Option (List (LiveSocket P))

variable (rt : TextRuntime) {P : Type}

/-- `roomFor(userId)`. -/
def roomFor (userId : Js) : Except JsError Text := (rt.string userId).map ("user:".toList ++ ·)

/-- A socket that has passed the handshake: it is in its own room, and joins the one of its
user. -/
def LiveSocket.connected (id : Text) (user : Claims) : Except JsError (LiveSocket P) := do
  let userId ← rt.string user.id
  let room ← roomFor rt (.str (String.ofList userId))
  return ⟨id, user, [id, room], []⟩

/-- A packet is received. -/
def LiveSocket.receive (packet : Packet P) (socket : LiveSocket P) : LiveSocket P :=
  { socket with received := socket.received ++ [packet] }

/-- `io.to(room).emit(event, payload)`. -/
def emitTo (room : Text) (packet : Packet P) (sockets : List (LiveSocket P)) :
    List (LiveSocket P) :=
  sockets.map fun socket => if socket.rooms.contains room then socket.receive packet else socket

namespace SocketServer

/-- `emitToUser(userId, event, payload)`. -/
def emitToUser (userId : Js) (event : SocketEvent) (payload : P) (io : SocketServer P) :
    Except JsError (SocketServer P) :=
  match io with
  | none => .ok none
  | some sockets =>
    if userId.truthy then
      (roomFor rt userId).map fun room => some (emitTo room ⟨event, payload⟩ sockets)
    else .ok (some sockets)

/-- A client connects. -/
def connect (verify : Js → Option Claims) (id : Text) (cookie : Option Text) (authToken : Js)
    (sockets : List (LiveSocket P)) : Except JsError (List (LiveSocket P)) :=
  match handshake verify cookie authToken with
  | .ok user => (LiveSocket.connected rt id user).map (sockets ++ [·])
  | .error _ => .ok sockets

end SocketServer

/-- What happens. -/
inductive SocketAction (P : Type)
  /-- `initSocket`. -/
  | init
  /-- A client connects. -/
  | connect (id : Text) (cookie : Option Text) (authToken : Js)
  /-- A socket disconnects. -/
  | disconnect (id : Text)
  /-- Something is emitted to a user. -/
  | emit (userId : Js) (event : SocketEvent) (payload : P)

/-- One event. -/
inductive SocketStep (verify : Js → Option Claims) :
    SocketServer P → SocketAction P → SocketServer P → Prop
  | init : SocketStep verify none .init (some [])
  | connect {sockets sockets' : List (LiveSocket P)} {id : Text} {cookie : Option Text}
      {authToken : Js} (hcolon : ':' ∉ id) (hfresh : ∀ socket ∈ sockets, socket.id ≠ id)
      (h : SocketServer.connect rt verify id cookie authToken sockets = .ok sockets') :
    SocketStep verify (some sockets) (.connect id cookie authToken) (some sockets')
  | disconnect (sockets : List (LiveSocket P)) (id : Text) :
    SocketStep verify (some sockets) (.disconnect id)
      (some (sockets.filter fun socket => socket.id ≠ id))
  | emit {io io' : SocketServer P} {userId : Js} {event : SocketEvent} {payload : P}
      (h : io.emitToUser rt userId event payload = .ok io') :
    SocketStep verify io (.emit userId event payload) io'
  | emitThrows {io : SocketServer P} {userId : Js} {event : SocketEvent} {payload : P}
      {err : JsError} (h : io.emitToUser rt userId event payload = .error err) :
    SocketStep verify io (.emit userId event payload) io

/-! ## The law -/

/-- Two ids have the same string. -/
def SameUser (userId subject : Js) : Prop :=
  ∃ user, rt.string userId = .ok user ∧ rt.string subject = .ok user

instance (userId subject : Js) : Decidable (SameUser rt userId subject) :=
  match huser : rt.string userId, hsubject : rt.string subject with
  | .ok user, .ok user' =>
    decidable_of_iff (user = user') (by simp [SameUser, huser, hsubject, eq_comm])
  | .ok user, .error err => isFalse (by simp [SameUser, huser, hsubject])
  | .error err, _ => isFalse (by simp [SameUser, huser])

/-- What has been emitted to a user. -/
def packetsTo (subject : Js) (actions : List (SocketAction P)) : List (Packet P) :=
  actions.filterMap fun
    | .emit userId event payload =>
      if userId.truthy ∧ SameUser rt userId subject then some ⟨event, payload⟩ else none
    | _ => none

/-- **A socket has received what concerns its user**: it has presented a token that verifies, and
has received what has been emitted to the subject of the token since then, and nothing else. -/
structure SocketRight (verify : Js → Option Claims) (actions : List (SocketAction P))
    (socket : LiveSocket P) : Prop where
  subject : socket.user.id.truthy = true
  connected : ∃ before after cookie authToken,
    actions = before ++ .connect socket.id cookie authToken :: after ∧
      handshake verify cookie authToken = .ok socket.user ∧
      .disconnect socket.id ∉ after ∧
      socket.received = packetsTo rt socket.user.id after

/-- All sockets are right. -/
def RoomsRight (verify : Js → Option Claims) (actions : List (SocketAction P))
    (io : SocketServer P) : Prop :=
  ∀ sockets, io = some sockets → ∀ socket ∈ sockets, SocketRight rt verify actions socket

/-! ## The invariant -/

variable {rt} {verify : Js → Option Claims} {io io' : SocketServer P}
  {actions : List (SocketAction P)} {action : SocketAction P}

variable (rt) in
/-- The rooms of a socket. -/
structure InOwnRooms (socket : LiveSocket P) : Prop where
  colon : ':' ∉ socket.id
  rooms : ∃ user, rt.string socket.user.id = .ok user ∧
    socket.rooms = [socket.id, "user:".toList ++ user]

/-- **A room of a user** is one of a socket exactly when the socket is of that user. -/
lemma InOwnRooms.mem_iff {socket : LiveSocket P} (h : InOwnRooms rt socket) {userId : Js}
    {text : Text} (htext : rt.string userId = .ok text) :
    "user:".toList ++ text ∈ socket.rooms ↔ SameUser rt userId socket.user.id := by
  obtain ⟨user, huser, hrooms⟩ := h.rooms
  have hne : "user:".toList ++ text ≠ socket.id := by
    intro heq
    exact h.colon (heq ▸ List.mem_append_left _ (by decide))
  rw [hrooms, List.mem_cons, List.mem_singleton, or_iff_right hne, List.append_cancel_left_eq]
  simp [SameUser, htext, huser, eq_comm]

/-- What an action adds to what a socket has received. -/
def LiveSocket.after (rt : TextRuntime) (action : SocketAction P) (socket : LiveSocket P) :
    LiveSocket P :=
  { socket with received := socket.received ++ packetsTo rt socket.user.id [action] }

/-- A socket that receives what the action adds stays right. -/
lemma SocketRight.after {socket : LiveSocket P} (h : SocketRight rt verify actions socket)
    (hne : action ≠ .disconnect socket.id) :
    SocketRight rt verify (actions ++ [action]) (socket.after rt action) := by
  obtain ⟨before, later, cookie, authToken, rfl, hshake, hlater, hreceived⟩ := h.connected
  refine ⟨h.subject, before, later ++ [action], cookie, authToken, ?_, hshake, ?_, ?_⟩
  · rw [List.append_assoc, List.cons_append]
    rfl
  · rw [List.mem_append, List.mem_singleton, not_or]
    exact ⟨hlater, hne.symm⟩
  · rw [LiveSocket.after, hreceived, packetsTo, packetsTo, packetsTo, List.filterMap_append]

/-- An action that emits nothing adds nothing. -/
lemma LiveSocket.after_eq_self {socket : LiveSocket P}
    (h : packetsTo rt socket.user.id [action] = []) :
    socket.after rt action = socket := by
  rw [LiveSocket.after, h, List.append_nil]

/-- What is emitted to a user is what the sockets in the room receive. -/
lemma emitToUser_eq_ok {sockets : List (LiveSocket P)}
    (hrooms : ∀ socket ∈ sockets, InOwnRooms rt socket) {userId : Js} {event : SocketEvent}
    {payload : P} (h : SocketServer.emitToUser rt userId event payload (some sockets) = .ok io) :
    io = some (sockets.map (·.after rt (.emit userId event payload))) := by
  by_cases htruthy : userId.truthy = true
  · rw [SocketServer.emitToUser, if_pos htruthy, roomFor] at h
    cases htext : rt.string userId with
    | error err =>
      rw [htext] at h
      cases h
    | ok text =>
      rw [htext] at h
      obtain rfl := (Except.ok.inj h).symm
      refine congrArg some (List.map_congr_left fun socket hsocket => ?_)
      simp only [List.contains_iff_mem, (hrooms socket hsocket).mem_iff htext, LiveSocket.receive,
        LiveSocket.after, packetsTo, List.filterMap_cons, List.filterMap_nil, htruthy, true_and]
      split_ifs
      · rfl
      · rw [List.append_nil]
  · rw [SocketServer.emitToUser, if_neg htruthy] at h
    have hall : ∀ socket ∈ sockets, socket.after rt (.emit userId event payload) = socket := by
      intro socket _
      exact LiveSocket.after_eq_self (by simp [packetsTo, htruthy])
    rw [List.map_congr_left hall, List.map_id', Except.ok.inj h]

/-- A call that throws has nothing to emit to a user. -/
lemma packetsTo_of_emitToUser_eq_error {userId : Js} {event : SocketEvent} {payload : P}
    {err : JsError} (h : io.emitToUser rt userId event payload = .error err) (subject : Js) :
    packetsTo rt subject [SocketAction.emit userId event payload] = [] := by
  have hnone : ∀ text, rt.string userId ≠ .ok text := by
    intro text htext
    cases io with
    | none => cases h
    | some sockets =>
      rw [SocketServer.emitToUser, roomFor, htext] at h
      split_ifs at h
      cases h
  simp [packetsTo, SameUser, hnone]

/-- A socket that is connected is in its rooms. -/
lemma connected_eq_ok {id : Text} {user : Claims} {socket : LiveSocket P}
    (h : LiveSocket.connected rt id user = .ok socket) :
    socket.id = id ∧ socket.user = user ∧ socket.received = [] ∧
      ∃ userId, rt.string user.id = .ok userId ∧ socket.rooms = [id, "user:".toList ++ userId] := by
  rw [LiveSocket.connected] at h
  cases huser : rt.string user.id with
  | error err =>
    rw [huser] at h
    cases h
  | ok userId =>
    rw [huser] at h
    obtain rfl := (Except.ok.inj h).symm
    exact ⟨rfl, rfl, rfl, userId, rfl,
      congrArg (fun text => [id, "user:".toList ++ text]) String.toList_ofList⟩

/-- What holds of the sockets after some actions. -/
structure Placed (rt : TextRuntime) (verify : Js → Option Claims) (actions : List (SocketAction P))
    (sockets : List (LiveSocket P)) : Prop where
  rooms : ∀ socket ∈ sockets, InOwnRooms rt socket
  right : ∀ socket ∈ sockets, SocketRight rt verify actions socket

/-- An action that concerns none of the sockets leaves them right. -/
lemma Placed.of_packetsTo_eq_nil {sockets : List (LiveSocket P)}
    (h : Placed rt verify actions sockets)
    (hnone : ∀ subject, packetsTo rt subject [action] = [])
    (hne : ∀ socket ∈ sockets, action ≠ .disconnect socket.id) :
    Placed rt verify (actions ++ [action]) sockets := by
  refine ⟨h.rooms, fun socket hsocket => ?_⟩
  have hafter : SocketRight rt verify _ (socket.after rt action) :=
    (h.right socket hsocket).after (hne socket hsocket)
  rwa [LiveSocket.after_eq_self (hnone _)] at hafter

/-- A client connects. -/
lemma Placed.connect {sockets sockets' : List (LiveSocket P)}
    (h : Placed rt verify actions sockets) {id : Text} (hcolon : ':' ∉ id) {cookie : Option Text}
    {authToken : Js}
    (hconnect : SocketServer.connect rt verify id cookie authToken sockets = .ok sockets') :
    Placed rt verify (actions ++ [.connect id cookie authToken]) sockets' := by
  have hold : Placed rt verify (actions ++ [.connect id cookie authToken]) sockets :=
    h.of_packetsTo_eq_nil (fun _ => rfl) (by simp)
  unfold SocketServer.connect at hconnect
  cases hshake : handshake verify cookie authToken with
  | error err =>
    rw [hshake] at hconnect
    exact Except.ok.inj hconnect ▸ hold
  | ok user =>
    rw [hshake] at hconnect
    dsimp only at hconnect
    cases hsocket : (LiveSocket.connected rt id user : Except JsError (LiveSocket P)) with
    | error err =>
      rw [hsocket] at hconnect
      cases hconnect
    | ok socket =>
      rw [hsocket] at hconnect
      obtain rfl := (Except.ok.inj hconnect).symm
      obtain ⟨rfl, rfl, hreceived, hrooms⟩ := connected_eq_ok hsocket
      obtain ⟨-, -, -, hsubject⟩ := handshake_eq_ok hshake
      constructor
      · rw [List.forall_mem_append, List.forall_mem_singleton]
        exact ⟨hold.rooms, hcolon, hrooms⟩
      · rw [List.forall_mem_append, List.forall_mem_singleton]
        exact ⟨hold.right, hsubject, actions, [], cookie, authToken, rfl, hshake,
          List.not_mem_nil, hreceived⟩

/-- The same of a server, initialised or not. -/
def ServerPlaced (rt : TextRuntime) (verify : Js → Option Claims) (actions : List (SocketAction P))
    (io : SocketServer P) : Prop :=
  ∀ sockets, io = some sockets → Placed rt verify actions sockets

/-- **Every step keeps it so.** -/
theorem ServerPlaced.step (h : ServerPlaced rt verify actions io)
    (hstep : SocketStep rt verify io action io') :
    ServerPlaced rt verify (actions ++ [action]) io' := by
  cases hstep with
  | init =>
    rintro _ ⟨⟩
    exact ⟨List.forall_mem_nil _, List.forall_mem_nil _⟩
  | connect hcolon hfresh hconnect =>
    rintro _ ⟨⟩
    exact (h _ rfl).connect hcolon hconnect
  | disconnect sockets id =>
    rintro _ ⟨⟩
    have hs := h sockets rfl
    constructor
    · exact fun socket hsocket => hs.rooms socket (List.mem_of_mem_filter hsocket)
    · intro socket hsocket
      obtain ⟨hmem, hid⟩ := List.mem_filter.1 hsocket
      have hne : socket.id ≠ id := by simpa using hid
      have hafter : SocketRight rt verify _ (socket.after rt (.disconnect id)) :=
        (hs.right socket hmem).after (by simpa using hne.symm)
      rwa [LiveSocket.after_eq_self rfl] at hafter
  | @emit _ _ userId event payload hemit =>
    cases io with
    | none =>
      obtain rfl := Except.ok.inj hemit
      rintro _ ⟨⟩
    | some sockets =>
      have hs := h sockets rfl
      rw [emitToUser_eq_ok hs.rooms hemit]
      rintro _ ⟨⟩
      constructor
      · refine List.forall_mem_map.2 fun socket hsocket => ?_
        exact ⟨(hs.rooms socket hsocket).colon, (hs.rooms socket hsocket).rooms⟩
      · refine List.forall_mem_map.2 fun socket hsocket => ?_
        exact (hs.right socket hsocket).after (by simp)
  | emitThrows hemit =>
    intro sockets hsockets
    exact (h sockets hsockets).of_packetsTo_eq_nil (packetsTo_of_emitToUser_eq_error hemit)
      (by simp)

/-- **In every run**, a socket has received what has been emitted to its verified user since it was
connected, and nothing else. -/
theorem roomsRight_of_run (h : Run (SocketStep rt verify) none actions io) :
    RoomsRight rt verify actions io := by
  have hplaced : ServerPlaced rt verify actions io := by
    refine h.induction_from (P := ServerPlaced rt verify) ?_ ?_
    · rintro _ ⟨⟩
    · exact fun _ _ _ _ _ hs hstep => hs.step hstep
  exact fun sockets hsockets => (hplaced sockets hsockets).right

/-- A deployment with two sessions. -/
def twoSessions (token : Js) : Option Claims :=
  if token = .str "a" then some ⟨.str "alice"⟩
  else if token = .str "b" then some ⟨.str "bob"⟩
  else none

/-- Each of two users receives what is emitted to that user. -/
theorem roomsRight_two : RoomsRight .ascii twoSessions
    [.init, .connect "1".toList none (.str "a"), .connect "2".toList none (.str "b"),
      .connect "3".toList none (.str "c"), .emit (.str "alice") .incidentOpened 7,
      .emit .undefined .monitorStatus 8, .emit (.str "bob") .monitorStatus 9]
    (some [⟨"1".toList, ⟨.str "alice"⟩, ["1".toList, "user:alice".toList], [⟨.incidentOpened, 7⟩]⟩,
      ⟨"2".toList, ⟨.str "bob"⟩, ["2".toList, "user:bob".toList], [⟨.monitorStatus, 9⟩]⟩]) := by
  refine roomsRight_of_run (.cons .init (.cons (.connect (by decide) (by decide) rfl) (.cons
    (.connect (by decide) (by decide) rfl) (.cons (.connect (by decide) (by decide) rfl)
    (.cons (.emit rfl) (.cons (.emit rfl) (.cons (.emit rfl) ?_)))))))
  exact .nil _

end WatchTower

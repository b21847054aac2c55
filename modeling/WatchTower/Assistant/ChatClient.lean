import Mathlib.Data.Finset.Preimage
import Mathlib.Data.Fintype.EquivFin
import Mathlib.Data.Prod.Lex
import WatchTower.Assistant.Chat
import WatchTower.Documents.Unique
import WatchTower.Documents.Upsert
import WatchTower.Transition.Run

set_option relaxedAutoImplicit false
set_option autoImplicit false

/-!
# The conversation in the client

`useChat` keeps the messages of the conversation. A reply that is streamed is one message, which its
chunks extend and the final text replaces; the server may work on several replies at a time, so
the events of different replies arrive in any order, and those of one reply in the order the handler
has emitted them in. A connection that is lost takes the events with it that have not arrived.

What is assumed of the server is that no two replies have the same name; it is made of the time and
of random characters.

## Main definitions

* `WatchTower.ChatClient` — the state of the hook, with its handlers and `ChatClient.send`.
* `WatchTower.ChatStream`, `WatchTower.Conversation` — a reply in progress, and the client with the
  messages and replies on their way.
* `WatchTower.ConversationStep` — what happens.
* `WatchTower.displayed` — what the events of one reply make of its message.
* `WatchTower.ConversationRight` — the law.

## Main results

* `WatchTower.Traced.step` — the invariant.
* `WatchTower.conversationRight_of_run` — in every interleaving, each message is what its own
  reply has made of it.
* `WatchTower.Unlost.step` — the invariant while no connection is lost.
* `WatchTower.answered_of_run` — each message has then been answered once, when nothing is on its
  way any more, and the assistant is not shown as typing.
-/

namespace WatchTower

open Transition Documents Transition.Emitting

/-! ## The hook -/

/-- `role` of a message. -/
inductive MessageRole
  | user
  | assistant
  deriving DecidableEq

/-- The string that it is sent as. -/
def MessageRole.string : MessageRole → String
  | .user => "user"
  | .assistant => "assistant"

/-- A message of the conversation. -/
structure ClientMessage where
  /-- `id`. -/
  id : Text
  /-- `role`. -/
  role : MessageRole
  /-- `content`. -/
  content : Text
  /-- `error`, which most messages do not have. -/
  error : Bool
  deriving DecidableEq

/-- The state of `useChat`. -/
structure ChatClient where
  /-- `messages`. -/
  messages : List ClientMessage
  /-- `typing`. -/
  typing : Bool
  /-- `connected`. -/
  connected : Bool
  /-- `messagesRef.current`. -/
  messagesRef : List ClientMessage
  deriving DecidableEq

/-- The digits of `Date.now()` in a template string. -/
def dateText (now : Time) : Text := (toString now).toList

/-- A reply of the assistant. -/
def assistantMessage (id content : Text) : ClientMessage := ⟨id, .assistant, content, false⟩

/-- The message that `send` adds. -/
def userMessage (now : Time) (trimmed : Text) : ClientMessage :=
  ⟨"u-".toList ++ dateText now, .user, trimmed, false⟩

/-- The message that `onError` adds. -/
def errorMessage (now : Time) (msg : Text) : ClientMessage :=
  ⟨"err-".toList ++ dateText now, .assistant, msg, true⟩

/-- The entry of the history for a message. -/
def ClientMessage.historyEntry (m : ClientMessage) : HistoryEntry :=
  ⟨.str m.role.string, .str (String.ofList m.content)⟩

namespace ChatClient

/-- `upsertAssistant(id, updater)`. -/
def upsertAssistant (id : Text) (updater : Text → Text) (c : ChatClient) : ChatClient :=
  { c with
    messages := upsert (fun m => m.id = id)
      (fun m => { m with content := updater m.content }) (assistantMessage id (updater []))
      c.messages }

/-- `onConnect`. -/
def onConnect (c : ChatClient) : ChatClient := { c with connected := true }

/-- `onDisconnect`. -/
def onDisconnect (c : ChatClient) : ChatClient := { c with connected := false }

/-- `onError`. -/
def onError (now : Time) (msg : Text) (c : ChatClient) : ChatClient :=
  { c with typing := false, messages := c.messages ++ [errorMessage now msg] }

/-- `onChunk`, `onReply`, `onTyping` and `onError`. The client asks for no acknowledgement. -/
def receive (now : Time) (c : ChatClient) : ChatEvent → ChatClient
  | .typing v => { c with typing := v }
  | .chunk id chunk => c.upsertAssistant id (· ++ chunk)
  | .reply id message => c.upsertAssistant id fun _ => message
  | .error text => c.onError now text.toList
  | .acknowledged _ | .refused _ => c

/-- The effect that follows a change of the messages. -/
def commit (c : ChatClient) : ChatClient := { c with messagesRef := c.messages }

/-- `history` of `send`. -/
def history (c : ChatClient) : List HistoryEntry :=
  (c.messagesRef.filter fun m => !m.error).map (·.historyEntry)

/-- `send(text)`, with the payload that is emitted. -/
def send (now : Time) (text : Text) (c : ChatClient) : ChatClient × Option ChatPayload :=
  if trim text = [] then (c, none)
  else ({ c with messages := c.messages ++ [userMessage now (trim text)] },
    some ⟨.str (String.ofList (trim text)), some c.history⟩)

/-- The hook when it is mounted. -/
def initial (connected : Bool) : ChatClient := ⟨[], false, connected, []⟩

end ChatClient

/-! ## The conversation -/

variable (rt : TextRuntime)

/-- A reply that the server works on. -/
structure ChatStream where
  /-- Its name. -/
  id : Text
  /-- The model that answers. -/
  model : Option Assistant
  /-- What is answered. -/
  payload : ChatPayload
  /-- The events that have arrived. -/
  delivered : List ChatEvent
  /-- The events that have not. -/
  pending : List ChatEvent
  /-- Whether those are lost. -/
  lost : Bool
  /-- They are the events that the handler emits. -/
  whole : delivered ++ pending = (handleSocketChat rt model id false payload).emitted

variable {rt}

/-- A reply none of whose events has arrived. -/
def ChatStream.start (model : Option Assistant) (id : Text) (payload : ChatPayload) :
    ChatStream rt :=
  ⟨id, model, payload, [], _, false, rfl⟩

/-- Its next event has arrived. -/
def ChatStream.advance (stream : ChatStream rt) {e : ChatEvent} {rest : List ChatEvent}
    (h : stream.pending = e :: rest) : ChatStream rt :=
  { stream with
    delivered := stream.delivered ++ [e]
    pending := rest
    whole := by rw [← stream.whole, h, List.append_assoc, List.singleton_append] }

/-- The connection that its events are sent over is lost. -/
def ChatStream.cut (stream : ChatStream rt) : ChatStream rt := { stream with lost := true }

/-- `id` of a reply. -/
def replyId (now : Time) (random : Text) : Text := dateText now ++ '-' :: random

variable (rt) in
/-- The client, and what is on its way. -/
structure Conversation where
  /-- The client. -/
  client : ChatClient
  /-- The messages that the server has not received. -/
  outbox : List ChatPayload
  /-- The replies to those that it has. -/
  streams : List (ChatStream rt)

/-- What happens. -/
inductive ConversationEvent
  /-- The socket connects. -/
  | connect
  /-- The socket disconnects. -/
  | disconnect
  /-- A message on its way to the server is lost. -/
  | lose
  /-- The messages are rendered. -/
  | commit
  /-- `send` is called. -/
  | send (now : Time) (text : Text)
  /-- The server receives a message. -/
  | handle (now : Time) (random : Text) (model : Option Assistant)
  /-- An event of a reply arrives. -/
  | deliver (now : Time) (id : Text) (e : ChatEvent)

/-- One event. -/
inductive ConversationStep : Conversation rt → ConversationEvent → Conversation rt → Prop
  | connect (s : Conversation rt) :
    ConversationStep s .connect { s with client := s.client.onConnect }
  | disconnect (s : Conversation rt) :
    ConversationStep s .disconnect
      { s with client := s.client.onDisconnect, streams := s.streams.map (·.cut) }
  | lose {c : ChatClient} {streams : List (ChatStream rt)} (pre post : List ChatPayload)
      (payload : ChatPayload) :
    ConversationStep ⟨c, pre ++ payload :: post, streams⟩ .lose ⟨c, pre ++ post, streams⟩
  | commit (s : Conversation rt) : ConversationStep s .commit { s with client := s.client.commit }
  | send (s : Conversation rt) (now : Time) (text : Text) :
    ConversationStep s (.send now text)
      { s with
        client := (s.client.send now text).1
        outbox := s.outbox ++ (s.client.send now text).2.toList }
  | handle {c : ChatClient} {payload : ChatPayload} {outbox : List ChatPayload}
      {streams : List (ChatStream rt)} {now : Time} {random : Text} (model : Option Assistant)
      (hfresh : ∀ stream ∈ streams, stream.id ≠ replyId now random) :
    ConversationStep ⟨c, payload :: outbox, streams⟩ (.handle now random model)
      ⟨c, outbox, streams ++ [.start model (replyId now random) payload]⟩
  | deliver {c : ChatClient} {outbox : List ChatPayload} {pre post : List (ChatStream rt)}
      {stream : ChatStream rt} {e : ChatEvent} {rest : List ChatEvent} (now : Time)
      (hlost : stream.lost = false) (h : stream.pending = e :: rest) :
    ConversationStep ⟨c, outbox, pre ++ stream :: post⟩ (.deliver now stream.id e)
      ⟨c.receive now e, outbox, pre ++ stream.advance h :: post⟩

variable (rt) in
/-- Before the first message. -/
def Conversation.initial (connected : Bool) : Conversation rt := ⟨.initial connected, [], []⟩

/-- Nothing on its way is lost by an event. -/
def ConversationEvent.Keeps : ConversationEvent → Prop
  | .disconnect | .lose => False
  | _ => True

/-- Nothing is on its way. -/
def Conversation.Quiet (s : Conversation rt) : Prop :=
  s.outbox = [] ∧ ∀ stream ∈ s.streams, stream.pending = []

/-! ## The law -/

/-- What an event makes of the text that is shown of a reply. -/
def ChatEvent.display (shown : Option Text) : ChatEvent → Option Text
  | .chunk _ text => some (shown.getD [] ++ text)
  | .reply _ message => some message
  | _ => shown

/-- What is shown of a reply after some of its events. -/
def displayed (events : List ChatEvent) : Option Text := events.foldl ChatEvent.display none

/-- The texts that have been sent, oldest first. -/
def sentTexts (es : List ConversationEvent) : List Text :=
  es.filterMap fun
    | .send _ text => if trim text = [] then none else some (trim text)
    | _ => none

/-- The errors that have arrived, oldest first. -/
def errorTexts (es : List ConversationEvent) : List Text :=
  es.filterMap fun
    | .deliver _ _ (.error text) => some text.toList
    | _ => none

/-- The messages under a name. -/
def ChatClient.named (c : ChatClient) (id : Text) : List ClientMessage :=
  c.messages.filter fun m => m.id = id

/-- **The conversation is right**: a reply is shown as one message, which is what its own events
have made of it so far and the text of `chat:reply` in the end; what has been sent and the errors
are shown in their order; and there is nothing else. -/
structure ConversationRight (es : List ConversationEvent) (s : Conversation rt) : Prop where
  shown : ∀ stream ∈ s.streams, s.client.named stream.id =
    ((displayed stream.delivered).map (assistantMessage stream.id)).toList
  resolved : ∀ stream ∈ s.streams, stream.pending = [] →
    ∀ text chunks full, stream.payload.text rt = .ok text → text ≠ [] →
      streamAssistantReply rt stream.model text stream.payload.recent = ⟨chunks, .ok full⟩ →
      s.client.named stream.id = [assistantMessage stream.id chunks.flatten]
  rejected : ∀ stream ∈ s.streams, stream.pending = [] →
    ∀ text chunks err, stream.payload.text rt = .ok text → text ≠ [] →
      streamAssistantReply rt stream.model text stream.payload.recent = ⟨chunks, .error err⟩ →
      s.client.named stream.id =
        if chunks = [] then [] else [assistantMessage stream.id chunks.flatten]
  sent : (s.client.messages.filter fun m => m.role = .user).map (·.content) = sentTexts es
  errors : (s.client.messages.filter fun m => m.error).map (·.content) = errorTexts es
  origin : ∀ m ∈ s.client.messages, (∃ now text, m = userMessage now text) ∨
    (∃ now text, m = errorMessage now text) ∨
    ∃ stream ∈ s.streams, ∃ content, m = assistantMessage stream.id content

/-! ## Names -/

/-- A reply is named after a time. -/
def IsReplyId (id : Text) : Prop := ∃ now random, id = replyId now random

/-- The first character of a time. -/
lemma exists_head_dateText (now : Time) :
    ∃ c rest, dateText now = c :: rest ∧ (c.isDigit = true ∨ c = '-') := by
  have hdigits : ∀ n : ℕ, ∃ c rest, n.repr.toList = c :: rest ∧ c.isDigit = true := by
    intro n
    cases hn : Nat.toDigits 10 n with
    | nil => exact absurd hn Nat.toDigits_ne_nil
    | cons c rest =>
      refine ⟨c, rest, Nat.toList_repr.trans hn, ?_⟩
      exact Nat.isDigit_of_mem_toDigits (by decide) (by decide) (hn ▸ List.mem_cons_self)
  cases now with
  | ofNat n =>
    obtain ⟨c, rest, hn, hc⟩ := hdigits n
    exact ⟨c, rest, hn, .inl hc⟩
  | negSucc n =>
    refine ⟨'-', (n + 1).repr.toList, ?_, .inr rfl⟩
    change ("-" ++ (n + 1).repr).toList = _
    rw [String.toList_append]
    rfl

/-- A message that has been sent is not named like a reply. -/
lemma userMessage_id_ne {id : Text} (hid : IsReplyId id) (now : Time) (text : Text) :
    (userMessage now text).id ≠ id := by
  obtain ⟨then', random, rfl⟩ := hid
  obtain ⟨c, rest, hdate, hc⟩ := exists_head_dateText then'
  intro h
  rw [replyId, hdate] at h
  obtain rfl : 'u' = c := (List.cons.inj h).1
  revert hc
  decide

/-- Nor is an error. -/
lemma errorMessage_id_ne {id : Text} (hid : IsReplyId id) (now : Time) (text : Text) :
    (errorMessage now text).id ≠ id := by
  obtain ⟨then', random, rfl⟩ := hid
  obtain ⟨c, rest, hdate, hc⟩ := exists_head_dateText then'
  intro h
  rw [replyId, hdate] at h
  obtain rfl : 'e' = c := (List.cons.inj h).1
  revert hc
  decide

/-- The event is none of another reply. -/
def ChatEvent.Names (id : Text) : ChatEvent → Prop
  | .chunk id' _ | .reply id' _ => id' = id
  | _ => True

/-- The text of `chat:error`. -/
def unavailableNow : String := "The assistant is unavailable right now."

/-- What the handler emits: the chunks, and the reply or an error after them. -/
lemma exists_emitted {payload : ChatPayload} {text : Text} (htext : payload.text rt = .ok text)
    (hne : text ≠ []) (model : Option Assistant) (id : Text) :
    ∃ (chunks : List Text) (last : ChatEvent),
      (handleSocketChat rt model id false payload).emitted =
        .typing true :: (chunks.map (ChatEvent.chunk id) ++ [last, .typing false]) ∧
      (last = .reply id chunks.flatten ∨ last = .error unavailableNow) := by
  cases hreply : streamAssistantReply rt model text payload.recent with
  | mk chunks result =>
    cases result with
    | error err =>
      refine ⟨chunks, .error unavailableNow, ?_, .inr rfl⟩
      rw [emitted_handleSocketChat_of_error rt htext hne hreply]
      simp [unavailableNow]
    | ok full =>
      refine ⟨chunks, .reply id chunks.flatten, ?_, .inl rfl⟩
      rw [emitted_handleSocketChat_of_ok rt htext hne hreply]
      simp

/-- The handler names the reply it is told to. -/
lemma names_of_mem_emitted {model : Option Assistant} {id : Text} {payload : ChatPayload}
    {e : ChatEvent} (h : e ∈ (handleSocketChat rt model id false payload).emitted) :
    e.Names id := by
  by_cases hasked : ∀ text, payload.text rt = .ok text → text = []
  · cases (emitted_handleSocketChat_of_empty rt hasked id false e h).1
  · simp only [not_forall] at hasked
    obtain ⟨text, htext, hne⟩ := hasked
    obtain ⟨chunks, last, hemitted, hlast⟩ := exists_emitted htext hne model id
    rw [hemitted, List.mem_cons, List.mem_append, List.mem_map] at h
    rcases h with rfl | ⟨chunk, -, rfl⟩ | h
    · trivial
    · rfl
    · simp only [List.mem_cons, List.not_mem_nil, or_false] at h
      rcases h with rfl | rfl
      · rcases hlast with rfl | rfl
        · rfl
        · trivial
      · trivial

/-- So do the events that are pending. -/
lemma ChatStream.names_of_pending (stream : ChatStream rt) {e : ChatEvent}
    {rest : List ChatEvent} (h : stream.pending = e :: rest) : e.Names stream.id := by
  have hmem : e ∈ (handleSocketChat rt stream.model stream.id false stream.payload).emitted := by
    rw [← stream.whole, h]
    exact List.mem_append_right _ List.mem_cons_self
  exact names_of_mem_emitted hmem

/-! ## What an event does to the messages -/

section Receive

variable {c : ChatClient} {id : Text} {e : ChatEvent}

/-- A reply is extended by its event. -/
lemma named_receive_self (hid : IsReplyId id) (he : e.Names id) {shown : Option Text}
    (h : c.named id = (shown.map (assistantMessage id)).toList) (now : Time) :
    (c.receive now e).named id = ((e.display shown).map (assistantMessage id)).toList := by
  have hupsert : ∀ updater : Text → Text, (c.upsertAssistant id updater).named id =
      [assistantMessage id (updater (shown.getD []))] := by
    intro updater
    refine (filter_upsert_self (by simp) (by simp [assistantMessage]) h).trans ?_
    cases shown <;> rfl
  cases e with
  | typing v => exact h
  | chunk id' text =>
    obtain rfl : id' = id := he
    exact hupsert (· ++ text)
  | reply id' message =>
    obtain rfl : id' = id := he
    exact hupsert fun _ => message
  | error text =>
    refine Eq.trans ?_ h
    change (c.messages ++ [errorMessage now text.toList]).filter _ = c.messages.filter _
    simp [errorMessage_id_ne hid]
  | acknowledged id' => exact h
  | refused error => exact h

/-- The message that an event adds, if it is an error. -/
def ChatEvent.added (now : Time) : ChatEvent → List ClientMessage
  | .error text => [errorMessage now text.toList]
  | _ => []

/-- The messages of any other kind stay, but for an error that is added. -/
lemma filter_receive (he : e.Names id) {q : ClientMessage → Bool}
    (hq : ∀ content, q (assistantMessage id content) = false)
    (hkind : ∀ m ∈ c.messages, m.id = id → ∃ content, m = assistantMessage id content)
    (now : Time) :
    (c.receive now e).messages.filter q = c.messages.filter q ++ (e.added now).filter q := by
  have hupsert : ∀ updater : Text → Text, (c.upsertAssistant id updater).messages.filter q =
      c.messages.filter q ++ [] := by
    intro updater
    rw [List.append_nil]
    refine filter_upsert_of_disjoint ?_ (hq _)
    intro m hm hmid
    obtain ⟨content, rfl⟩ := hkind m hm (of_decide_eq_true hmid)
    exact ⟨hq content, hq (updater content)⟩
  cases e with
  | typing v => exact (List.append_nil _).symm
  | chunk id' text =>
    obtain rfl : id' = id := he
    exact hupsert (· ++ text)
  | reply id' message =>
    obtain rfl : id' = id := he
    exact hupsert fun _ => message
  | error text => exact List.filter_append _ _
  | acknowledged id' => exact (List.append_nil _).symm
  | refused error => exact (List.append_nil _).symm

/-- A message after an event is one of before, of the reply, or an error. -/
lemma mem_receive (he : e.Names id)
    (hkind : ∀ m ∈ c.messages, m.id = id → ∃ content, m = assistantMessage id content)
    {now : Time} {m : ClientMessage} (hm : m ∈ (c.receive now e).messages) :
    m ∈ c.messages ∨ (∃ text, m = errorMessage now text) ∨
      ∃ content, m = assistantMessage id content := by
  have hupsert : ∀ updater : Text → Text, m ∈ (c.upsertAssistant id updater).messages →
      m ∈ c.messages ∨ (∃ text, m = errorMessage now text) ∨
        ∃ content, m = assistantMessage id content := by
    intro updater hm
    rcases mem_upsert hm with hm | ⟨m', hm', hmid, rfl⟩ | rfl
    · exact .inl hm
    · obtain ⟨content, rfl⟩ := hkind m' hm' (of_decide_eq_true hmid)
      exact .inr (.inr ⟨updater content, rfl⟩)
    · exact .inr (.inr ⟨updater [], rfl⟩)
  cases e with
  | typing v => exact .inl hm
  | chunk id' text =>
    obtain rfl : id' = id := he
    exact hupsert _ hm
  | reply id' message =>
    obtain rfl : id' = id := he
    exact hupsert _ hm
  | error text =>
    rcases List.mem_append.1 hm with hm | hm
    · exact .inl hm
    · exact .inr (.inl ⟨text.toList, List.mem_singleton.1 hm⟩)
  | acknowledged id' => exact .inl hm
  | refused error => exact .inl hm

end Receive

/-! ## The messages -/

variable {s s' : Conversation rt} {es : List ConversationEvent} {e : ConversationEvent}

/-- What holds of the messages after some events. -/
structure Traced (es : List ConversationEvent) (s : Conversation rt) : Prop where
  distinct : UniqueKey (fun stream => stream.id) s.streams
  isReplyId : ∀ stream ∈ s.streams, IsReplyId stream.id
  shown : ∀ stream ∈ s.streams, s.client.named stream.id =
    ((displayed stream.delivered).map (assistantMessage stream.id)).toList
  sent : (s.client.messages.filter fun m => m.role = .user).map (·.content) = sentTexts es
  errors : (s.client.messages.filter fun m => m.error).map (·.content) = errorTexts es
  origin : ∀ m ∈ s.client.messages, (∃ now text, m = userMessage now text) ∨
    (∃ now text, m = errorMessage now text) ∨
    ∃ stream ∈ s.streams, ∃ content, m = assistantMessage stream.id content

/-- A message with the name of a reply is of that reply. -/
lemma Traced.eq_of_id (hs : Traced es s) {stream : ChatStream rt} (hstream : stream ∈ s.streams)
    {m : ClientMessage} (hm : m ∈ s.client.messages) (hid : m.id = stream.id) :
    ∃ content, m = assistantMessage stream.id content := by
  have hreply := hs.isReplyId stream hstream
  rcases hs.origin m hm with ⟨now, text, rfl⟩ | ⟨now, text, rfl⟩ | ⟨stream', -, content, rfl⟩
  · exact absurd hid (userMessage_id_ne hreply now text)
  · exact absurd hid (errorMessage_id_ne hreply now text)
  · exact ⟨content, congrArg (assistantMessage · content) hid⟩

/-- There is no message with the name of a reply that has not been started. -/
lemma Traced.named_eq_nil (hs : Traced es s) {id : Text} (hid : IsReplyId id)
    (hfresh : ∀ stream ∈ s.streams, stream.id ≠ id) : s.client.named id = [] := by
  refine List.filter_eq_nil_iff.2 fun m hm hmid => ?_
  have hmid : m.id = id := of_decide_eq_true hmid
  rcases hs.origin m hm with ⟨now, text, rfl⟩ | ⟨now, text, rfl⟩ | ⟨stream, hstream, content, rfl⟩
  · exact userMessage_id_ne hid now text hmid
  · exact errorMessage_id_ne hid now text hmid
  · exact hfresh stream hstream hmid

/-- What holds of the messages depends on these, and on what has arrived of which replies. -/
lemma Traced.of_messages {es' : List ConversationEvent} (hs : Traced es s)
    (hmessages : s'.client.messages = s.client.messages)
    (hstreams : s'.streams.map (fun stream => (stream.id, stream.delivered)) =
      s.streams.map fun stream => (stream.id, stream.delivered))
    (hsent : sentTexts es' = sentTexts es) (herrors : errorTexts es' = errorTexts es) :
    Traced es' s' := by
  have hids : s'.streams.map (·.id) = s.streams.map (·.id) := by
    have hfst := congrArg (List.map Prod.fst) hstreams
    rwa [List.map_map, List.map_map] at hfst
  have hsame : ∀ stream' ∈ s'.streams, ∃ stream ∈ s.streams,
      stream'.id = stream.id ∧ stream'.delivered = stream.delivered := by
    intro stream' hstream'
    have hmem : (stream'.id, stream'.delivered) ∈
        s.streams.map fun stream => (stream.id, stream.delivered) :=
      hstreams ▸ List.mem_map.2 ⟨stream', hstream', rfl⟩
    obtain ⟨stream, hstream, heq⟩ := List.mem_map.1 hmem
    obtain ⟨hid, hdelivered⟩ := Prod.mk.inj heq
    exact ⟨stream, hstream, hid.symm, hdelivered.symm⟩
  constructor
  · rw [UniqueKey, hids]
    exact hs.distinct
  · intro stream' hstream'
    obtain ⟨stream, hstream, hid, -⟩ := hsame stream' hstream'
    exact hid ▸ hs.isReplyId stream hstream
  · intro stream' hstream'
    obtain ⟨stream, hstream, hid, hdelivered⟩ := hsame stream' hstream'
    rw [hid, hdelivered, ChatClient.named, hmessages]
    exact hs.shown stream hstream
  · rw [hmessages, hsent]
    exact hs.sent
  · rw [hmessages, herrors]
    exact hs.errors
  · intro m hm
    rw [hmessages] at hm
    refine (hs.origin m hm).imp_right (Or.imp_right ?_)
    rintro ⟨stream, hstream, content, rfl⟩
    have hmem : stream.id ∈ s'.streams.map (·.id) := hids ▸ List.mem_map.2 ⟨stream, hstream, rfl⟩
    obtain ⟨stream', hstream', hid⟩ := List.mem_map.1 hmem
    exact ⟨stream', hstream', content, by rw [hid]⟩

@[simp] lemma sentTexts_concat (es : List ConversationEvent) (e : ConversationEvent) :
    sentTexts (es ++ [e]) = sentTexts es ++ sentTexts [e] := List.filterMap_append

@[simp] lemma errorTexts_concat (es : List ConversationEvent) (e : ConversationEvent) :
    errorTexts (es ++ [e]) = errorTexts es ++ errorTexts [e] := List.filterMap_append

/-- A message that has been sent is added. -/
lemma Traced.send (hs : Traced es s) (now : Time) (text : Text) :
    Traced (es ++ [.send now text])
      { s with
        client := (s.client.send now text).1
        outbox := s.outbox ++ (s.client.send now text).2.toList } := by
  by_cases htext : trim text = []
  · refine hs.of_messages ?_ rfl ?_ ?_
    · simp [ChatClient.send, htext]
    · simp [sentTexts, htext]
    · simp [errorTexts]
  have hmessages : (s.client.send now text).1.messages =
      s.client.messages ++ [userMessage now (trim text)] := by
    rw [ChatClient.send, if_neg htext]
  constructor
  · exact hs.distinct
  · exact hs.isReplyId
  · intro stream hstream
    have hne := userMessage_id_ne (hs.isReplyId stream hstream) now (trim text)
    rw [ChatClient.named, hmessages, List.filter_append,
      List.filter_cons_of_neg (by simpa using hne), List.filter_nil, List.append_nil]
    exact hs.shown stream hstream
  · simp only [hmessages, List.filter_append, List.map_append, hs.sent, sentTexts_concat]
    simp [sentTexts, userMessage, htext]
  · simp only [hmessages, List.filter_append, List.map_append, hs.errors, errorTexts_concat]
    simp [errorTexts, userMessage]
  · intro m hm
    rw [hmessages, List.mem_append, List.mem_singleton] at hm
    rcases hm with hm | rfl
    · exact hs.origin m hm
    · exact .inl ⟨now, trim text, rfl⟩

/-- A reply is started. -/
lemma Traced.handle {c : ChatClient} {payload : ChatPayload} {outbox : List ChatPayload}
    {streams : List (ChatStream rt)} {now : Time} {random : Text}
    (hs : Traced es ⟨c, payload :: outbox, streams⟩) (model : Option Assistant)
    (hfresh : ∀ stream ∈ streams, stream.id ≠ replyId now random) :
    Traced (es ++ [.handle now random model])
      ⟨c, outbox, streams ++ [.start model (replyId now random) payload]⟩ := by
  have hid : IsReplyId (replyId now random) := ⟨now, random, rfl⟩
  constructor
  · exact uniqueKey_concat.2 ⟨hs.distinct, hfresh⟩
  · simp only [List.forall_mem_append, List.forall_mem_singleton]
    exact ⟨hs.isReplyId, hid⟩
  · simp only [List.forall_mem_append, List.forall_mem_singleton]
    exact ⟨hs.shown, hs.named_eq_nil hid hfresh⟩
  · simpa [sentTexts] using hs.sent
  · simpa [errorTexts] using hs.errors
  · intro m hm
    refine (hs.origin m hm).imp_right (Or.imp_right ?_)
    rintro ⟨stream, hstream, content, rfl⟩
    exact ⟨stream, List.mem_append_left _ hstream, content, rfl⟩

/-- The event of a reply arrives. -/
lemma Traced.deliver {c : ChatClient} {outbox : List ChatPayload} {pre post : List (ChatStream rt)}
    {stream : ChatStream rt} {e : ChatEvent} {rest : List ChatEvent}
    (hs : Traced es ⟨c, outbox, pre ++ stream :: post⟩) (now : Time)
    (h : stream.pending = e :: rest) :
    Traced (es ++ [.deliver now stream.id e])
      ⟨c.receive now e, outbox, pre ++ stream.advance h :: post⟩ := by
  have hmem : stream ∈ pre ++ stream :: post := List.mem_append_right _ List.mem_cons_self
  have hnames := stream.names_of_pending h
  have hkind : ∀ m ∈ c.messages, m.id = stream.id →
      ∃ content, m = assistantMessage stream.id content := fun m hm hid => hs.eq_of_id hmem hm hid
  have hids : (pre ++ stream.advance h :: post).map (·.id) =
      (pre ++ stream :: post).map (·.id) := by simp [ChatStream.advance]
  -- The other replies are not concerned.
  have hothers : ∀ other ∈ pre ++ post, other.id ≠ stream.id := (uniqueKey_middle.1 hs.distinct).1
  constructor
  · rw [UniqueKey, hids]
    exact hs.distinct
  · intro other hother
    rw [List.perm_middle.mem_iff, List.mem_cons] at hother
    rcases hother with rfl | hother
    · exact hs.isReplyId stream hmem
    · exact hs.isReplyId other (List.perm_middle.mem_iff.2 (List.mem_cons_of_mem _ hother))
  · intro other hother
    rw [List.perm_middle.mem_iff, List.mem_cons] at hother
    rcases hother with rfl | hother
    · have hself := named_receive_self (hs.isReplyId stream hmem) hnames (hs.shown stream hmem) now
      simpa [ChatStream.advance, displayed] using hself
    · have hother' := List.perm_middle.mem_iff.2 (List.mem_cons_of_mem stream hother)
      refine Eq.trans ?_ (hs.shown other hother')
      refine (filter_receive hnames ?_ hkind now).trans ?_
      · exact fun content => decide_eq_false (hothers other hother).symm
      · have hnone : (e.added now).filter (fun m => m.id = other.id) = [] := by
          cases e <;> simp [ChatEvent.added, errorMessage_id_ne (hs.isReplyId other hother')]
        rw [hnone, List.append_nil]
        rfl
  · rw [filter_receive hnames (by simp [assistantMessage]) hkind, List.map_append, hs.sent,
      sentTexts_concat]
    cases e <;> simp [ChatEvent.added, errorMessage, sentTexts]
  · rw [filter_receive hnames (by simp [assistantMessage]) hkind, List.map_append, hs.errors,
      errorTexts_concat]
    cases e <;> simp [ChatEvent.added, errorMessage, errorTexts]
  · have hadvance : ∀ other ∈ pre ++ stream :: post, ∃ other' ∈ pre ++ stream.advance h :: post,
        other'.id = other.id := by
      intro other hother
      have hid : other.id ∈ (pre ++ stream.advance h :: post).map (·.id) :=
        hids ▸ List.mem_map.2 ⟨other, hother, rfl⟩
      exact List.mem_map.1 hid
    intro m hm
    rcases mem_receive hnames hkind hm with hm | ⟨text, rfl⟩ | ⟨content, rfl⟩
    · refine (hs.origin m hm).imp_right (Or.imp_right ?_)
      rintro ⟨other, hother, content, rfl⟩
      obtain ⟨other', hother', hid⟩ := hadvance other hother
      exact ⟨other', hother', content, by rw [hid]⟩
    · exact .inr (.inl ⟨now, text, rfl⟩)
    · exact .inr (.inr ⟨stream.advance h, List.mem_append_right _ List.mem_cons_self, content, rfl⟩)

/-- **Every step keeps the invariant.** -/
theorem Traced.step (hs : Traced es s) (h : ConversationStep s e s') : Traced (es ++ [e]) s' := by
  cases h with
  | connect => exact hs.of_messages rfl rfl (by simp [sentTexts]) (by simp [errorTexts])
  | disconnect =>
    refine hs.of_messages rfl ?_ (by simp [sentTexts]) (by simp [errorTexts])
    simp [ChatStream.cut]
  | lose => exact hs.of_messages rfl rfl (by simp [sentTexts]) (by simp [errorTexts])
  | commit => exact hs.of_messages rfl rfl (by simp [sentTexts]) (by simp [errorTexts])
  | send _ now text => exact hs.send now text
  | handle model hfresh => exact hs.handle model hfresh
  | deliver now hlost hpending => exact hs.deliver now hpending

/-- It holds at the start. -/
lemma traced_initial (connected : Bool) : Traced [] (Conversation.initial rt connected) where
  distinct := uniqueKey_nil
  isReplyId := List.forall_mem_nil _
  shown := List.forall_mem_nil _
  sent := rfl
  errors := rfl
  origin := List.forall_mem_nil _

/-- It holds after every run. -/
lemma traced_of_run {connected : Bool} (h : Run ConversationStep (.initial rt connected) es s) :
    Traced es s :=
  h.induction_from (traced_initial connected) fun _ _ _ _ _ hs hstep => hs.step hstep

/-- What the chunks of a reply make of its text. -/
lemma foldl_display_chunks (id : Text) (chunks : List Text) (shown : Option Text) :
    (chunks.map (ChatEvent.chunk id)).foldl ChatEvent.display shown =
      if chunks = [] then shown else some (shown.getD [] ++ chunks.flatten) := by
  induction chunks generalizing shown with
  | nil => rfl
  | cons chunk chunks ih =>
    rw [List.map_cons, List.foldl_cons, ih, if_neg (List.cons_ne_nil _ _)]
    split_ifs with hnil
    · simp [ChatEvent.display, hnil]
    · simp [ChatEvent.display]

/-- All events of a reply that nothing is pending of have arrived. -/
lemma ChatStream.delivered_of_pending_eq_nil {stream : ChatStream rt} (h : stream.pending = []) :
    stream.delivered =
      (handleSocketChat rt stream.model stream.id false stream.payload).emitted := by
  rw [← stream.whole, h, List.append_nil]

/-- The messages are right. -/
lemma Traced.right (hs : Traced es s) : ConversationRight es s := by
  refine ⟨hs.shown, ?_, ?_, hs.sent, hs.errors, hs.origin⟩
  · intro stream hstream hpending text chunks full htext hne hreply
    rw [hs.shown stream hstream, stream.delivered_of_pending_eq_nil hpending,
      emitted_handleSocketChat_of_ok rt htext hne hreply]
    simp [displayed, ChatEvent.display]
  · intro stream hstream hpending text chunks err htext hne hreply
    rw [hs.shown stream hstream, stream.delivered_of_pending_eq_nil hpending,
      emitted_handleSocketChat_of_error rt htext hne hreply]
    simp only [displayed, List.foldl_append, List.foldl_cons, ChatEvent.display,
      foldl_display_chunks]
    split_ifs <;> simp_all

/-- Events of a reply that are next can arrive one after the other. -/
lemma exists_run_deliver (c : ChatClient) (outbox : List ChatPayload)
    (pre post : List (ChatStream rt)) {stream : ChatStream rt} (hlost : stream.lost = false)
    {events rest : List ChatEvent} (h : stream.pending = events ++ rest) (now : Time) :
    ∃ (c' : ChatClient) (stream' : ChatStream rt),
      Run ConversationStep ⟨c, outbox, pre ++ stream :: post⟩
          (events.map fun e => .deliver now stream.id e) ⟨c', outbox, pre ++ stream' :: post⟩ ∧
        stream'.lost = false ∧ stream'.pending = rest ∧ stream'.id = stream.id := by
  induction events generalizing c stream with
  | nil => exact ⟨c, stream, .nil _, hlost, h, rfl⟩
  | cons e events ih =>
    obtain ⟨c', stream', hrun, hrest⟩ :=
      ih (c.receive now e) (show (stream.advance h).lost = false from hlost) rfl
    exact ⟨c', stream', .cons (.deliver now hlost h) hrun, hrest⟩

/-- The payload of a question. -/
def question : ChatPayload := ⟨.str (String.ofList "Why?".toList), some []⟩

/-- The reply of a deployment without a model. -/
def unconfiguredStream (random : Text) : ChatStream .ascii :=
  .start none (replyId 2 random) question

/-- Its events. -/
lemma pending_unconfiguredStream (random : Text) :
    (unconfiguredStream random).pending =
      [.typing true, .chunk (replyId 2 random) assistantUnavailable] ++
        [.reply (replyId 2 random) assistantUnavailable, .typing false] := by
  have htext : question.text .ascii = .ok "Why?".toList := by decide
  have hreply : streamAssistantReply .ascii none "Why?".toList question.recent =
      ⟨[assistantUnavailable], .ok assistantUnavailable⟩ := rfl
  refine (emitted_handleSocketChat_of_ok _ htext (by decide) hreply _ _).trans ?_
  simp

/-- The client while two questions are answered. -/
def askingClient : ChatClient :=
  ⟨[userMessage 1 "Why?".toList, userMessage 1 "Why?".toList], false, true, []⟩

/-- Two questions are sent, and the events of their replies arrive in turns. -/
lemma exists_run_turns : ∃ (es : List ConversationEvent) (s : Conversation .ascii),
    Run ConversationStep (.initial .ascii true) es s ∧ (∀ e ∈ es, e.Keeps) ∧ s.Quiet ∧
      s.streams.map (·.id) = [replyId 2 "a".toList, replyId 2 "b".toList] := by
  let a := unconfiguredStream "a".toList
  let b := unconfiguredStream "b".toList
  let c : ChatClient := ⟨[userMessage 1 "Why?".toList], false, true, []⟩
  have hsend₁ : ConversationStep (.initial .ascii true) (.send 1 "Why?".toList)
      ⟨c, [question], []⟩ := .send _ _ _
  have hsend₂ : @ConversationStep .ascii ⟨c, [question], []⟩ (.send 1 "Why?".toList)
      ⟨askingClient, [question, question], []⟩ := .send _ _ _
  have hhandle₁ : @ConversationStep .ascii ⟨askingClient, [question, question], []⟩
      (.handle 2 "a".toList none) ⟨askingClient, [question], [a]⟩ :=
    .handle none (List.forall_mem_nil _)
  have hhandle₂ : @ConversationStep .ascii ⟨askingClient, [question], [a]⟩
      (.handle 2 "b".toList none) ⟨askingClient, [], [a, b]⟩ := .handle none (by decide)
  obtain ⟨c₁, a₁, hrun₁, hlost₁, ha₁, hida⟩ := exists_run_deliver askingClient [] [] [b]
    rfl (pending_unconfiguredStream "a".toList) 3
  obtain ⟨c₂, b₁, hrun₂, hlost₂, hb₁, hidb⟩ := exists_run_deliver c₁ [] [a₁] []
    rfl (pending_unconfiguredStream "b".toList) 4
  rw [← List.append_nil [_, _]] at ha₁ hb₁
  obtain ⟨c₃, a₂, hrun₃, hlost₃, ha₂, hida₂⟩ := exists_run_deliver c₂ [] [] [b₁]
    hlost₁ ha₁ 5
  obtain ⟨c₄, b₂, hrun₄, hlost₄, hb₂, hidb₂⟩ := exists_run_deliver c₃ [] [a₂] []
    hlost₂ hb₁ 6
  refine ⟨_, _, .cons hsend₁ (.cons hsend₂ (.cons hhandle₁ (.cons hhandle₂
    (((hrun₁.append hrun₂).append hrun₃).append hrun₄)))), ?_, ⟨rfl, ?_⟩, ?_⟩
  · simp [ConversationEvent.Keeps]
  · simp [ha₂, hb₂]
  · simp [hida₂, hidb₂, hida, hidb, unconfiguredStream, ChatStream.start]

/-- **In every interleaving**, each message is what its own reply has made of it. -/
theorem conversationRight_of_run {connected : Bool}
    (h : Run ConversationStep (.initial rt connected) es s) : ConversationRight es s :=
  (traced_of_run h).right

/-- So it is when two replies arrive in turns. -/
theorem conversationRight_turns : ∃ (es : List ConversationEvent) (s : Conversation .ascii),
    s.Quiet ∧ s.streams.map (·.id) = [replyId 2 "a".toList, replyId 2 "b".toList] ∧
      ConversationRight es s := by
  obtain ⟨es, s, hrun, -, hquiet, hids⟩ := exists_run_turns
  exact ⟨es, s, hquiet, hids, conversationRight_of_run hrun⟩

/-! ## The answers -/

/-- What `streamAssistantReply` comes to for a reply. -/
def ChatStream.answer (stream : ChatStream rt) : Emitting Text JsError Text :=
  match stream.payload.text rt with
  | .error err => throw err
  | .ok text => streamAssistantReply rt stream.model text stream.payload.recent

/-- The reply fails. -/
def ChatStream.rejects (stream : ChatStream rt) : Bool :=
  match stream.answer.result with
  | .ok _ => false
  | .error _ => true

/-- An event that is an error. -/
def ChatEvent.isError : ChatEvent → Bool
  | .error _ => true
  | _ => false

/-- **Each message has been answered once**: the assistant has been asked what has been sent, in
that order; a reply that has not failed is shown as one message with the text of its `chat:reply`,
which is all of its chunks; one that has failed shows the chunks before the failure, if there are
any, and an error; and the assistant is not shown as typing. -/
structure ConversationAnswered (es : List ConversationEvent) (s : Conversation rt) : Prop where
  asked : s.streams.map (·.payload.text rt) = (sentTexts es).map .ok
  replied : ∀ stream ∈ s.streams, ∀ chunks full, stream.answer = ⟨chunks, .ok full⟩ →
    .reply stream.id chunks.flatten ∈ stream.delivered ∧
      s.client.named stream.id = [assistantMessage stream.id chunks.flatten]
  failed : ∀ stream ∈ s.streams, ∀ chunks err, stream.answer = ⟨chunks, .error err⟩ →
    s.client.named stream.id =
      if chunks = [] then [] else [assistantMessage stream.id chunks.flatten]
  errors : s.client.messages.countP (·.error) = s.streams.countP (·.rejects)
  typing : s.client.typing = false

/-- What holds while nothing is lost. -/
structure Unlost (es : List ConversationEvent) (s : Conversation rt) : Prop where
  asked : s.streams.map (·.payload.text rt) ++ s.outbox.map (·.text rt) =
    (sentTexts es).map .ok
  errors : (errorTexts es).length = (s.streams.map (·.delivered.countP ChatEvent.isError)).sum
  typing : s.client.typing = true → ∃ stream ∈ s.streams, stream.pending ≠ []

/-- A text that has been sent is not empty. -/
lemma ne_nil_of_mem_sentTexts {text : Text} (h : text ∈ sentTexts es) : text ≠ [] := by
  obtain ⟨e, -, he⟩ := List.mem_filterMap.1 h
  cases e <;> simp at he
  obtain ⟨hne, rfl⟩ := he
  exact hne

/-- A string, trimmed. -/
lemma trimmed_str (s : String) : rt.trimmed (.str s) = .ok (trim s.toList) := by
  by_cases hs : s = ""
  · subst hs
    rfl
  · have htruthy : (Js.str s).truthy = true := by simpa [Js.truthy] using hs
    rw [TextRuntime.trimmed, if_pos htruthy]
    rfl

/-- The server is asked what has been typed, trimmed. -/
lemma text_of_send (text : Text) (history : Option (List HistoryEntry)) :
    ChatPayload.text rt ⟨.str (String.ofList (trim text)), history⟩ = .ok (trim text) := by
  rw [ChatPayload.text, trimmed_str, String.toList_ofList, trim_trim]

/-- What the answer to a text comes to. -/
lemma ChatStream.answer_of_text {stream : ChatStream rt} {text : Text}
    (htext : stream.payload.text rt = .ok text) :
    stream.answer = streamAssistantReply rt stream.model text stream.payload.recent := by
  rw [ChatStream.answer, htext]

/-- The last event of a reply ends the typing. -/
lemma ChatStream.eq_typing_of_last (stream : ChatStream rt) {text : Text}
    (htext : stream.payload.text rt = .ok text) (hne : text ≠ []) {e : ChatEvent}
    (h : stream.pending = [e]) : e = .typing false := by
  obtain ⟨chunks, last, hemitted, -⟩ := exists_emitted htext hne stream.model stream.id
  have hwhole := stream.whole
  rw [h, hemitted] at hwhole
  have hend : ChatEvent.typing true ::
      (chunks.map (ChatEvent.chunk stream.id) ++ [last, .typing false]) =
        (.typing true :: (chunks.map (ChatEvent.chunk stream.id) ++ [last])) ++
          [.typing false] := by
    simp
  exact List.singleton_inj.1 (List.append_inj' (hwhole.trans hend) rfl).2

/-- Among the events of a reply is an error exactly when it fails. -/
lemma countP_isError_emitted (stream : ChatStream rt) {text : Text}
    (htext : stream.payload.text rt = .ok text) (hne : text ≠ []) :
    (handleSocketChat rt stream.model stream.id false stream.payload).emitted.countP
      ChatEvent.isError = if stream.rejects then 1 else 0 := by
  have hchunks : ∀ chunks : List Text,
      (chunks.map (ChatEvent.chunk stream.id)).countP ChatEvent.isError = 0 := by
    intro chunks
    simp [List.countP_eq_zero, ChatEvent.isError]
  rw [ChatStream.rejects, ChatStream.answer_of_text htext]
  cases hreply : streamAssistantReply rt stream.model text stream.payload.recent with
  | mk chunks result =>
    cases result with
    | error err =>
      rw [emitted_handleSocketChat_of_error rt htext hne hreply]
      simp [List.countP_cons, ChatEvent.isError, hchunks]
    | ok full =>
      rw [emitted_handleSocketChat_of_ok rt htext hne hreply]
      simp [ChatEvent.isError, hchunks]

/-- Where each has one or none, the number of all is the number of those with one. -/
lemma sum_map_eq_countP {α : Type} {f : α → ℕ} {p : α → Bool} {l : List α}
    (h : ∀ a ∈ l, f a = if p a then 1 else 0) : (l.map f).sum = l.countP p := by
  induction l with
  | nil => rfl
  | cons a l ih =>
    rw [List.forall_mem_cons] at h
    rw [List.map_cons, List.sum_cons, List.countP_cons, h.1, ih h.2, Nat.add_comm]

/-- The assistant is only ever asked a text. -/
lemma Unlost.exists_text (hs : Unlost es s) {stream : ChatStream rt}
    (hstream : stream ∈ s.streams) : ∃ text, stream.payload.text rt = .ok text ∧ text ≠ [] := by
  have hmem : stream.payload.text rt ∈ (sentTexts es).map .ok := by
    rw [← hs.asked]
    exact List.mem_append_left _ (List.mem_map.2 ⟨stream, hstream, rfl⟩)
  obtain ⟨text, hsent, htext⟩ := List.mem_map.1 hmem
  exact ⟨text, htext.symm, ne_nil_of_mem_sentTexts hsent⟩

/-- A message is sent. -/
lemma Unlost.send (hs : Unlost es s) (now : Time) (text : Text) :
    Unlost (es ++ [.send now text])
      { s with
        client := (s.client.send now text).1
        outbox := s.outbox ++ (s.client.send now text).2.toList } := by
  constructor
  · conv_rhs => rw [sentTexts_concat, List.map_append, ← hs.asked]
    by_cases htext : trim text = []
    · simp [ChatClient.send, htext, sentTexts]
    · simp [ChatClient.send, htext, sentTexts, text_of_send]
  · rw [errorTexts_concat, List.length_append, hs.errors]
    rfl
  · have htyping : (s.client.send now text).1.typing = s.client.typing := by
      unfold ChatClient.send
      split_ifs <;> rfl
    exact fun h => hs.typing (htyping ▸ h)

/-- The server starts the reply to the message that it receives. -/
lemma Unlost.handle {c : ChatClient} {payload : ChatPayload} {outbox : List ChatPayload}
    {streams : List (ChatStream rt)} (hs : Unlost es ⟨c, payload :: outbox, streams⟩) (now : Time)
    (random : Text) (model : Option Assistant) :
    Unlost (es ++ [.handle now random model])
      ⟨c, outbox, streams ++ [.start model (replyId now random) payload]⟩ := by
  constructor
  · conv_rhs => rw [sentTexts_concat, List.map_append, ← hs.asked]
    simp [sentTexts, ChatStream.start]
  · rw [errorTexts_concat, List.length_append, hs.errors]
    simp [errorTexts, ChatStream.start]
  · intro h
    obtain ⟨stream, hstream, hpending⟩ := hs.typing h
    exact ⟨stream, List.mem_append_left _ hstream, hpending⟩

/-- An event arrives. -/
lemma Unlost.deliver {c : ChatClient} {outbox : List ChatPayload} {pre post : List (ChatStream rt)}
    {stream : ChatStream rt} {e : ChatEvent} {rest : List ChatEvent}
    (hs : Unlost es ⟨c, outbox, pre ++ stream :: post⟩) (now : Time)
    (h : stream.pending = e :: rest) :
    Unlost (es ++ [.deliver now stream.id e])
      ⟨c.receive now e, outbox, pre ++ stream.advance h :: post⟩ := by
  have hmem : stream ∈ pre ++ stream :: post := List.mem_append_right _ List.mem_cons_self
  constructor
  · conv_rhs => rw [sentTexts_concat, List.map_append, ← hs.asked]
    simp [sentTexts, ChatStream.advance]
  · rw [errorTexts_concat, List.length_append, hs.errors]
    cases e with
    | error text =>
      simp [errorTexts, ChatStream.advance, ChatEvent.isError]
      omega
    | _ => simp [errorTexts, ChatStream.advance, ChatEvent.isError]
  · intro htyping
    cases rest with
    | cons e' rest =>
      exact ⟨stream.advance h, List.mem_append_right _ List.mem_cons_self, List.cons_ne_nil _ _⟩
    | nil =>
      obtain ⟨text, htext, hne⟩ := hs.exists_text hmem
      obtain rfl := stream.eq_typing_of_last htext hne h
      cases htyping

/-- **Every step that loses nothing keeps the invariant.** -/
theorem Unlost.step (hs : Unlost es s) (h : ConversationStep s e s') (he : e.Keeps) :
    Unlost (es ++ [e]) s' := by
  cases h with
  | connect => exact ⟨by simpa [sentTexts] using hs.asked, by simpa [errorTexts] using hs.errors,
      hs.typing⟩
  | disconnect => cases he
  | lose => cases he
  | commit => exact ⟨by simpa [sentTexts] using hs.asked, by simpa [errorTexts] using hs.errors,
      hs.typing⟩
  | send _ now text => exact hs.send now text
  | handle model hfresh => exact hs.handle _ _ model
  | deliver now hlost hpending => exact hs.deliver now hpending

/-- It holds while nothing is lost. -/
lemma unlost_of_run {connected : Bool} (h : Run ConversationStep (.initial rt connected) es s)
    (hkeeps : ∀ e ∈ es, e.Keeps) : Unlost es s := by
  refine h.induction_from (P := fun es s => (∀ e ∈ es, e.Keeps) → Unlost es s) ?_ ?_ hkeeps
  · intro _
    exact ⟨rfl, rfl, fun htyping => by cases htyping⟩
  · intro es a e b _ ih hstep hkeeps
    rw [List.forall_mem_append, List.forall_mem_singleton] at hkeeps
    exact (ih hkeeps.1).step hstep hkeeps.2

/-- Each reply of a conversation that is quiet is shown. -/
lemma Unlost.answered (hs : Unlost es s) (htraced : Traced es s) (hquiet : s.Quiet) :
    ConversationAnswered es s := by
  obtain ⟨houtbox, hpending⟩ := hquiet
  have hright := htraced.right
  constructor
  · simpa [houtbox] using hs.asked
  · intro stream hstream chunks full hanswer
    obtain ⟨text, htext, hne⟩ := hs.exists_text hstream
    rw [ChatStream.answer_of_text htext] at hanswer
    refine ⟨?_, hright.resolved stream hstream (hpending stream hstream) text chunks full htext hne
      hanswer⟩
    rw [stream.delivered_of_pending_eq_nil (hpending stream hstream),
      emitted_handleSocketChat_of_ok rt htext hne hanswer]
    simp
  · intro stream hstream chunks err hanswer
    obtain ⟨text, htext, hne⟩ := hs.exists_text hstream
    rw [ChatStream.answer_of_text htext] at hanswer
    exact hright.rejected stream hstream (hpending stream hstream) text chunks err htext hne hanswer
  · have hshown : s.client.messages.countP (·.error) = (errorTexts es).length := by
      rw [← htraced.errors, List.length_map, List.countP_eq_length_filter]
    rw [hshown, hs.errors]
    refine sum_map_eq_countP fun stream hstream => ?_
    obtain ⟨text, htext, hne⟩ := hs.exists_text hstream
    rw [stream.delivered_of_pending_eq_nil (hpending stream hstream)]
    exact countP_isError_emitted stream htext hne
  · by_contra htyping
    obtain ⟨stream, hstream, hne⟩ := hs.typing (Bool.eq_true_of_not_eq_false htyping)
    exact hne (hpending stream hstream)

/-! ## Progress -/

/-- How much is on its way: first what the server has not received, then the events. -/
def Conversation.backlog (s : Conversation rt) : ℕ ×ₗ ℕ :=
  toLex (s.outbox.length + if s.client.connected then 0 else 1,
    (s.streams.map (·.pending.length)).sum)

/-- There is always a name that no reply has. -/
lemma exists_fresh (streams : List (ChatStream rt)) (now : Time) :
    ∃ random, ∀ stream ∈ streams, stream.id ≠ replyId now random := by
  have hinj : Function.Injective (replyId now) := by
    intro r r' h
    exact (List.cons.inj (List.append_cancel_left h)).2
  obtain ⟨random, hrandom⟩ := Infinite.exists_notMem_finset
    ((streams.map (·.id)).toFinset.preimage (replyId now) hinj.injOn)
  refine ⟨random, fun stream hstream heq => hrandom ?_⟩
  rw [Finset.mem_preimage, List.mem_toFinset]
  exact List.mem_map.2 ⟨stream, hstream, heq⟩

/-- A step that brings the conversation closer to its end: the socket connects, or, while it is
connected, the server receives a message or an event arrives. The model is the one that the
deployment has. -/
inductive Settles (model : Option Assistant) :
    Conversation rt → ConversationEvent → Conversation rt → Prop
  | connect {s s' : Conversation rt} (hoff : s.client.connected = false)
      (h : ConversationStep s .connect s') : Settles model s .connect s'
  | handle {s s' : Conversation rt} {now : Time} {random : Text}
      (hon : s.client.connected = true)
      (h : ConversationStep s (.handle now random model) s') :
    Settles model s (.handle now random model) s'
  | deliver {s s' : Conversation rt} {now : Time} {id : Text} {e : ChatEvent}
      (hon : s.client.connected = true) (h : ConversationStep s (.deliver now id e) s') :
    Settles model s (.deliver now id e) s'

/-- While something is on its way, it can arrive. -/
lemma exists_settles (model : Option Assistant) (hs : ∀ stream ∈ s.streams, stream.lost = false)
    (hquiet : ¬s.Quiet) :
    ∃ e s', Settles model s e s' ∧ (∀ stream ∈ s'.streams, stream.lost = false) ∧
      s'.backlog < s.backlog := by
  simp only [Conversation.backlog, Prod.Lex.toLex_lt_toLex]
  cases hconnected : s.client.connected with
  | false =>
    refine ⟨_, _, .connect hconnected (.connect s), hs, .inl ?_⟩
    simp [ChatClient.onConnect]
  | true =>
    obtain ⟨c, outbox, streams⟩ := s
    cases outbox with
    | cons payload outbox =>
      obtain ⟨random, hfresh⟩ := exists_fresh streams 0
      refine ⟨_, _, .handle hconnected (.handle model hfresh), ?_, .inl ?_⟩
      · rw [List.forall_mem_append, List.forall_mem_singleton]
        exact ⟨hs, rfl⟩
      · simpa using hconnected
    | nil =>
      have hpending : ∃ stream ∈ streams, stream.pending ≠ [] := by
        simpa [Conversation.Quiet] using hquiet
      obtain ⟨stream, hstream, hne⟩ := hpending
      obtain ⟨pre, post, rfl⟩ := List.append_of_mem hstream
      obtain ⟨e, rest, hrest⟩ := List.exists_cons_of_ne_nil hne
      refine ⟨_, _, .deliver hconnected (.deliver 0 (hs stream hstream) hrest), ?_, ?_⟩
      · intro other hother
        rw [List.perm_middle.mem_iff, List.mem_cons] at hother
        rcases hother with rfl | hother
        · exact hs stream hstream
        · exact hs other (List.perm_middle.mem_iff.2 (List.mem_cons_of_mem _ hother))
      · have hsame : (c.receive 0 e).connected = c.connected := by cases e <;> rfl
        exact .inr ⟨by rw [hsame, hconnected], by simp [ChatStream.advance, hrest]⟩

/-- A run of such steps is one of the conversation, in which nothing is sent or lost. -/
lemma run_of_settles {model : Option Assistant} (h : Run (Settles model) s es s') :
    Run ConversationStep s es s' ∧ (∀ e ∈ es, e.Keeps) ∧ sentTexts es = [] := by
  induction h with
  | nil s => exact ⟨.nil s, List.forall_mem_nil _, rfl⟩
  | @cons a b c e es hstep _ ih =>
    have he : ConversationStep a e b ∧ e.Keeps ∧ sentTexts [e] = [] := by
      cases hstep with
      | connect _ h => exact ⟨h, trivial, rfl⟩
      | handle _ h => exact ⟨h, trivial, rfl⟩
      | deliver _ h => exact ⟨h, trivial, rfl⟩
    refine ⟨.cons he.1 ih.1, List.forall_mem_cons.2 ⟨he.2.1, ih.2.1⟩, ?_⟩
    rw [← List.singleton_append, sentTexts, List.filterMap_append]
    exact List.append_eq_nil_iff.2 ⟨he.2.2, ih.2.2⟩

/-- No reply is lost while nothing is. -/
lemma lost_of_run {connected : Bool} (h : Run ConversationStep (.initial rt connected) es s)
    (hkeeps : ∀ e ∈ es, e.Keeps) : ∀ stream ∈ s.streams, stream.lost = false := by
  refine @Run.invariant_of_forall _ _ _ (fun s => ∀ stream ∈ s.streams, stream.lost = false)
    ConversationEvent.Keeps ?_ _ _ _ h hkeeps (List.forall_mem_nil _)
  intro s e s' hs he hstep
  cases hstep with
  | connect => exact hs
  | disconnect => cases he
  | lose => cases he
  | commit => exact hs
  | send => exact hs
  | handle model hfresh =>
    rw [List.forall_mem_append, List.forall_mem_singleton]
    exact ⟨hs, rfl⟩
  | @deliver c outbox pre post stream e rest now hlost hpending =>
    intro other hother
    rw [List.perm_middle.mem_iff, List.mem_cons] at hother
    rcases hother with rfl | hother
    · exact hlost
    · exact hs other (List.perm_middle.mem_iff.2 (List.mem_cons_of_mem _ hother))

/-- **When nothing is on its way any more**, each message has been answered once. -/
theorem answered_of_run {connected : Bool}
    (h : Run ConversationStep (.initial rt connected) es s) (hkeeps : ∀ e ∈ es, e.Keeps)
    (hquiet : s.Quiet) : ConversationAnswered es s :=
  (unlost_of_run h hkeeps).answered (traced_of_run h) hquiet

/-- Two replies have arrived in turns. -/
theorem answered_turns : ∃ (es : List ConversationEvent) (s : Conversation .ascii),
    s.streams.map (·.id) = [replyId 2 "a".toList, replyId 2 "b".toList] ∧
      ConversationAnswered es s := by
  obtain ⟨es, s, hrun, hkeeps, hquiet, hids⟩ := exists_run_turns
  exact ⟨es, s, hids, answered_of_run hrun hkeeps hquiet⟩

/-- **Everything can be answered**: while nothing is lost, what is on its way can arrive over a
socket that is connected, whatever the model makes of it, and then each message has been answered
once. -/
theorem exists_run_answered {connected : Bool}
    (h : Run ConversationStep (.initial rt connected) es s) (hkeeps : ∀ e ∈ es, e.Keeps)
    (model : Option Assistant) :
    ∃ es' t, Run (Settles model) s es' t ∧ ConversationAnswered es t := by
  have hprogress : ∃ es' t, Run (Settles model) s es' t ∧
      (∀ stream ∈ t.streams, stream.lost = false) ∧ t.Quiet :=
    exists_run_of_progress (fun s hs hquiet => exists_settles model hs hquiet)
      (lost_of_run h hkeeps)
  obtain ⟨es', t, hsettles, -, hquiet⟩ := hprogress
  obtain ⟨hrun, hkeeps', hsent⟩ := run_of_settles hsettles
  have hall := h.append hrun
  have hanswered : ConversationAnswered (es ++ es') t :=
    (unlost_of_run hall (List.forall_mem_append.2 ⟨hkeeps, hkeeps'⟩)).answered
      (traced_of_run hall) hquiet
  have hsame : sentTexts (es ++ es') = sentTexts es := by
    rw [sentTexts, List.filterMap_append]
    exact (congrArg _ hsent).trans (List.append_nil _)
  exact ⟨es', t, hsettles, { hanswered with asked := hsame ▸ hanswered.asked }⟩

/-- A question that has been sent before the socket is connected can be answered, by a model whose
stream breaks off. -/
theorem exists_run_answered_question : ∃ (s : Conversation .ascii) (es : List ConversationEvent)
    (t : Conversation .ascii), s.outbox = [question] ∧ s.client.connected = false ∧
      Run (Settles (some interruptedModel)) s es t ∧
      ConversationAnswered [.send 1 "Why?".toList] t := by
  have hrun : Run ConversationStep (.initial .ascii false) [.send 1 "Why?".toList]
      ⟨⟨[userMessage 1 "Why?".toList], false, false, []⟩, [question], []⟩ :=
    .cons (.send _ _ _) (.nil _)
  obtain ⟨es, t, hrest, hanswered⟩ :=
    exists_run_answered hrun (List.forall_mem_singleton.2 trivial) (some interruptedModel)
  exact ⟨_, es, t, rfl, rfl, hrest, hanswered⟩

end WatchTower

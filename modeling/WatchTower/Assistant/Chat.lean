import Mathlib.Data.List.DropRight
import WatchTower.Runtime.Text
import WatchTower.Transition.Emitting

set_option relaxedAutoImplicit false
set_option autoImplicit false

/-!
# The chat with the assistant

`streamAssistantReply` of `services/ai.services.js` and the socket handler of
`sockets/chat.socket.js`. The reply is handed to the socket chunk by chunk. If the stream fails, the
whole reply is asked for again and handed over in one piece, after the chunks that the client has
seen already.

## Main definitions

* `WatchTower.Assistant` — the language model: the stream and the single call, and their failures.
* `WatchTower.streamAssistantReply`, `WatchTower.handleSocketChat`.
* `WatchTower.RecoversUnseen` — no text has been streamed before a failure that is recovered from.

## Main results

* `WatchTower.deliversFrom_streamChunks` — the loop over the stream returns what it hands over.
* `WatchTower.exists_of_reply_mem` — the message of `chat:reply` is what has been handed over.
* `WatchTower.streamedReply_iff` — it is the reply exactly when recoveries are unseen.
-/

namespace WatchTower

open Transition Transition.Emitting

/-! ## The assistant -/

/-- `content` of a chunk or an answer of the model: a string, or an array of content blocks. -/
inductive ModelContent
  | str (text : Text)
  | blocks

/-- `typeof content === 'string' ? content : ''`. -/
def ModelContent.text : ModelContent → Text
  | .str text => text
  | .blocks => []

/-- `SystemMessage`, `HumanMessage` and `AIMessage`. -/
inductive ChatMessage
  | system (content : Text)
  | human (content : Text)
  | ai (content : Text)
  deriving DecidableEq

/-- What `model.stream` comes to: the chunks, and then the failure, if there is one. A call that
rejects has no chunks. -/
structure ModelStream where
  /-- The chunks that the loop receives. -/
  chunks : List ModelContent
  /-- The error that ends the stream. -/
  failure : Option JsError

/-- The language model. -/
structure Assistant where
  /-- `model.stream(messages)`. -/
  stream : List ChatMessage → ModelStream
  /-- `model.invoke(messages)`. -/
  invoke : List ChatMessage → Except JsError ModelContent

/-- An entry of the history that the client sends. One that is no object has neither field. -/
structure HistoryEntry where
  /-- `h?.role`. -/
  role : Js
  /-- `h?.content`. -/
  content : Js

/-- `String(value || '').trim()`. -/
def TextRuntime.trimmed (rt : TextRuntime) (value : Js) : Except JsError Text :=
  (rt.string (if value.truthy then value else .str "")).map trim

/-- `assistantSystemPrompt`. -/
def assistantSystemPrompt : Text :=
  ("You are WatchTower's AI assistant — a friendly, sharp Site Reliability Engineer.\n\n" ++
    "You help users understand uptime monitoring, interpret incidents and logs, and debug " ++
    "DevOps issues (HTTP errors, timeouts, DNS, TLS, deploys, databases, etc.).\n\n" ++
    "Rules:\n" ++
    "- Be concise and practical. Prefer short paragraphs and tight bullet lists.\n" ++
    "- Plain text only — no markdown code fences or JSON.\n" ++
    "- If asked something unrelated to reliability/monitoring/devops, answer briefly and steer " ++
    "back.\n" ++
    "- Never invent specific metrics you weren't given.").toList

variable (rt : TextRuntime)

/-- The message of a history entry, unless it is blank. -/
def HistoryEntry.message (h : HistoryEntry) : Except JsError (Option ChatMessage) := do
  let content ← rt.trimmed h.content
  if content = [] then return none
  else if h.role = .str "assistant" then return some (.ai content)
  else return some (.human content)

/-- The conversation that the model is asked to continue. -/
def assistantMessages (message : Text) (history : List HistoryEntry) :
    Except JsError (List ChatMessage) := do
  let asked ← history.mapM (·.message rt)
  return .system assistantSystemPrompt :: asked.reduceOption ++ [.human message]

/-- The text without a configured model. -/
def assistantUnavailable : Text :=
  ("The AI assistant is not configured on this deployment. Monitoring, incidents and alerting " ++
    "are unaffected.").toList

/-- The loop over the stream. -/
def streamChunks (full : Text) : List ModelContent → Option JsError → Emitting Text JsError Text
  | [], none => return full
  | [], some err => throw err
  | chunk :: chunks, failure =>
    if chunk.text = [] then streamChunks full chunks failure
    else emit chunk.text >>= fun _ => streamChunks (full ++ chunk.text) chunks failure

/-- The single call that a failed stream falls back to. -/
def invokeInstead (model : Assistant) (messages : List ChatMessage) :
    Emitting Text JsError Text := do
  let res ← MonadExcept.ofExcept (model.invoke messages)
  emitIf (res.text ≠ []) res.text
  return res.text

/-- The reply to a conversation. -/
def replyTo (getMistralModel : Option Assistant) (messages : List ChatMessage) :
    Emitting Text JsError Text :=
  match getMistralModel with
  | none => do
    emit assistantUnavailable
    return assistantUnavailable
  | some model =>
    tryCatch (streamChunks [] (model.stream messages).chunks (model.stream messages).failure)
      fun _ => invokeInstead model messages

/-- Stream a reply; the items are the arguments of `onChunk`. -/
def streamAssistantReply (getMistralModel : Option Assistant) (message : Text)
    (history : List HistoryEntry) : Emitting Text JsError Text :=
  match assistantMessages rt message history with
  | .error err => throw err
  | .ok messages => replyTo getMistralModel messages

/-! ## The socket -/

/-- What the handler emits, and the acknowledgement it gives. -/
inductive ChatEvent
  /-- `chat:typing`. -/
  | typing (isTyping : Bool)
  /-- `chat:chunk`. -/
  | chunk (id chunk : Text)
  /-- `chat:reply`. -/
  | reply (id message : Text)
  /-- `chat:error`. -/
  | error (text : String)
  /-- `ack({ ok: true, id })`. -/
  | acknowledged (id : Text)
  /-- `ack({ ok: false, error })`. -/
  | refused (error : String)

/-- The payload of `chat:message`. One that is no object has neither field. -/
structure ChatPayload where
  /-- `payload?.message`. -/
  message : Js
  /-- `payload?.history`, if it is an array. -/
  history : Option (List HistoryEntry)

/-- The text that is asked. -/
def ChatPayload.text (payload : ChatPayload) : Except JsError Text := rt.trimmed payload.message

/-- The last ten entries of the history. -/
def ChatPayload.recent (payload : ChatPayload) : List HistoryEntry :=
  (payload.history.getD []).rtake 10

/-- Handle one `chat:message` with a text; `acks` says that the client asks for an acknowledgement,
and `id` is the name of the reply. -/
def answerChat (getMistralModel : Option Assistant) (id : Text) (acks : Bool) (text : Text)
    (history : List HistoryEntry) : Emitting ChatEvent JsError Unit :=
  if text = [] then emitIf (acks = true) (.refused "Empty message")
  else do
    emit (.typing true)
    tryCatch
      (do
        let full ← observe (.chunk id)
          (gathered (streamAssistantReply rt getMistralModel text history))
        emit (.reply id full)
        emitIf (acks = true) (.acknowledged id))
      (fun _ => do
        emit (.error "The assistant is unavailable right now.")
        emitIf (acks = true) (.refused "AI error"))
    emit (.typing false)

/-- Handle one `chat:message`. -/
def handleSocketChat (getMistralModel : Option Assistant) (id : Text) (acks : Bool)
    (payload : ChatPayload) : Emitting ChatEvent JsError Unit :=
  match payload.text rt with
  | .error err => throw err
  | .ok text => answerChat rt getMistralModel id acks text payload.recent

/-! ## The reply -/

/-- **The loop returns what it hands over**, after what it had. -/
lemma deliversFrom_streamChunks (full : Text) (chunks : List ModelContent)
    (failure : Option JsError) : DeliversFrom full (streamChunks full chunks failure) := by
  induction chunks generalizing full with
  | nil =>
    cases failure with
    | none => exact deliversFrom_pure
    | some err => exact deliversFrom_throw err
  | cons chunk chunks ih =>
    rw [streamChunks]
    split_ifs with htext
    · exact ih full
    · exact (ih (full ++ chunk.text)).emit_bind

/-- The loop throws the error that ends the stream. -/
lemma result_streamChunks_eq_error {full : Text} {chunks : List ModelContent}
    {failure : Option JsError} {err : JsError} :
    (streamChunks full chunks failure).result = .error err ↔ failure = some err := by
  induction chunks generalizing full with
  | nil => cases failure <;> simp [streamChunks, pure_def, throw_def]
  | cons chunk chunks ih =>
    rw [streamChunks]
    split_ifs with htext
    · exact ih
    · rw [bind_of_ok (a := ()) rfl]
      exact ih

/-- The loop has handed over no text exactly when there is none in the chunks. -/
lemma flatten_streamChunks_eq_nil {full : Text} {chunks : List ModelContent}
    {failure : Option JsError} :
    (streamChunks full chunks failure).emitted.flatten = [] ↔
      ∀ chunk ∈ chunks, chunk.text = [] := by
  induction chunks generalizing full with
  | nil => cases failure <;> simp [streamChunks, pure_def, throw_def]
  | cons chunk chunks ih =>
    rw [streamChunks, List.forall_mem_cons]
    split_ifs with htext
    · exact ih.trans (and_iff_right htext).symm
    · rw [bind_of_ok (a := ()) rfl]
      refine iff_of_false (fun h => htext ?_) fun h => htext h.1
      exact (List.append_eq_nil_iff.1 h).1

/-- An answer to the single call is handed over in one piece, unless it is empty. -/
lemma invokeInstead_of_ok {model : Assistant} {messages : List ChatMessage} {res : ModelContent}
    (h : model.invoke messages = .ok res) :
    invokeInstead model messages =
      ⟨if res.text = [] then [] else [res.text], .ok res.text⟩ := by
  rw [invokeInstead, h, ← ite_not]
  exact congrArg (Emitting.mk · (Except.ok res.text)) (List.append_nil _)

/-- A single call that rejects hands over nothing. -/
lemma invokeInstead_of_error {model : Assistant} {messages : List ChatMessage} {err : JsError}
    (h : model.invoke messages = .error err) : invokeInstead model messages = ⟨[], .error err⟩ := by
  rw [invokeInstead, h]
  rfl

/-- The single call hands over what it returns. -/
lemma delivers_invokeInstead (model : Assistant) (messages : List ChatMessage) :
    Delivers (invokeInstead model messages) := by
  cases hinvoke : model.invoke messages with
  | error err =>
    rw [invokeInstead_of_error hinvoke]
    exact deliversFrom_throw err
  | ok res =>
    rw [invokeInstead_of_ok hinvoke]
    rintro full ⟨⟩
    split_ifs with htext
    · exact htext.symm
    · exact List.append_nil _

/-- It rejects if the model does. -/
lemma result_invokeInstead_eq_error {model : Assistant} {messages : List ChatMessage}
    {err : JsError} :
    (invokeInstead model messages).result = .error err ↔ model.invoke messages = .error err := by
  cases hinvoke : model.invoke messages with
  | error err' =>
    rw [invokeInstead_of_error hinvoke]
    simp only [Except.error.injEq]
  | ok res =>
    rw [invokeInstead_of_ok hinvoke]
    simp only [reduceCtorEq]

/-- No text has been streamed before a failure that is recovered from. -/
def RecoversUnseen (getMistralModel : Option Assistant) (messages : List ChatMessage) : Prop :=
  ∀ model err, getMistralModel = some model → (model.stream messages).failure = some err →
    (∀ chunk ∈ (model.stream messages).chunks, chunk.text = []) ∨
      ∃ err', model.invoke messages = .error err'

/-- What is handed over is the reply exactly when recoveries are unseen. -/
lemma delivers_streamAssistantReply {getMistralModel : Option Assistant} {message : Text}
    {history : List HistoryEntry} :
    Delivers (streamAssistantReply rt getMistralModel message history) ↔
      ∀ messages, assistantMessages rt message history = .ok messages →
        RecoversUnseen getMistralModel messages := by
  cases hmessages : assistantMessages rt message history with
  | error err =>
    rw [streamAssistantReply, hmessages]
    exact iff_of_true (deliversFrom_throw err) fun messages h => by cases h
  | ok messages =>
    rw [streamAssistantReply, hmessages]
    simp only [Except.ok.injEq, forall_eq']
    cases getMistralModel with
    | none =>
      refine iff_of_true ?_ fun model err h => by cases h
      rintro full ⟨⟩
      exact List.append_nil _
    | some model =>
      rw [replyTo, delivers_tryCatch_iff (deliversFrom_streamChunks [] _ _)
        fun _ => delivers_invokeInstead model _]
      simp only [result_streamChunks_eq_error, flatten_streamChunks_eq_nil,
        result_invokeInstead_eq_error]
      constructor
      · rintro h _ err ⟨⟩ herr
        exact h err herr
      · exact fun h err herr => h model err rfl herr

section Handler

variable {getMistralModel : Option Assistant} {payload : ChatPayload} {message : Text}
  {chunks : List Text}

/-- What the handler emits when the reply resolves. -/
lemma emitted_handleSocketChat_of_ok (htext : payload.text rt = .ok message) (hne : message ≠ [])
    {full : Text} (h : streamAssistantReply rt getMistralModel message payload.recent =
      ⟨chunks, .ok full⟩) (id : Text) (acks : Bool) :
    (handleSocketChat rt getMistralModel id acks payload).emitted =
      .typing true :: (chunks.map (.chunk id) ++ (.reply id chunks.flatten ::
        if acks = true then [.acknowledged id] else [])) ++ [.typing false] := by
  rw [handleSocketChat, htext]
  dsimp only
  rw [answerChat, if_neg hne, h]
  rfl

/-- What the handler emits when it rejects. -/
lemma emitted_handleSocketChat_of_error (htext : payload.text rt = .ok message)
    (hne : message ≠ []) {err : JsError}
    (h : streamAssistantReply rt getMistralModel message payload.recent =
      ⟨chunks, .error err⟩) (id : Text) (acks : Bool) :
    (handleSocketChat rt getMistralModel id acks payload).emitted =
      .typing true :: (chunks.map (.chunk id) ++
        (.error "The assistant is unavailable right now." ::
          if acks = true then [.refused "AI error"] else [])) ++ [.typing false] := by
  rw [handleSocketChat, htext]
  dsimp only
  rw [answerChat, if_neg hne, h]
  rfl

/-- What it emits when there is no text. -/
lemma emitted_handleSocketChat_of_empty
    (htext : ∀ message, payload.text rt = .ok message → message = []) (id : Text) (acks : Bool) :
    ∀ e ∈ (handleSocketChat rt getMistralModel id acks payload).emitted,
      acks = true ∧ e = .refused "Empty message" := by
  intro e he
  rw [handleSocketChat] at he
  cases hpayload : payload.text rt with
  | error err => simp [hpayload, throw_def] at he
  | ok message =>
    rw [hpayload] at he
    dsimp only at he
    rw [answerChat, if_pos (htext message hpayload), emitIf] at he
    split_ifs at he with hacks
    · exact ⟨hacks, List.mem_singleton.1 he⟩
    · cases he

/-- **The message of `chat:reply`** is what has been handed over, of a reply that has resolved. -/
lemma exists_of_reply_mem {id id' reply : Text} {acks : Bool}
    (h : .reply id' reply ∈ (handleSocketChat rt getMistralModel id acks payload).emitted) :
    ∃ message full chunks, payload.text rt = .ok message ∧
      streamAssistantReply rt getMistralModel message payload.recent = ⟨chunks, .ok full⟩ ∧
        id' = id ∧ reply = chunks.flatten := by
  by_cases hasked : ∀ message, payload.text rt = .ok message → message = []
  · cases (emitted_handleSocketChat_of_empty rt hasked id acks _ h).2
  simp only [not_forall] at hasked
  obtain ⟨message, htext, hne⟩ := hasked
  cases hreply : streamAssistantReply rt getMistralModel message payload.recent with
  | mk chunks result =>
    cases result with
    | error err =>
      rw [emitted_handleSocketChat_of_error rt htext hne hreply] at h
      split_ifs at h <;> simp at h
    | ok full =>
      rw [emitted_handleSocketChat_of_ok rt htext hne hreply] at h
      refine ⟨message, full, chunks, htext, hreply, ?_⟩
      split_ifs at h <;> simpa using h

end Handler

/-- What the chat promises of a reply: it is what `onChunk` has been called with, put together, and
it is the message of `chat:reply`. -/
structure StreamedReply (getMistralModel : Option Assistant) (message : Text)
    (history : List HistoryEntry) : Prop where
  delivers : Delivers (streamAssistantReply rt getMistralModel message history)
  replies : ∀ id acks payload, payload.text rt = .ok message → payload.recent = history →
    ∀ id' reply, .reply id' reply ∈ (handleSocketChat rt getMistralModel id acks payload).emitted →
      (streamAssistantReply rt getMistralModel message history).result = .ok reply

/-- **The streamed reply is the final one** exactly when the model is not configured, or its stream
does not fail after some text, or the call that it falls back to fails too. -/
theorem streamedReply_iff (getMistralModel : Option Assistant) (message : Text)
    (history : List HistoryEntry) :
    StreamedReply rt getMistralModel message history ↔
      ∀ messages, assistantMessages rt message history = .ok messages →
        RecoversUnseen getMistralModel messages := by
  rw [← delivers_streamAssistantReply]
  refine ⟨fun h => h.delivers, fun h => ⟨h, ?_⟩⟩
  rintro id acks payload htext rfl id' reply hreply
  obtain ⟨message', full, chunks, htext', hresolved, -, rfl⟩ := exists_of_reply_mem rt hreply
  obtain rfl := Except.ok.inj (htext.symm.trans htext')
  rw [hresolved] at h ⊢
  exact congrArg Except.ok (h full rfl).symm

/-- A stream that breaks off, and the call after it. -/
def interruptedModel : Assistant where
  stream _ := ⟨[.str "Check ".toList, .blocks, .str "the".toList], some ⟨"socket hang up", none⟩⟩
  invoke _ := .ok (.str "Check the logs.".toList)

/-- The text before the break is there twice. -/
theorem interruptedModel_not_streamedReply :
    ¬StreamedReply TextRuntime.ascii (some interruptedModel) "Why is it down?".toList [] := by
  intro h
  have hdelivers := h.delivers "Check the logs.".toList (by decide)
  revert hdelivers
  decide

end WatchTower

import WatchTower.Probe.Node
import WatchTower.Transition.Run

set_option relaxedAutoImplicit false
set_option autoImplicit false

/-!
# One probe as an event-driven machine

`probeOnce` of `services/monitor.service.js`. Its executor sets the deadline timer and issues the
first request; everything else happens in callbacks, one for each event of a request, a
response, a socket or the timer. A callback runs to completion; what it throws is thrown out of
the event loop. The events of all hops come in any order, and also after the probe has settled.

Times are readings of the monotonic clock in nanoseconds.

## Main definitions

* `WatchTower.Hop`, `WatchTower.Promise`, `WatchTower.Probe` — the state.
* `WatchTower.Probe.finish`, `WatchTower.Probe.fail`, `WatchTower.Probe.request`,
  `WatchTower.Probe.settleWithStatus`, `WatchTower.Probe.onResponse` — the functions of the
  source.
* `WatchTower.probeOnce` — the executor.
* `WatchTower.ProbeEvent`, `WatchTower.Probe.handle`, `WatchTower.ProbeStep` — the callbacks.
-/

namespace WatchTower

/-- `MAX_BODY_BYTES`. -/
def maxBodyBytes : ℕ := 512 * 1024

/-- The arguments of `probeOnce`, with the Node it runs on. -/
structure ProbeEnv where
  /-- The runtime. -/
  node : Node
  /-- `rawUrl`. -/
  rawUrl : String
  /-- `timeoutMs`. -/
  timeoutMs : ℚ
  /-- `ignoreTlsErrors`. -/
  ignoreTlsErrors : Bool
  /-- `maxRedirects`. -/
  maxRedirects : ℕ
  /-- `headers`. -/
  headers : Headers

/-- `RETRYABLE_CODES`. -/
def retryableCodes : List String :=
  ["ECONNRESET", "ECONNREFUSED", "ECONNABORTED", "ETIMEDOUT", "EAI_AGAIN", "EPIPE",
    "EHOSTUNREACH", "ENETUNREACH", "ENETRESET", "ESOCKETTIMEDOUT", "ERR_CHECK_TIMEOUT"]

/-- Whether a response itself signals overload or failure. -/
def isRetryableStatus (statusCode : ℕ) : Bool :=
  statusCode = 408 || statusCode = 429 || 500 ≤ statusCode

/-- `originOf`: the origin of a URL, nothing when it does not parse. -/
def Node.originOf (node : Node) (url : String) : Option String := (node.parse url).map (·.origin)

/-- The argument of `finish`. -/
structure Verdict where
  /-- UP or DOWN. -/
  status : Status
  /-- The status code it was graded by. -/
  statusCode : Option ℕ
  /-- The reason of a DOWN. -/
  error : Option String
  /-- Its code. -/
  errorCode : Option String
  /-- Whether another attempt may come out differently. -/
  retryable : Bool
  deriving DecidableEq

/-- The object passed to `resolve`, without the `timings` object it shares with the probe. -/
structure Settlement where
  /-- The verdict. -/
  verdict : Verdict
  /-- Redirects followed when it settled. -/
  redirects : ℕ
  /-- `timings.total` when it settled. -/
  responseTime : ℕ
  deriving DecidableEq

/-- The promise of a probe. -/
inductive Promise
  | pending
  | resolved (settlement : Settlement)
  | rejected (err : JsError)
  deriving DecidableEq

/-- What is kept of a socket: its hop-local marks, `none` before the event. -/
structure SocketMarks where
  /-- Whether the phase listeners were attached. -/
  connecting : Bool
  /-- `hopDns`. -/
  hopDns : Option ℕ
  /-- `hopTcp`. -/
  hopTcp : Option ℕ
  /-- Whether `secureConnect` has been seen. -/
  secure : Bool
  deriving DecidableEq

/-- One request of a chain. -/
structure Hop where
  /-- `targetUrl`. -/
  url : String
  /-- The headers it was sent with. -/
  headers : Headers
  /-- `hopStart`. -/
  hopStart : ℕ
  /-- The status code, once a response has arrived. -/
  response : Option ℕ
  /-- Whether the listeners on the body were attached. -/
  listening : Bool
  /-- Bytes of the body seen by the listener. -/
  bytes : ℕ
  /-- Whether the response was destroyed for its size. -/
  bodyDestroyed : Bool
  /-- The socket, once assigned. -/
  socket : Option SocketMarks
  /-- Whether the request was destroyed by `finish`. -/
  destroyed : Bool
  deriving DecidableEq

/-- The variables of one call of `probeOnce`. -/
structure Probe where
  /-- `started`. -/
  started : ℕ
  /-- `initialOrigin`. -/
  initialOrigin : Option String
  /-- `timings`. -/
  timings : Timings
  /-- `redirects`. -/
  redirects : ℕ
  /-- `settled`. -/
  settled : Bool
  /-- The requests issued, in order. -/
  hops : List Hop
  /-- `currentReq`, as an index of `hops`. -/
  currentReq : Option ℕ
  /-- Whether the deadline timer is pending. -/
  deadline : Bool
  /-- The promise. -/
  promise : Promise
  /-- How often `resolve` was called. -/
  resolveCalls : ℕ
  /-- An exception thrown by a callback. -/
  escaped : Option JsError

/-- `msSince`. -/
def msSince (t start : ℕ) : ℕ := (t - start) / 1000000

namespace Probe

/-- Change one hop. -/
def setHop (s : Probe) (h : ℕ) (f : Hop → Hop) : Probe := { s with hops := s.hops.modify h f }

/-- `resolve(…)`: only the first settlement of a promise counts. -/
def resolve (s : Probe) (settlement : Settlement) : Probe :=
  { s with
    resolveCalls := s.resolveCalls + 1
    promise := match s.promise with
      | .pending => .resolved settlement
      | p => p }

/-- `currentReq?.destroy()`. -/
def destroyCurrent (s : Probe) : Probe :=
  match s.currentReq with
  | some h => s.setHop h fun hop => { hop with destroyed := true }
  | none => s

/-- Settle the probe, unless it is settled. -/
def finish (s : Probe) (t : ℕ) (verdict : Verdict) : Probe :=
  if s.settled then s
  else
    let total := msSince t s.started
    let s := { s with
      settled := true
      deadline := false
      timings := { s.timings with total := some total } }
    (s.resolve ⟨verdict, s.redirects, total⟩).destroyCurrent

/-- The verdict of a passed deadline. -/
def deadlineVerdict (env : ProbeEnv) : Verdict where
  status := .down
  statusCode := none
  error := some ("Check exceeded " ++ env.node.numberToString env.timeoutMs ++ "ms deadline")
  errorCode := some "ERR_CHECK_TIMEOUT"
  retryable := true

/-- Settle with a transport error. -/
def fail (s : Probe) (t : ℕ) (err : NodeError) : Probe :=
  s.finish t
    { status := .down
      statusCode := none
      error := some (orText err.message "Request failed")
      errorCode := some (orText err.code "ERR_UNKNOWN")
      retryable := err.code.any (retryableCodes.contains ·) }

/-- The headers of a request: the caller's only on the origin the monitor was configured with. -/
def outboundHeaders (env : ProbeEnv) (s : Probe) (targetUrl : String) : Headers :=
  spreadHeaders defaultHeaders
    (if env.node.originOf targetUrl = s.initialOrigin then env.headers else [])

/-- A request just issued. -/
def newHop (url : String) (headers : Headers) (t : ℕ) : Hop where
  url := url
  headers := headers
  hopStart := t
  response := none
  listening := false
  bytes := 0
  bodyDestroyed := false
  socket := none
  destroyed := false

/-- Issue a request, or settle if its URL cannot be requested. Throws what `http(s).request` or
`req.end()` throws; a request that `end()` refuses is never sent, and is dropped here. -/
def request (env : ProbeEnv) (s : Probe) (t : ℕ) (targetUrl : String) : Except JsError Probe :=
  match env.node.parse targetUrl with
  | none => .ok (s.finish t
      { status := .down
        statusCode := none
        error := some ("Invalid URL: " ++ targetUrl)
        errorCode := some "ERR_INVALID_URL"
        retryable := false })
  | some parsed =>
    if parsed.protocol ≠ "https:" ∧ parsed.protocol ≠ "http:" then .ok (s.finish t
      { status := .down
        statusCode := none
        error := some ("Unsupported protocol: " ++ parsed.protocol)
        errorCode := some "ERR_UNSUPPORTED_PROTOCOL"
        retryable := false })
    else
      let headers := outboundHeaders env s targetUrl
      match env.node.requestThrows targetUrl headers with
      | some err => .error err
      | none =>
        match env.node.endThrows targetUrl headers with
        | some err => .error err
        | none => .ok { s with
            hops := s.hops ++ [newHop targetUrl headers t]
            currentReq := some s.hops.length }

/-- Settle by the status code of a response. -/
def settleWithStatus (s : Probe) (t : ℕ) (statusCode : ℕ) : Probe :=
  let up := 200 ≤ statusCode ∧ statusCode < 400
  s.finish t
    { status := if up then .up else .down
      statusCode := some statusCode
      error := if up then none else some ("HTTP " ++ toString statusCode)
      errorCode := if up then none else some ("HTTP_" ++ toString statusCode)
      retryable := if up then false else isRetryableStatus statusCode }

/-- An exception leaves a callback. -/
def throw (s : Probe) (err : JsError) : Probe := { s with escaped := some err }

/-- The `Location` a response is followed to, when it is: a nonempty one, on a status from `300`
to `399`, while redirects are left. -/
def followed (env : ProbeEnv) (s : Probe) (statusCode : ℕ) (location : Option String) :
    Option String :=
  location.filter fun l =>
    l ≠ "" ∧ 300 ≤ statusCode ∧ statusCode < 400 ∧ s.redirects < env.maxRedirects

/-- The first byte of a response has arrived. -/
def sawResponse (s : Probe) (t : ℕ) (h : ℕ) (statusCode : ℕ) : Probe :=
  ({ s with timings := { s.timings with ttfb := some (msSince t s.started) } }).setHop h
    fun hop => { hop with response := some statusCode }

/-- Follow a redirect: `request(new URL(location, targetUrl).toString())`, inside the response
callback. -/
def follow (env : ProbeEnv) (s : Probe) (t : ℕ) (targetUrl location : String) : Probe :=
  let s := { s with redirects := s.redirects + 1 }
  match env.node.resolve location targetUrl with
  | .error err => s.throw err
  | .ok next =>
    match s.request env t next with
    | .error err => s.throw err
    | .ok s => s

/-- The response callback of a hop. -/
def onResponse (env : ProbeEnv) (s : Probe) (t : ℕ) (h : ℕ) (hop : Hop) (statusCode : ℕ)
    (location : Option String) : Probe :=
  let s := s.sawResponse t h statusCode
  match s.followed env statusCode location with
  | some l => s.follow env t hop.url l
  | none =>
    if location.any (· ≠ "") ∧ env.maxRedirects ≤ s.redirects then
      s.finish t
        { status := .down
          statusCode := some statusCode
          error := some ("Exceeded " ++ toString env.maxRedirects ++ " redirects")
          errorCode := some "ERR_TOO_MANY_REDIRECTS"
          retryable := false }
    else s.setHop h fun hop => { hop with listening := true }

/-- A chunk of a body with a listener. -/
def onData (s : Probe) (h : ℕ) (length : ℕ) : Probe :=
  s.setHop h fun hop =>
    { hop with
      bytes := hop.bytes + length
      bodyDestroyed := hop.bodyDestroyed || maxBodyBytes < hop.bytes + length }

end Probe

/-! ## Events -/

/-- The events of a probe, those of a hop with its index. -/
inductive ProbeEvent
  /-- The deadline timer fires. -/
  | deadline
  /-- A response arrives, with its status code and `Location`. -/
  | response (h : ℕ) (statusCode : ℕ) (location : Option String)
  /-- A chunk of the body. -/
  | data (h : ℕ) (length : ℕ)
  /-- The body fails. -/
  | bodyError (h : ℕ)
  /-- The body ends. -/
  | bodyEnd (h : ℕ)
  /-- The body closes. -/
  | bodyClose (h : ℕ)
  /-- A socket is assigned to the request. -/
  | socket (h : ℕ) (connecting : Bool)
  /-- The socket fails. -/
  | socketError (h : ℕ) (err : NodeError)
  /-- The host name is resolved. -/
  | lookup (h : ℕ)
  /-- The connection stands. -/
  | connect (h : ℕ)
  /-- The TLS handshake is complete. -/
  | secureConnect (h : ℕ)
  /-- The request fails. -/
  | requestError (h : ℕ) (err : NodeError)

namespace Probe

/-- Change the marks of a hop's socket. -/
def setSocket (s : Probe) (h : ℕ) (marks : SocketMarks) : Probe :=
  s.setHop h fun hop => { hop with socket := some marks }

/-- `'lookup'`. -/
def onLookup (s : Probe) (t : ℕ) (h : ℕ) (hop : Hop) (k : SocketMarks) : Probe :=
  let hopDns := msSince t hop.hopStart
  ({ s with timings := { s.timings with dns := some (s.timings.dns.getD 0 + hopDns) } }).setSocket
    h { k with hopDns := some hopDns }

/-- `'connect'`. -/
def onConnect (s : Probe) (t : ℕ) (h : ℕ) (hop : Hop) (k : SocketMarks) : Probe :=
  let hopTcp := msSince t hop.hopStart - k.hopDns.getD 0
  ({ s with timings := { s.timings with tcp := some (s.timings.tcp.getD 0 + hopTcp) } }).setSocket
    h { k with hopTcp := some hopTcp }

/-- `'secureConnect'`. -/
def onSecureConnect (s : Probe) (t : ℕ) (h : ℕ) (hop : Hop) (k : SocketMarks) : Probe :=
  let hopTls := msSince t hop.hopStart - k.hopDns.getD 0 - k.hopTcp.getD 0
  ({ s with timings := { s.timings with tls := some (s.timings.tls.getD 0 + hopTls) } }).setSocket
    h { k with secure := true }

/-- A phase listener, attached once and only to a connecting socket. -/
def onPhase (s : Probe) (h : ℕ) (seen : SocketMarks → Bool)
    (f : Hop → SocketMarks → Probe) : Probe :=
  match s.hops[h]? with
  | none => s
  | some hop =>
    match hop.socket with
    | none => s
    | some k => if k.connecting && !seen k then f hop k else s

/-- A listener on the body of a hop, if the hop has a response and listeners on it. -/
def onBody (s : Probe) (h : ℕ) (f : ℕ → Probe) : Probe :=
  match s.hops[h]? with
  | none => s
  | some hop =>
    match hop.response with
    | none => s
    | some statusCode => if hop.listening then f statusCode else s

/-- The callback of an event at time `t`. An event that nothing listens to does nothing. -/
def handle (env : ProbeEnv) (s : Probe) (t : ℕ) : ProbeEvent → Probe
  | .deadline => if s.deadline then s.finish t (deadlineVerdict env) else s
  | .response h statusCode location =>
    match s.hops[h]? with
    | none => s
    | some hop =>
      -- The callback is registered once.
      if hop.response.isSome then s else s.onResponse env t h hop statusCode location
  | .data h length => s.onBody h fun _ => s.onData h length
  | .bodyError h | .bodyEnd h | .bodyClose h => s.onBody h (s.settleWithStatus t)
  | .socket h connecting =>
    match s.hops[h]? with
    | none => s
    | some hop => if hop.socket.isSome then s else s.setSocket h ⟨connecting, none, none, false⟩
  | .socketError h err =>
    match s.hops[h]? with
    | none => s
    | some hop => if hop.socket.isSome then s.fail t err else s
  | .lookup h => s.onPhase h (·.hopDns.isSome) (s.onLookup t h)
  | .connect h => s.onPhase h (·.hopTcp.isSome) (s.onConnect t h)
  | .secureConnect h => s.onPhase h (·.secure) (s.onSecureConnect t h)
  | .requestError h err =>
    match s.hops[h]? with
    | none => s
    | some _ => s.fail t err

/-- A probe at the moment its deadline timer has been set. -/
def fresh (env : ProbeEnv) (t : ℕ) : Probe where
  started := t
  initialOrigin := env.node.originOf env.rawUrl
  timings := {}
  redirects := 0
  settled := false
  hops := []
  currentReq := none
  deadline := true
  promise := .pending
  resolveCalls := 0
  escaped := none

/-- The result the promise resolved with, as it reads now: its timings are the probe's own. -/
def result (s : Probe) : Option ProbeResult :=
  match s.promise with
  | .resolved r => some
      { status := r.verdict.status
        statusCode := r.verdict.statusCode
        error := r.verdict.error
        errorCode := r.verdict.errorCode
        retryable := r.verdict.retryable
        redirects := r.redirects
        responseTime := r.responseTime
        timings := s.timings }
  | _ => none

end Probe

/-- The executor of `probeOnce`: what it throws rejects the promise. -/
def probeOnce (env : ProbeEnv) (t : ℕ) : Probe :=
  match (Probe.fresh env t).request env t env.rawUrl with
  | .ok s => s
  | .error err => { Probe.fresh env t with promise := .rejected err }

/-- An event with the time it happens at. -/
abbrev TimedEvent := ℕ × ProbeEvent

/-- The process handles events until an exception escapes from a callback. -/
def ProbeStep (env : ProbeEnv) (s : Probe) (e : TimedEvent) (s' : Probe) : Prop :=
  s.escaped = none ∧ s' = s.handle env e.1 e.2

end WatchTower

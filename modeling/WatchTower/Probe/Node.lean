import WatchTower.Probe.Result

set_option relaxedAutoImplicit false
set_option autoImplicit false

/-!
# What a probe uses of Node

The URL parser, `http(s).request` and the `end()` of a request. They are parameters: which strings
parse, what a reference resolves to, and which requests are refused by throwing.

## Main definitions

* `WatchTower.Url`, `WatchTower.Node` — the parameters.
* `WatchTower.Node.Takes` — the requests that are not refused.
* `WatchTower.NodeError` — the error of an `'error'` event.
* `WatchTower.defaultHeaders`, `WatchTower.spreadHeaders` — the headers of a request.
-/

namespace WatchTower

/-- The parts of a parsed URL that the probe reads. -/
structure Url where
  /-- `url.protocol`, with its colon. -/
  protocol : String
  /-- `url.origin`. -/
  origin : String
  deriving DecidableEq

/-- The functions of Node that a probe calls and that may throw. -/
structure Node where
  /-- `new URL(text)`, nothing when it throws. -/
  parse : String → Option Url
  /-- `new URL(reference, base).toString()`, or the error it throws. -/
  resolve : String → String → Except JsError String
  /-- The error `http(s).request(url, { headers })` throws synchronously, if it does. -/
  requestThrows : String → Headers → Option JsError
  /-- The error `req.end()` throws synchronously for such a request, if it does: the headers are
  put together only here. -/
  endThrows : String → Headers → Option JsError
  /-- `String(number)`. -/
  numberToString : ℚ → String

/-- Whether a request is issued: neither `http(s).request` nor `end()` throws. -/
def Node.Takes (node : Node) (url : String) (headers : Headers) : Prop :=
  node.requestThrows url headers = none ∧ node.endThrows url headers = none

instance (node : Node) (url : String) (headers : Headers) : Decidable (node.Takes url headers) :=
  inferInstanceAs (Decidable (_ ∧ _))

/-- The error of an `'error'` event. -/
structure NodeError where
  /-- `err.message`. -/
  message : Option String
  /-- `err.code`. -/
  code : Option String
  deriving DecidableEq

/-- `text || fallback`. -/
def orText (text : Option String) (fallback : String) : String :=
  match text with
  | some s => if s = "" then fallback else s
  | none => fallback

/-- The headers every probe sends unless the caller overrides them. -/
def defaultHeaders : Headers :=
  [("User-Agent", "WatchTower/1.0 (+uptime monitoring)"), ("Accept", "*/*"),
    ("Accept-Encoding", "identity")]

/-- Set one key of an object: in place if it is there, at the end otherwise. -/
def setHeader (l : Headers) (h : String × String) : Headers :=
  if l.any fun x => x.1 = h.1 then l.map fun x => if x.1 = h.1 then h else x else l ++ [h]

/-- `{ ...base, ...extra }`. -/
def spreadHeaders (base extra : Headers) : Headers := extra.foldl setHeader base

end WatchTower

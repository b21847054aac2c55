import WatchTower.Probe.Credentials
import WatchTower.Probe.RedirectChain

set_option relaxedAutoImplicit false
set_option autoImplicit false

/-!
# The verdict of a redirect chain

A probe whose target answers with a chain, without a transport error and before the deadline.
However the events come, the probe settles with what the response callback makes of the first answer
that it does not follow. That is the reference's verdict exactly when the two agree on every answer
that the probe comes to: the callback's second guard asks whether a redirect is left, but not
whether the answer is a redirect.

## Main definitions

* `WatchTower.Chain.Valid` — the initial URL and every `Location` of a chain can be requested.
* `WatchTower.ChainStep` — the events of a probe whose target answers with a chain.
* `WatchTower.VerdictMatches` — the probe has settled with the reference's verdict, and it has
  settled if everything that can come has come.
* `WatchTower.Probe.OnChain` — the invariant: the answers so far, and what the probe is waiting for.

## Main results

* `WatchTower.Probe.OnChain.step` — every event keeps the invariant.
* `WatchTower.exists_run_reaching` — a probe can come to every answer that is reached.
* `WatchTower.verdictMatches_iff` — every run has the reference's verdict exactly when callback and
  reference agree at every answer that is reached.
-/

namespace WatchTower

open Transition Chain

/-- A URL that `http(s).request` is called for, and whose request is not refused. -/
def Accepted (env : ProbeEnv) (url : String) : Prop :=
  env.node.IsWeb url ∧ env.node.Takes url (Probe.headersFor env url)

/-- The URLs that the hops of a chain are requested at. -/
inductive HopUrl (env : ProbeEnv) (chain : Chain) : ℕ → String → Prop
  | first : HopUrl env chain 0 env.rawUrl
  | next {i statusCode : ℕ} {url location next : String} : HopUrl env chain i url →
      chain i = some (statusCode, some location) → env.node.resolve location url = .ok next →
      HopUrl env chain (i + 1) next

/-- The initial URL and every `Location` of a chain can be requested. -/
structure Chain.Valid (env : ProbeEnv) (chain : Chain) : Prop where
  first : Accepted env env.rawUrl
  next : ∀ i url statusCode location, HopUrl env chain i url →
    chain i = some (statusCode, some location) → location ≠ "" →
    ∃ next, env.node.resolve location url = .ok next ∧ Accepted env next

/-- The events of a target that answers with a chain: each request is answered once, as the chain
has it; a body comes, ends, closes or breaks off after its answer; there is no deadline and no error
of a request or a socket. -/
def FromChain (chain : Chain) (s : Probe) : ProbeEvent → Prop
  | .response h statusCode location =>
    (∃ hop, s.hops[h]? = some hop ∧ hop.response = none) ∧ chain h = some (statusCode, location)
  | .data h _ | .bodyError h | .bodyEnd h | .bodyClose h =>
    ∃ hop, s.hops[h]? = some hop ∧ hop.response.isSome = true
  | .deadline | .socketError _ _ | .requestError _ _ => False
  | _ => True

/-- The callbacks of a probe whose target answers with a chain. -/
def ChainStep (env : ProbeEnv) (chain : Chain) (s : Probe) (e : TimedEvent) (s' : Probe) : Prop :=
  ProbeStep env s e s' ∧ FromChain chain s e.2

/-- What a settlement says of a chain. -/
def Settlement.chainOutcome (r : Settlement) : ChainOutcome :=
  ⟨r.verdict.status, r.verdict.statusCode, r.verdict.errorCode, r.verdict.retryable, r.redirects⟩

/-- Everything has come: each request has its answer, if the chain has one, and each body has
ended. -/
def Complete (chain : Chain) (es : List TimedEvent) (s : Probe) : Prop :=
  ∀ h hop, s.hops[h]? = some hop →
    (hop.response = none → chain h = none) ∧
      (hop.response.isSome = true → ∃ t, (t, .bodyEnd h) ∈ es)

/-- The probe has the reference's verdict: if it has settled, with that one; and if everything has
come and the reference has a verdict, then it has settled. -/
structure VerdictMatches (env : ProbeEnv) (chain : Chain) (es : List TimedEvent) (s : Probe) :
    Prop where
  verdict : ∀ r, s.promise = .resolved r →
    gradeChain chain env.maxRedirects 0 = some r.chainOutcome
  settles : Complete chain es s → ∀ o, gradeChain chain env.maxRedirects 0 = some o →
    ∃ r, s.promise = .resolved r

namespace Probe

variable {env : ProbeEnv} {chain : Chain} {s s' : Probe} {t : ℕ} {es : List TimedEvent}

/-- What a probe is waiting for, by its last hop: the answer, or the end of a body whose answer will
be graded by its status code. -/
def Awaits (env : ProbeEnv) (chain : Chain) (s : Probe) (hop : Hop) : Prop :=
  hop.response = none ∨ ∃ statusCode, hop.response = some statusCode ∧ hop.listening = true ∧
    chain.settlesWith env.maxRedirects s.redirects = some (gradeByStatus statusCode s.redirects)

/-- The invariant of a probe on a chain. It has followed every answer but the last; before it
settles it awaits something of its last hop, and it settles with what the callback makes of the last
answer. -/
structure OnChain (env : ProbeEnv) (chain : Chain) (es : List TimedEvent) (s : Probe) : Prop where
  chained : s.Chained
  bound : s.Bound env
  escaped : s.escaped = none
  length : s.hops.length = s.redirects + 1
  reached : chain.Reached env.maxRedirects s.redirects
  hopUrl : ∀ i r, s.requests[i]? = some r → HopUrl env chain i r.1
  awaits : s.settled = false → ∀ hop, s.hops[s.redirects]? = some hop → Awaits env chain s hop
  done : s.settled = true → (∃ r, s.promise = .resolved r ∧
      chain.settlesWith env.maxRedirects s.redirects = some r.chainOutcome) ∧
    ∀ hop, s.hops[s.redirects]? = some hop → hop.response.isSome = true
  ended : ∀ u h, (u, .bodyEnd h) ∈ es → s.settled = true ∨ h < s.redirects

/-- Requesting an accepted URL issues one more request. -/
lemma request_of_accepted (hs : s.Bound env) {url : String} (h : Accepted env url) :
    s.request env t url = .ok (s.issue env t url) := by
  obtain ⟨⟨parsed, hparsed, hproto⟩, hrequest, hend⟩ := h
  have hproto' : ¬(parsed.protocol ≠ "https:" ∧ parsed.protocol ≠ "http:") := by tauto
  have hheaders := hs.outboundHeaders url
  simp only [request, hparsed, if_neg hproto', hheaders, hrequest, hend, issue]

/-- What it means that the callback follows an answer. -/
lemma followed_eq_some_iff {statusCode : ℕ} {location : Option String} {l : String} :
    s.followed env statusCode location = some l ↔
      location = some l ∧ l ≠ "" ∧ IsRedirectStatus statusCode ∧
        s.redirects < env.maxRedirects := by
  simp only [followed, Option.filter_eq_some_iff, decide_eq_true_eq, IsRedirectStatus, and_assoc]

/-- What it means that it does not. -/
lemma followed_eq_none_iff {statusCode : ℕ} {location : Option String} :
    s.followed env statusCode location = none ↔
      ¬(HasLocation location ∧ IsRedirectStatus statusCode ∧ s.redirects < env.maxRedirects) := by
  rw [Option.eq_none_iff_forall_ne_some]
  simp only [ne_eq, followed_eq_some_iff]
  cases location with
  | none => simp [HasLocation]
  | some l => simp [HasLocation]

/-- The last hop of a chain is the one numbered like the redirects. -/
lemma OnChain.lt_length (hs : OnChain env chain es s) : s.redirects < s.hops.length := by
  have := hs.length
  omega

/-- An unanswered hop is the last, and then the probe has not settled. -/
lemma OnChain.of_unanswered (hs : OnChain env chain es s) {h : ℕ} {hop : Hop}
    (hhop : s.hops[h]? = some hop) (hresp : hop.response = none) :
    h = s.redirects ∧ s.settled = false := by
  have hlast := hs.chained.last_of_unanswered hhop hresp
  have hh : h = s.redirects := by have := hs.length; omega
  refine ⟨hh, Bool.eq_false_iff.2 fun hsettled => ?_⟩
  simpa [hresp] using (hs.done hsettled).2 hop (hh ▸ hhop)

/-- **A followed answer** opens the next request. -/
lemma OnChain.handle_followed (hs : OnChain env chain es s) (hvalid : chain.Valid env) {h : ℕ}
    {hop : Hop} {statusCode : ℕ} {l : String} (hhop : s.hops[h]? = some hop)
    (hresp : hop.response = none) (hchain : chain h = some (statusCode, some l)) (hl : l ≠ "")
    (hstatus : IsRedirectStatus statusCode) (hlt : s.redirects < env.maxRedirects) :
    ∃ next, env.node.resolve l hop.url = .ok next ∧
      s.handle env t (.response h statusCode (some l)) =
        (s.sawResponse t h statusCode).countRedirect.issue env t next := by
  obtain ⟨next, hnext, hacc⟩ := hvalid.next h hop.url statusCode l
    (hs.hopUrl h (hop.url, hop.headers) (by simp [requests, hhop])) hchain hl
  have hfollowed : (s.sawResponse t h statusCode).followed env statusCode (some l) = some l :=
    followed_eq_some_iff.2 ⟨rfl, hl, hstatus, hlt⟩
  have hbound : (s.sawResponse t h statusCode).countRedirect.Bound env :=
    ⟨hs.bound.initial, fun r hr => hs.bound.request r (requests_sawResponse s t h statusCode ▸ hr)⟩
  have hreq := request_of_accepted (t := t) hbound hacc
  refine ⟨next, hnext, ?_⟩
  simp only [countRedirect] at hreq
  simp only [handle, hhop, hresp, Option.isSome_none, Bool.false_eq_true, if_false, onResponse,
    hfollowed, follow, hnext, hreq, countRedirect]

/-- **An answer that is not followed** settles the probe, or its body is listened to. -/
lemma handle_not_followed {h : ℕ} {hop : Hop} {statusCode : ℕ} {location : Option String}
    (hhop : s.hops[h]? = some hop) (hresp : hop.response = none)
    (hnot : ¬(HasLocation location ∧ IsRedirectStatus statusCode ∧
      s.redirects < env.maxRedirects)) :
    s.handle env t (.response h statusCode location) =
      if HasLocation location ∧ env.maxRedirects ≤ s.redirects then
        (s.sawResponse t h statusCode).finish t (tooManyRedirects env statusCode)
      else (s.sawResponse t h statusCode).setHop h fun hop => { hop with listening := true } := by
  have hfollowed : (s.sawResponse t h statusCode).followed env statusCode location = none :=
    followed_eq_none_iff.2 hnot
  simp only [handle, hhop, hresp, Option.isSome_none, Bool.false_eq_true, if_false, onResponse,
    hfollowed]
  rfl

/-- The verdict of a status code. -/
def statusVerdict (statusCode : ℕ) : Verdict :=
  let up := 200 ≤ statusCode ∧ statusCode < 400
  { status := if up then .up else .down
    statusCode := some statusCode
    error := if up then none else some ("HTTP " ++ toString statusCode)
    errorCode := if up then none else some ("HTTP_" ++ toString statusCode)
    retryable := if up then false else isRetryableStatus statusCode }

/-- The verdict that settles by a status code is its grade. -/
lemma chainOutcome_statusVerdict (statusCode redirects total : ℕ) :
    (Settlement.mk (statusVerdict statusCode) redirects total).chainOutcome =
      gradeByStatus statusCode redirects := by
  have hiff : (200 ≤ statusCode ∧ statusCode < 400) ↔ 200 ≤ statusCode ∧ statusCode ≤ 399 := by
    omega
  simp only [Settlement.chainOutcome, statusVerdict, gradeByStatus, hiff]
  split_ifs <;> rfl

/-- A body event of an answered hop settles the probe if the body is listened to. -/
lemma handle_body (env : ProbeEnv) (t : ℕ) {e : ProbeEvent} {h : ℕ} {hop : Hop} {statusCode : ℕ}
    (he : e = .bodyError h ∨ e = .bodyEnd h ∨ e = .bodyClose h) (hhop : s.hops[h]? = some hop)
    (hresp : hop.response = some statusCode) :
    s.handle env t e =
      if hop.listening then s.finish t (statusVerdict statusCode) else s := by
  rcases he with rfl | rfl | rfl <;> simp only [handle, onBody, hhop, hresp] <;> rfl

/-- **Settling on a chain.** A verdict that is what the callback makes of the last answer. -/
lemma onChain_finish (hchained : s.Chained) (hbound : s.Bound env) (hescaped : s.escaped = none)
    (hlength : s.hops.length = s.redirects + 1)
    (hreached : chain.Reached env.maxRedirects s.redirects)
    (hurl : ∀ i r, s.requests[i]? = some r → HopUrl env chain i r.1) (hsettled : s.settled = false)
    (hanswered : ∀ hop, s.hops[s.redirects]? = some hop → hop.response.isSome = true)
    {verdict : Verdict} (hverdict : ∀ total, chain.settlesWith env.maxRedirects s.redirects =
      some (Settlement.mk verdict s.redirects total).chainOutcome) :
    OnChain env chain es (s.finish t verdict) := by
  obtain ⟨-, hredirects, hescaped'⟩ := finish_keeps s t verdict
  have hpending := hchained.pending (List.ne_nil_of_length_pos (by omega)) hsettled
  have hresponses : (s.finish t verdict).hops.map (·.response) = s.hops.map (·.response) :=
    map_hops_finish (fun _ => rfl) s t verdict
  refine ⟨hchained.finish verdict, ⟨by simp [hbound.initial], by simpa using hbound.request⟩,
    hescaped'.trans hescaped, ?_, hredirects ▸ hreached, by simpa using hurl, by simp,
    fun _ => ⟨⟨_, promise_finish hsettled hpending verdict, ?_⟩, fun hop hhop => ?_⟩, by simp⟩
  · rw [hredirects, ← hlength, ← List.length_map (·.response), hresponses, List.length_map]
  · rw [hredirects]
    exact hverdict _
  · have hmap := congrArg (·[s.redirects]?) hresponses
    simp only [List.getElem?_map] at hmap
    rw [hredirects] at hhop
    rw [hhop] at hmap
    obtain ⟨hop₀, hhop₀, hresp⟩ := Option.map_eq_some_iff.1 hmap.symm
    have hanswer : hop.response = hop₀.response := hresp.symm
    rw [hanswer]
    exact hanswered hop₀ hhop₀

/-- **A marked hop** leaves the probe on its chain. -/
lemma OnChain.of_modify (hs : OnChain env chain es s) {e : TimedEvent} {h : ℕ} {f : Hop → Hop}
    (hhops : s'.hops = s.hops.modify h f) (hf : KeepsExchange f) (hchained : s'.Chained)
    (hrest : s'.initialOrigin = s.initialOrigin ∧ s'.redirects = s.redirects ∧
      s'.settled = s.settled ∧ s'.promise = s.promise ∧ s'.escaped = s.escaped)
    (he : ∀ i, e.2 = .bodyEnd i → s.settled = true ∨ i < s.redirects) :
    OnChain env chain (es ++ [e]) s' := by
  obtain ⟨hinitial, hredirects, hsettled, hpromise, hescaped⟩ := hrest
  have hrequests : s'.requests = s.requests :=
    requests_of_modify hhops fun hop => ⟨hf.url hop, hf.headers hop⟩
  have hhop : ∀ (i : ℕ) (hop' : Hop), s'.hops[i]? = some hop' → ∃ hop, s.hops[i]? = some hop ∧
      hop'.response = hop.response ∧ hop'.listening = hop.listening := by
    intro i hop' hhop'
    rw [hhops, List.getElem?_modify] at hhop'
    obtain ⟨hop, hhop, rfl⟩ := Option.map_eq_some_iff.1 hhop'
    refine ⟨hop, hhop, ?_⟩
    by_cases hi : h = i
    · simp [hi, hf.response, hf.listening]
    · simp [hi]
  refine ⟨hchained, ⟨hinitial.trans hs.bound.initial, hrequests ▸ hs.bound.request⟩,
    hescaped.trans hs.escaped, by rw [hhops, List.length_modify, hs.length, hredirects],
    hredirects ▸ hs.reached, hrequests ▸ hs.hopUrl, fun h hop' hhop' => ?_,
    fun h => ⟨?_, fun hop' hhop' => ?_⟩, fun u i hi => ?_⟩
  · rw [hredirects] at hhop'
    obtain ⟨hop, hhop, hresp, hlisten⟩ := hhop _ hop' hhop'
    rw [Awaits, hresp, hlisten, hredirects]
    exact hs.awaits (hsettled ▸ h) hop hhop
  · rw [hpromise, hredirects]
    exact (hs.done (hsettled ▸ h)).1
  · rw [hredirects] at hhop'
    obtain ⟨hop, hhop, hresp, -⟩ := hhop _ hop' hhop'
    rw [hresp]
    exact (hs.done (hsettled ▸ h)).2 hop hhop
  · rw [hsettled, hredirects]
    rcases List.mem_append.1 hi with hi | hi
    · exact hs.ended u i hi
    · obtain rfl := List.mem_singleton.1 hi
      exact he i rfl

/-- An ignored event leaves the probe on its chain. -/
lemma OnChain.ignored (hs : OnChain env chain es s) {e : TimedEvent}
    (he : ∀ i, e.2 = .bodyEnd i → s.settled = true ∨ i < s.redirects) :
    OnChain env chain (es ++ [e]) s :=
  hs.of_modify (List.modify_id 0 s.hops).symm
    ⟨fun _ => rfl, fun _ => rfl, fun _ => rfl, fun _ => rfl, fun _ => rfl⟩ hs.chained
    ⟨rfl, rfl, rfl, rfl, rfl⟩ he

/-- The answer of the last hop leaves what had ended. -/
lemma OnChain.ended_response (hs : OnChain env chain es s) (hsettled : s.settled = false)
    {h statusCode : ℕ} {location : Option String} {u i : ℕ}
    (hi : (u, ProbeEvent.bodyEnd i) ∈ es ++ [(t, .response h statusCode location)]) :
    i < s.redirects := by
  simp only [List.mem_append, List.mem_singleton, Prod.mk.injEq, reduceCtorEq, and_false,
    or_false] at hi
  exact (hs.ended u i hi).resolve_left (by simp [hsettled])

/-- **A followed answer** keeps the invariant: one more request is the last, without an answer. -/
lemma OnChain.follow (hs : OnChain env chain es s) (hvalid : chain.Valid env) {hop : Hop}
    {statusCode : ℕ} {l : String} (hhop : s.hops[s.redirects]? = some hop)
    (hresp : hop.response = none) (hsettled : s.settled = false)
    (hchain : chain s.redirects = some (statusCode, some l)) (hl : l ≠ "")
    (hstatus : IsRedirectStatus statusCode) (hlt : s.redirects < env.maxRedirects) :
    OnChain env chain (es ++ [(t, .response s.redirects statusCode (some l))])
      (s.handle env t (.response s.redirects statusCode (some l))) := by
  obtain ⟨next, hnext, heq⟩ :=
    hs.handle_followed (t := t) hvalid hhop hresp hchain hl hstatus hlt
  have hchained := hs.chained.handle env t (.response s.redirects statusCode (some l))
  have hbound := hs.bound.handle (t := t) (.response s.redirects statusCode (some l))
  have hlength : (s.sawResponse t s.redirects statusCode).hops.length = s.redirects + 1 := by
    simp [Probe.sawResponse, Probe.setHop, hs.length]
  have hrequests : ((s.sawResponse t s.redirects statusCode).countRedirect.issue env t
      next).requests = s.requests ++ [(next, outboundHeaders env s next)] := by
    rw [← requests_sawResponse s t s.redirects statusCode]
    exact List.map_append
  have hcount : s.requests.length = s.redirects + 1 := by
    rw [requests, List.length_map, hs.length]
  rw [heq] at hchained hbound ⊢
  refine ⟨hchained, hbound, hs.escaped, ?_, ⟨hlt, fun j hj => ?_⟩, fun i r hr => ?_,
    fun _ hop' hhop' => ?_, fun h => ?_, fun u i hi => .inr ?_⟩
  · have hissue : ((s.sawResponse t s.redirects statusCode).countRedirect.issue env t
        next).hops.length = (s.sawResponse t s.redirects statusCode).hops.length + 1 :=
      List.length_append
    rw [hissue, hlength]
    rfl
  · rcases Nat.lt_succ_iff_lt_or_eq.1 hj with hj | rfl
    · exact hs.reached.2 j hj
    · exact ⟨statusCode, some l, hchain, hstatus, by simp [HasLocation, hl]⟩
  · rw [hrequests] at hr
    rcases Nat.lt_or_ge i s.requests.length with hi | hi
    · rw [List.getElem?_append_left hi] at hr
      exact hs.hopUrl i r hr
    · rw [List.getElem?_append_right hi, List.getElem?_singleton] at hr
      split_ifs at hr with hi0
      obtain rfl := Option.some.inj hr
      obtain rfl : i = s.redirects + 1 := by omega
      have hurl := hs.hopUrl s.redirects (hop.url, hop.headers) (by simp [requests, hhop])
      exact .next hurl hchain hnext
  · have hnew : ((s.sawResponse t s.redirects statusCode).hops ++ [newHop next
        (outboundHeaders env s next) t])[s.redirects + 1]? = some hop' := hhop'
    rw [List.getElem?_append_right hlength.le, hlength, Nat.sub_self] at hnew
    obtain rfl := Option.some.inj hnew
    exact .inl rfl
  · rw [show s.settled = true from h] at hsettled
    cases hsettled
  · exact Nat.lt_succ_of_lt (hs.ended_response hsettled hi)

/-- **An answer that is not followed** keeps the invariant: the probe settles, or awaits the end of
the body. -/
lemma OnChain.final (hs : OnChain env chain es s) {hop : Hop} {statusCode : ℕ}
    {location : Option String} (hhop : s.hops[s.redirects]? = some hop)
    (hresp : hop.response = none) (hsettled : s.settled = false)
    (hchain : chain s.redirects = some (statusCode, location))
    (hnot : ¬(HasLocation location ∧ IsRedirectStatus statusCode ∧
      s.redirects < env.maxRedirects)) :
    OnChain env chain (es ++ [(t, .response s.redirects statusCode location)])
      (s.handle env t (.response s.redirects statusCode location)) := by
  have hsettlesWith : chain.settlesWith env.maxRedirects s.redirects = some
      (if HasLocation location ∧ env.maxRedirects ≤ s.redirects then
        tooManyOutcome statusCode s.redirects else gradeByStatus statusCode s.redirects) := by
    simp only [settlesWith, hchain, Option.bind_some, if_neg hnot]
    split_ifs <;> rfl
  have hsaw := getElem?_sawResponse t statusCode hhop
  have hlength : (s.sawResponse t s.redirects statusCode).hops.length = s.redirects + 1 := by
    simp [Probe.sawResponse, Probe.setHop, hs.length]
  have hrequests := requests_sawResponse s t s.redirects statusCode
  have hchained := hs.chained.handle env t (.response s.redirects statusCode location)
  have hbound := hs.bound.handle (t := t) (.response s.redirects statusCode location)
  rw [handle_not_followed hhop hresp hnot] at hchained hbound ⊢
  split_ifs at hsettlesWith hchained hbound ⊢ with hcap
  · have hbound : (s.sawResponse t s.redirects statusCode).Bound env :=
      ⟨hs.bound.initial, hrequests ▸ hs.bound.request⟩
    refine onChain_finish (hs.chained.sawResponse _ _) hbound hs.escaped hlength hs.reached
      (hrequests ▸ hs.hopUrl) hsettled (fun hop' hhop' => ?_) fun total => hsettlesWith
    obtain rfl := Option.some.inj (hsaw.symm.trans hhop')
    rfl
  · have hrequests' : ((s.sawResponse t s.redirects statusCode).setHop s.redirects
        fun hop => { hop with listening := true }).requests = s.requests :=
      (requests_of_modify (f := fun hop => { hop with listening := true }) rfl
        fun _ => ⟨rfl, rfl⟩).trans hrequests
    refine ⟨hchained, hbound, hs.escaped, ?_, hs.reached, hrequests' ▸ hs.hopUrl,
      fun _ hop' hhop' => .inr ⟨statusCode, ?_⟩, fun h => ?_, fun u i hi => .inr ?_⟩
    · rw [Probe.setHop, List.length_modify, hlength]
      rfl
    · have hlisten : ((s.sawResponse t s.redirects statusCode).setHop s.redirects
          fun hop => { hop with listening := true }).hops[s.redirects]? =
          some { hop with response := some statusCode, listening := true } := by
        simp [Probe.setHop, hsaw]
      obtain rfl := Option.some.inj (hlisten.symm.trans hhop')
      exact ⟨rfl, rfl, hsettlesWith⟩
    · rw [show s.settled = true from h] at hsettled
      cases hsettled
    · exact hs.ended_response hsettled hi

/-- **An answer** keeps the invariant. -/
lemma OnChain.answered (hs : OnChain env chain es s) (hvalid : chain.Valid env) {h : ℕ}
    {hop : Hop} {statusCode : ℕ} {location : Option String} (hhop : s.hops[h]? = some hop)
    (hresp : hop.response = none) (hchain : chain h = some (statusCode, location)) :
    OnChain env chain (es ++ [(t, .response h statusCode location)])
      (s.handle env t (.response h statusCode location)) := by
  obtain ⟨rfl, hsettled⟩ := hs.of_unanswered hhop hresp
  by_cases hfollow : HasLocation location ∧ IsRedirectStatus statusCode ∧
      s.redirects < env.maxRedirects
  · obtain ⟨hlocation, hstatus, hlt⟩ := hfollow
    obtain ⟨l, rfl⟩ := Option.isSome_iff_exists.1 (isSome_of_hasLocation hlocation)
    have hl : l ≠ "" := by simpa [HasLocation] using hlocation
    exact hs.follow hvalid hhop hresp hsettled hchain hl hstatus hlt
  · exact hs.final hhop hresp hsettled hchain hfollow

/-- **The body of an answered hop** keeps the invariant. -/
lemma OnChain.body (hs : OnChain env chain es s) {e : ProbeEvent} {h : ℕ} {hop : Hop}
    (he : e = .bodyError h ∨ e = .bodyEnd h ∨ e = .bodyClose h) (hhop : s.hops[h]? = some hop)
    (hresp : hop.response.isSome = true) :
    OnChain env chain (es ++ [(t, e)]) (s.handle env t e) := by
  obtain ⟨statusCode, hresp⟩ := Option.isSome_iff_exists.1 hresp
  rw [handle_body env t he hhop hresp]
  by_cases hh : h = s.redirects ∧ s.settled = false
  · -- The hop is the last, and its body is listened to.
    obtain ⟨rfl, hsettled⟩ := hh
    rcases hs.awaits hsettled hop hhop with hnone | ⟨code, hcode, hlisten, hgrade⟩
    · rw [hnone] at hresp
      cases hresp
    · obtain rfl := Option.some.inj (hcode.symm.trans hresp)
      rw [if_pos hlisten]
      refine onChain_finish hs.chained hs.bound hs.escaped hs.length hs.reached hs.hopUrl hsettled
        (fun hop' hhop' => ?_) fun total => ?_
      · obtain rfl := Option.some.inj (hhop.symm.trans hhop')
        rw [hresp]
        rfl
      · rw [chainOutcome_statusVerdict]
        exact hgrade
  · have hlt := (List.getElem?_eq_some_iff.1 hhop).1
    have hcases : s.settled = true ∨ h < s.redirects := by
      cases hsettled : s.settled with
      | true => exact .inl rfl
      | false =>
        have hne : h ≠ s.redirects := fun heq => hh ⟨heq, hsettled⟩
        have := hs.length
        exact .inr (by omega)
    have hended : ∀ i, e = .bodyEnd i → s.settled = true ∨ i < s.redirects := by
      rintro i rfl
      rcases he with he | he | he <;> cases he
      exact hcases
    split_ifs with hlisten
    · rcases hcases with hsettled | hearlier
      · rw [finish_of_settled hsettled]
        exact hs.ignored hended
      · have hne : h + 1 ≠ s.hops.length := by have := hs.length; omega
        rw [((hs.chained.regular h hop hhop).followed hne).2] at hlisten
        cases hlisten
    · exact hs.ignored hended

/-- The events that answer nothing, and end nothing. -/
def IsQuiet : ProbeEvent → Prop
  | .data _ _ | .socket _ _ | .lookup _ | .connect _ | .secureConnect _ => True
  | _ => False

/-- **Any other event** marks a hop at most. -/
lemma OnChain.quiet (hs : OnChain env chain es s) {e : ProbeEvent} (he : IsQuiet e) :
    OnChain env chain (es ++ [(t, e)]) (s.handle env t e) := by
  have hended : ∀ i, e = .bodyEnd i → s.settled = true ∨ i < s.redirects := by
    rintro i rfl
    exact he.elim
  have hchained := hs.chained.handle env t e
  have hout := outcome_handle env s t e
  generalize s.handle env t e = s' at hout hchained
  cases hout with
  | ignored => exact hs.ignored hended
  | expired => exact he.elim
  | graded h => rcases h with rfl | rfl | rfl <;> exact he.elim
  | failed h => rcases h with rfl | ⟨rfl, -⟩ <;> exact he.elim
  | received =>
    exact hs.of_modify rfl ⟨fun _ => rfl, fun _ => rfl, fun _ => rfl, fun _ => rfl, fun _ => rfl⟩
      hchained ⟨rfl, rfl, rfl, rfl, rfl⟩ hended
  | marked =>
    exact hs.of_modify rfl ⟨fun _ => rfl, fun _ => rfl, fun _ => rfl, fun _ => rfl, fun _ => rfl⟩
      hchained ⟨rfl, rfl, rfl, rfl, rfl⟩ hended
  | threw => exact he.elim
  | refused => exact he.elim
  | issued => exact he.elim
  | capped => exact he.elim
  | listened => exact he.elim

/-- **Every event of a chain keeps the invariant.** -/
theorem OnChain.step (hs : OnChain env chain es s) (hvalid : chain.Valid env) {e : TimedEvent}
    (h : ChainStep env chain s e s') : OnChain env chain (es ++ [e]) s' := by
  obtain ⟨t, e⟩ := e
  obtain ⟨⟨-, rfl⟩, hchain⟩ := h
  cases e with
  | deadline => exact hchain.elim
  | socketError h err => exact hchain.elim
  | requestError h err => exact hchain.elim
  | response h statusCode location =>
    obtain ⟨⟨hop, hhop, hresp⟩, hchain⟩ := hchain
    exact hs.answered hvalid hhop hresp hchain
  | bodyError h =>
    obtain ⟨hop, hhop, hresp⟩ := hchain
    exact hs.body (.inl rfl) hhop hresp
  | bodyEnd h =>
    obtain ⟨hop, hhop, hresp⟩ := hchain
    exact hs.body (.inr (.inl rfl)) hhop hresp
  | bodyClose h =>
    obtain ⟨hop, hhop, hresp⟩ := hchain
    exact hs.body (.inr (.inr rfl)) hhop hresp
  | _ => exact hs.quiet trivial

/-- **A new probe is on its chain.** -/
theorem onChain_probeOnce (hvalid : chain.Valid env) (t : ℕ) :
    OnChain env chain [] (probeOnce env t) := by
  have hreq : (fresh env t).request env t env.rawUrl = .ok ((fresh env t).issue env t env.rawUrl) :=
    request_of_accepted ⟨rfl, by simp [requests, fresh]⟩ hvalid.first
  have hchained := chained_probeOnce env t
  have hbound := bound_probeOnce env t
  simp only [probeOnce, hreq] at hchained hbound ⊢
  have hreached : chain.Reached env.maxRedirects 0 :=
    ⟨Nat.zero_le _, fun j hj => absurd hj (Nat.not_lt_zero j)⟩
  refine ⟨hchained, hbound, rfl, rfl, hreached, fun i r hr => ?_, fun _ hop hhop => ?_,
    fun h => absurd h (by simp [issue, fresh]), fun _ _ h => absurd h List.not_mem_nil⟩
  · have hr' : [(env.rawUrl, outboundHeaders env (fresh env t) env.rawUrl)][i]? = some r := hr
    rw [List.getElem?_singleton] at hr'
    split_ifs at hr' with hi
    obtain rfl := Option.some.inj hr'
    rw [hi]
    exact .first
  · have hhop' : [newHop env.rawUrl (outboundHeaders env (fresh env t) env.rawUrl) t][0]? =
      some hop := hhop
    obtain rfl := Option.some.inj hhop'
    exact .inl rfl

/-- **The invariant holds throughout a run.** -/
theorem onChain_of_run (hvalid : chain.Valid env)
    (h : Run (ChainStep env chain) (probeOnce env t) es s) : OnChain env chain es s :=
  h.induction_from (P := fun es s => OnChain env chain es s) (onChain_probeOnce hvalid t)
    fun _ _ _ _ _ ih hstep => ih.step hvalid hstep

/-! ## The verdict -/

/-- **A probe on a chain has the reference's verdict**, where callback and reference agree. -/
theorem OnChain.verdictMatches (hs : OnChain env chain es s)
    (hagree : ∀ i, chain.Reached env.maxRedirects i → ∀ statusCode location,
      chain i = some (statusCode, location) → AgreesAt env.maxRedirects i statusCode location) :
    VerdictMatches env chain es s := by
  have hgrade := gradeChain_of_reached hs.reached
  -- What the callback makes of the last answer is the reference's verdict.
  have hmatch : ∀ o, chain.settlesWith env.maxRedirects s.redirects = some o →
      gradeChain chain env.maxRedirects 0 = some o := by
    intro o ho
    obtain ⟨⟨statusCode, location⟩, hchain, -⟩ := Option.bind_eq_some_iff.1 ho
    rw [hgrade, gradeChain_eq_iff hs.reached.1 hchain ho]
    exact hagree _ hs.reached statusCode location hchain
  refine ⟨fun r hr => ?_, fun hcomplete o ho => ?_⟩
  · cases hsettled : s.settled with
    | true =>
      obtain ⟨⟨r', hr', hsettles⟩, -⟩ := hs.done hsettled
      rw [hr', Promise.resolved.injEq] at hr
      exact hmatch _ (hr ▸ hsettles)
    | false =>
      rw [hs.chained.pending (List.ne_nil_of_length_pos (by have := hs.length; omega))
        hsettled] at hr
      cases hr
  · cases hsettled : s.settled with
    | true =>
      obtain ⟨⟨r, hr, -⟩, -⟩ := hs.done hsettled
      exact ⟨r, hr⟩
    | false =>
      have hhop := List.getElem?_eq_getElem hs.lt_length
      rcases hs.awaits hsettled _ hhop with hnone | ⟨statusCode, hresp, -, -⟩
      · -- The chain has no answer for the last request, and then the reference has no verdict.
        have hend := (hcomplete _ _ hhop).1 hnone
        rw [hgrade] at ho
        cases hbudget : env.maxRedirects - s.redirects <;>
          simp [hbudget, gradeChain, hend] at ho
      · obtain ⟨u, hu⟩ := (hcomplete _ _ hhop).2 (by rw [hresp]; rfl)
        rcases hs.ended u _ hu with h | h
        · rw [hsettled] at h
          cases h
        · exact absurd h (lt_irrefl _)

end Probe

open Probe

section Runs

variable {env : ProbeEnv} {chain : Chain} {i : ℕ}

/-- **A probe can come to every answer that is reached**, and then awaits it. -/
theorem exists_run_reaching (hvalid : chain.Valid env) (t : ℕ)
    (hreached : chain.Reached env.maxRedirects i) : ∃ es s hop,
      Run (ChainStep env chain) (probeOnce env t) es s ∧ s.redirects = i ∧ s.settled = false ∧
        s.hops[i]? = some hop ∧ hop.response = none := by
  induction i with
  | zero =>
    have hreq : (fresh env t).request env t env.rawUrl =
        .ok ((fresh env t).issue env t env.rawUrl) :=
      request_of_accepted ⟨rfl, by simp [requests, fresh]⟩ hvalid.first
    refine ⟨[], probeOnce env t, newHop env.rawUrl (outboundHeaders env (fresh env t) env.rawUrl) t,
      .nil _, ?_⟩
    simp only [probeOnce, hreq]
    exact ⟨rfl, rfl, rfl, rfl⟩
  | succ i ih =>
    have hreached' : chain.Reached env.maxRedirects i :=
      ⟨by have := hreached.1; omega, fun j hj => hreached.2 j (by omega)⟩
    obtain ⟨es, s, hop, hrun, rfl, hsettled, hhop, hresp⟩ := ih hreached'
    have hs := onChain_of_run hvalid hrun
    obtain ⟨statusCode, location, hchain, hstatus, hlocation⟩ := hreached.2 _ (Nat.lt_succ_self _)
    obtain ⟨l, rfl⟩ := Option.isSome_iff_exists.1 (isSome_of_hasLocation hlocation)
    have hl : l ≠ "" := by simpa [HasLocation] using hlocation
    obtain ⟨next, -, heq⟩ := hs.handle_followed (t := t) hvalid hhop hresp hchain hl hstatus
      (Nat.lt_of_succ_le hreached.1)
    have hlength : (s.sawResponse t s.redirects statusCode).hops.length = s.redirects + 1 := by
      simp [Probe.sawResponse, Probe.setHop, hs.length]
    have hstep : ChainStep env chain s (t, .response s.redirects statusCode (some l)) _ :=
      ⟨⟨hs.escaped, rfl⟩, ⟨hop, hhop, hresp⟩, hchain⟩
    refine ⟨_, _, newHop next (outboundHeaders env s next) t, hrun.snoc hstep, ?_, ?_, ?_, ?_⟩
    · rw [heq]
      rfl
    · rw [heq]
      exact hsettled
    · have hnew : ((s.sawResponse t s.redirects statusCode).hops ++
          [newHop next (outboundHeaders env s next) t])[s.redirects + 1]? =
          some (newHop next (outboundHeaders env s next) t) := by
        rw [List.getElem?_append_right hlength.le, hlength, Nat.sub_self]
        rfl
      rw [heq]
      exact hnew
    · rfl

/-- **An answer that is reached and not followed can settle the probe**, with what the callback
makes of it. -/
theorem exists_run_settling (hvalid : chain.Valid env) (t : ℕ)
    (hreached : chain.Reached env.maxRedirects i) {statusCode : ℕ} {location : Option String}
    (hchain : chain i = some (statusCode, location))
    (hnot : ¬(HasLocation location ∧ IsRedirectStatus statusCode ∧ i < env.maxRedirects)) :
    ∃ es s r, Run (ChainStep env chain) (probeOnce env t) es s ∧ s.promise = .resolved r ∧
      chain.settlesWith env.maxRedirects i = some r.chainOutcome := by
  obtain ⟨es, s, hop, hrun, rfl, hsettled, hhop, hresp⟩ := exists_run_reaching hvalid t hreached
  have hs := onChain_of_run hvalid hrun
  have hstep : ChainStep env chain s (t, .response s.redirects statusCode location) _ :=
    ⟨⟨hs.escaped, rfl⟩, ⟨hop, hhop, hresp⟩, hchain⟩
  have heq := handle_not_followed (t := t) hhop hresp hnot
  by_cases hcap : HasLocation location ∧ env.maxRedirects ≤ s.redirects
  · rw [if_pos hcap] at heq
    have hdone := (onChain_of_run hvalid (hrun.snoc hstep)).done (by
      simp only [heq, settled_finish])
    obtain ⟨⟨r, hr, hsettles⟩, -⟩ := hdone
    refine ⟨_, _, r, hrun.snoc hstep, hr, ?_⟩
    rw [← hsettles, heq, (finish_keeps _ _ _).2.1]
    rfl
  · -- The body is listened to, and its end settles the probe.
    rw [if_neg hcap] at heq
    have hs₁ := onChain_of_run hvalid (hrun.snoc hstep)
    have hhop₁ : (s.handle env t (.response s.redirects statusCode location)).hops[s.redirects]? =
        some { hop with response := some statusCode, listening := true } := by
      simp [heq, Probe.setHop, getElem?_sawResponse t statusCode hhop]
    have hend : ChainStep env chain (s.handle env t (.response s.redirects statusCode location))
        (t, .bodyEnd s.redirects) _ := ⟨⟨hs₁.escaped, rfl⟩, _, hhop₁, rfl⟩
    have heq₁ := handle_body env t (.inr (.inl rfl)) hhop₁ rfl
    rw [if_pos rfl] at heq₁
    have hdone := (onChain_of_run hvalid ((hrun.snoc hstep).snoc hend)).done (by
      simp only [heq₁, settled_finish])
    obtain ⟨⟨r, hr, hsettles⟩, -⟩ := hdone
    refine ⟨_, _, r, (hrun.snoc hstep).snoc hend, hr, ?_⟩
    have hredirects : ((s.handle env t (.response s.redirects statusCode location)).handle env t
        (.bodyEnd s.redirects)).redirects = s.redirects := by
      rw [heq₁, (finish_keeps _ _ _).2.1, heq]
      rfl
    exact (congrArg (chain.settlesWith env.maxRedirects) hredirects.symm).trans hsettles

/-- **The verdict of a probe is the reference's in every run exactly when the callback agrees with
the reference at every answer that is reached.** They do not agree at a redirect with an empty
`Location`, which the callback does not see; nor at an answer that is no redirect but has a
`Location`, when no redirect is left. -/
theorem verdictMatches_iff (env : ProbeEnv) (chain : Chain) (hvalid : chain.Valid env) (t : ℕ) :
    (∀ es s, Run (ChainStep env chain) (probeOnce env t) es s → VerdictMatches env chain es s) ↔
      ∀ i, chain.Reached env.maxRedirects i → ∀ statusCode location,
        chain i = some (statusCode, location) →
          AgreesAt env.maxRedirects i statusCode location := by
  constructor
  · intro hmatches i hreached statusCode location hchain
    by_cases hfollow : HasLocation location ∧ IsRedirectStatus statusCode ∧ i < env.maxRedirects
    · refine ⟨fun _ hempty => ?_, fun heq => absurd heq hfollow.2.2.ne⟩
      rw [hempty] at hfollow
      simp [HasLocation] at hfollow
    · obtain ⟨es, s, r, hrun, hr, hsettles⟩ := exists_run_settling hvalid t hreached hchain hfollow
      have hverdict := (hmatches es s hrun).verdict r hr
      rw [gradeChain_of_reached hreached, gradeChain_eq_iff hreached.1 hchain hsettles] at hverdict
      exact hverdict
  · exact fun hagree es s hrun => (onChain_of_run hvalid hrun).verdictMatches hagree

end Runs

/-! ## A chain with and one without the slip -/

/-- A redirect, and then a page. -/
def onePage : Chain
  | 0 => some (302, some "/next")
  | 1 => some (200, none)
  | _ => none

/-- The URLs of a chain at the sample node are all one. -/
lemma hopUrl_sampleProbe {chain : Chain} {i : ℕ} {url : String}
    (h : HopUrl (sampleProbe []) chain i url) : url = "http://a.test/" := by
  induction h with
  | first => rfl
  | next _ _ hnext ih =>
    subst ih
    simp only [sampleProbe, sampleNode] at hnext
    split_ifs at hnext
    exact (Except.ok.inj hnext).symm

/-- The sample URL is accepted. -/
lemma accepted_sampleProbe : Accepted (sampleProbe []) "http://a.test/" :=
  ⟨⟨⟨"http:", "http://a.test"⟩, by decide +kernel, .inr rfl⟩, by decide +kernel⟩

/-- A chain whose every `Location` is `/next` can be requested at the sample node. -/
lemma valid_sampleProbe {chain : Chain}
    (h : ∀ i statusCode l, chain i = some (statusCode, some l) → l = "/next") :
    chain.Valid (sampleProbe []) where
  first := accepted_sampleProbe
  next i url statusCode l hurl hchain _ := by
    obtain rfl := h i statusCode l hchain
    obtain rfl := hopUrl_sampleProbe hurl
    exact ⟨"http://a.test/", by decide +kernel, accepted_sampleProbe⟩

/-- A redirect to a page: the reference and the callback agree. -/
theorem verdictMatches_iff_onePage :
    (∀ es s, Run (ChainStep (sampleProbe []) onePage) (probeOnce (sampleProbe []) 0) es s →
        VerdictMatches (sampleProbe []) onePage es s) ↔
      ∀ i, onePage.Reached 5 i → ∀ statusCode location, onePage i = some (statusCode, location) →
        AgreesAt 5 i statusCode location :=
  verdictMatches_iff (sampleProbe []) onePage
    (valid_sampleProbe fun i statusCode l h => by
      rcases i with _ | _ | i <;> simp_all [onePage]) 0

/-- Five redirects, and then a page created at a `Location`. -/
def fiveRedirects : Chain := fun i =>
  if i < 5 then some (302, some "/next") else some (201, some "/next")

/-- An answer that the chain has to a request without one. -/
lemma fromChain_response {chain : Chain} {s : Probe} {h statusCode : ℕ} {location : Option String}
    (hhop : (s.hops[h]?.any fun hop => hop.response.isNone) = true)
    (hchain : chain h = some (statusCode, location)) :
    FromChain chain s (.response h statusCode location) := by
  obtain ⟨hop, hhop, hresp⟩ := (Option.any_eq_true _ _).1 hhop
  exact ⟨⟨hop, hhop, by simpa using hresp⟩, hchain⟩

/-- The page is graded as one redirect too many. -/
theorem verdictMatches_fails_at_created :
    ¬∀ es s, Run (ChainStep (sampleProbe []) fiveRedirects) (probeOnce (sampleProbe []) 0) es s →
      VerdictMatches (sampleProbe []) fiveRedirects es s := by
  intro h
  have hrun : Run (ChainStep (sampleProbe []) fiveRedirects) (probeOnce (sampleProbe []) 0)
      [(1, .response 0 302 (some "/next")), (2, .response 1 302 (some "/next")),
        (3, .response 2 302 (some "/next")), (4, .response 3 302 (some "/next")),
        (5, .response 4 302 (some "/next")), (6, .response 5 201 (some "/next"))] _ :=
    .cons ⟨⟨by decide +kernel, rfl⟩, fromChain_response (by decide +kernel) rfl⟩
      (.cons ⟨⟨by decide +kernel, rfl⟩, fromChain_response (by decide +kernel) rfl⟩
      (.cons ⟨⟨by decide +kernel, rfl⟩, fromChain_response (by decide +kernel) rfl⟩
      (.cons ⟨⟨by decide +kernel, rfl⟩, fromChain_response (by decide +kernel) rfl⟩
      (.cons ⟨⟨by decide +kernel, rfl⟩, fromChain_response (by decide +kernel) rfl⟩
      (.cons ⟨⟨by decide +kernel, rfl⟩, fromChain_response (by decide +kernel) rfl⟩ (.nil _))))))
  have hverdict := (h _ _ hrun).verdict
    ⟨⟨.down, some 201, some "Exceeded 5 redirects", some "ERR_TOO_MANY_REDIRECTS", false⟩, 5, 0⟩
    (by decide +kernel)
  exact absurd hverdict (by decide +kernel)

end WatchTower

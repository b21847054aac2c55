import WatchTower.Probe.Callbacks
import WatchTower.Probe.CheckMonitor

set_option relaxedAutoImplicit false
set_option autoImplicit false

/-!
# Credentials stay with their origin

The caller's headers are bound to the origin the monitor was configured with. Each hop decides by
comparing the origin of its own URL, however that URL came about, with that of the initial one. The
comparison is one of serialised origins, and of nothing with nothing when neither URL parses; it
decides as it should because a request is made only for an `http:` or `https:` URL, and the first
hop is one.

## Main definitions

* `WatchTower.Probe.requests` — the requests a probe has issued: their URLs and headers.
* `WatchTower.Node.SameOrigin` — two URLs with scheme, host and port in common.
* `WatchTower.Node.SerializesOrigins` — what `url.origin` is.
* `WatchTower.Hop.CarriesCallerHeader` — a request with more than the headers every probe sends.

## Main results

* `WatchTower.Probe.requests_handle` — what a callback can request.
* `WatchTower.Probe.Bound.handle` — every request of a probe keeps the binding.
* `WatchTower.credentials_stay_with_origin` — no request of a check carries a caller's header to
  another origin.
-/

namespace WatchTower

open Transition

namespace Node

/-- Two URLs with the same scheme and the same `url.host`, which is the host with its port, where
that is not the scheme's own. -/
def SameOrigin (node : Node) (host : String → String) (url url' : String) : Prop :=
  ∃ parsed parsed', node.parse url = some parsed ∧ node.parse url' = some parsed' ∧
    parsed.protocol = parsed'.protocol ∧ host url = host url'

/-- The origin of an `http:` or `https:` URL is its scheme and its host, serialised. -/
def SerializesOrigins (node : Node) (host : String → String) : Prop :=
  ∀ url parsed, node.parse url = some parsed →
    (parsed.protocol = "https:" ∨ parsed.protocol = "http:") →
    parsed.origin = parsed.protocol ++ "//" ++ host url

/-- Serialised origins of requested URLs are equal only for the same scheme, host and port. -/
lemma SerializesOrigins.sameOrigin {node : Node} {host : String → String}
    (horigin : node.SerializesOrigins host) {url url' : String} (h : node.IsWeb url)
    (h' : node.IsWeb url') (heq : node.originOf url = node.originOf url') :
    node.SameOrigin host url url' := by
  obtain ⟨parsed, hparsed, hproto⟩ := h
  obtain ⟨parsed', hparsed', hproto'⟩ := h'
  have hserial : parsed.protocol ++ "//" ++ host url = parsed'.protocol ++ "//" ++ host url' := by
    rw [originOf, originOf, hparsed, hparsed', Option.map_some, Option.map_some,
      Option.some.injEq, horigin _ _ hparsed hproto, horigin _ _ hparsed' hproto'] at heq
    exact heq
  refine ⟨parsed, parsed', hparsed, hparsed', ?_⟩
  have hchars := congrArg String.toList hserial
  simp only [String.toList_append, List.append_assoc] at hchars
  -- The schemes differ in their fifth character, so they are equal, and then so are the hosts.
  have hhost : parsed.protocol = parsed'.protocol → host url = host url' := fun hp => by
    rw [hp, List.append_cancel_left_eq, List.append_cancel_left_eq, String.toList_inj] at hchars
    exact hchars
  rcases hproto with hp | hp <;> rcases hproto' with hp' | hp'
  · exact ⟨hp.trans hp'.symm, hhost (hp.trans hp'.symm)⟩
  · rw [hp, hp'] at hchars
    simp at hchars
  · rw [hp, hp'] at hchars
    simp at hchars
  · exact ⟨hp.trans hp'.symm, hhost (hp.trans hp'.symm)⟩

end Node

/-- A request with anything but the headers that every probe sends by itself. -/
def Hop.CarriesCallerHeader (hop : Hop) : Prop := hop.headers ≠ defaultHeaders

/-- A header of the caller's own is such. -/
lemma Hop.carriesCallerHeader_of_mem {hop : Hop} {header : String × String}
    (hmem : header ∈ hop.headers) (hown : header ∉ defaultHeaders) : hop.CarriesCallerHeader :=
  fun heq => hown (heq ▸ hmem)

namespace Probe

variable {env : ProbeEnv} {s s' : Probe} {t : ℕ}

/-! ## The requests of a probe -/

/-- The requests issued, with their URLs and headers, in order. -/
def requests (s : Probe) : List (String × Headers) := s.hops.map fun hop => (hop.url, hop.headers)

/-- A change of a hop that leaves its URL and its headers alone leaves the requests alone. -/
lemma requests_of_modify {h : ℕ} {f : Hop → Hop} (hhops : s'.hops = s.hops.modify h f)
    (hf : ∀ hop, (f hop).url = hop.url ∧ (f hop).headers = hop.headers) :
    s'.requests = s.requests := by
  rw [requests, requests, hhops]
  exact map_modify (fun hop => by rw [(hf hop).1, (hf hop).2]) _ _

/-- Settling leaves the requests alone. -/
@[simp] lemma requests_finish (s : Probe) (t : ℕ) (verdict : Verdict) :
    (s.finish t verdict).requests = s.requests :=
  map_hops_finish (fun _ => rfl) s t verdict

/-- And the initial origin. -/
@[simp] lemma initialOrigin_finish (s : Probe) (t : ℕ) (verdict : Verdict) :
    (s.finish t verdict).initialOrigin = s.initialOrigin := (finish_keeps s t verdict).1

/-- An answer leaves the requests alone. -/
@[simp] lemma requests_sawResponse (s : Probe) (t h statusCode : ℕ) :
    (s.sawResponse t h statusCode).requests = s.requests :=
  requests_of_modify rfl fun _ => ⟨rfl, rfl⟩

/-- **What a callback can request**: nothing, or, in answer to an earlier request, one more URL of
scheme `http:` or `https:`, with the headers for that URL. -/
theorem requests_handle (env : ProbeEnv) (s : Probe) (t : ℕ) (e : ProbeEvent) :
    (s.handle env t e).initialOrigin = s.initialOrigin ∧
      ((s.handle env t e).requests = s.requests ∨ s.requests ≠ [] ∧ ∃ url, env.node.IsWeb url ∧
        (s.handle env t e).requests = s.requests ++ [(url, outboundHeaders env s url)]) := by
  have hout := outcome_handle env s t e
  generalize s.handle env t e = s' at hout
  cases hout with
  | ignored => exact ⟨rfl, .inl rfl⟩
  | expired => exact ⟨initialOrigin_finish _ _ _, .inl (requests_finish _ _ _)⟩
  | graded => exact ⟨initialOrigin_finish _ _ _, .inl (requests_finish _ _ _)⟩
  | failed => exact ⟨initialOrigin_finish _ _ _, .inl (requests_finish _ _ _)⟩
  | received => exact ⟨rfl, .inl (requests_of_modify rfl fun _ => ⟨rfl, rfl⟩)⟩
  | marked => exact ⟨rfl, .inl (requests_of_modify rfl fun _ => ⟨rfl, rfl⟩)⟩
  | threw => exact ⟨rfl, .inl (requests_sawResponse _ _ _ _)⟩
  | refused =>
    exact ⟨initialOrigin_finish _ _ _,
      .inl ((requests_finish _ _ _).trans (requests_sawResponse _ _ _ _))⟩
  | @issued h statusCode location hop l next hhop hresp hf hnext hweb =>
    refine ⟨rfl, .inr ⟨?_, next, hweb, ?_⟩⟩
    · rw [requests, ne_eq, List.map_eq_nil_iff]
      exact List.ne_nil_of_mem (List.mem_of_getElem? hhop)
    · have hsaw := requests_sawResponse s t h statusCode
      rw [requests] at hsaw
      rw [requests, issue, countRedirect, List.map_append, hsaw]
      rfl
  | capped =>
    exact ⟨initialOrigin_finish _ _ _,
      .inl ((requests_finish _ _ _).trans (requests_sawResponse _ _ _ _))⟩
  | @listened h statusCode =>
    have hsaw := requests_sawResponse s t h statusCode
    refine ⟨rfl, .inl (.trans ?_ hsaw)⟩
    exact requests_of_modify (f := fun hop => { hop with listening := true }) rfl
      fun _ => ⟨rfl, rfl⟩

/-! ## The binding -/

/-- The headers that a request for a URL carries, by the caller's and the initial URL. -/
def headersFor (env : ProbeEnv) (url : String) : Headers :=
  spreadHeaders defaultHeaders
    (if env.node.originOf url = env.node.originOf env.rawUrl then env.headers else [])

/-- The requests of a probe are bound: the initial URL and each requested one have the scheme
`http:` or `https:`, and each request has the headers for its URL. -/
structure Bound (env : ProbeEnv) (s : Probe) : Prop where
  initial : s.initialOrigin = env.node.originOf env.rawUrl
  request : ∀ r ∈ s.requests, env.node.IsWeb env.rawUrl ∧ env.node.IsWeb r.1 ∧
    r.2 = headersFor env r.1

/-- In a bound probe the next headers are those for the URL. -/
lemma Bound.outboundHeaders (hs : s.Bound env) (url : String) :
    outboundHeaders env s url = headersFor env url := by
  rw [Probe.outboundHeaders, hs.initial, headersFor]

/-- **Every callback keeps the binding.** -/
theorem Bound.handle (hs : s.Bound env) (e : ProbeEvent) : (s.handle env t e).Bound env := by
  obtain ⟨hinitial, hsame | ⟨hne, url, hweb, hmore⟩⟩ := requests_handle env s t e
  · exact ⟨hinitial.trans hs.initial, fun r hr => hs.request r (hsame ▸ hr)⟩
  · refine ⟨hinitial.trans hs.initial, fun r hr => ?_⟩
    rw [hmore, List.mem_append, List.mem_singleton] at hr
    rcases hr with hr | rfl
    · exact hs.request r hr
    · obtain ⟨r₀, hr₀⟩ := List.exists_mem_of_ne_nil _ hne
      exact ⟨(hs.request r₀ hr₀).1, hweb, hs.outboundHeaders url⟩

/-- **The first request is bound.** -/
theorem bound_probeOnce (env : ProbeEnv) (t : ℕ) : (probeOnce env t).Bound env := by
  have hfresh : (fresh env t).Bound env := ⟨rfl, by simp [requests, fresh]⟩
  rcases request_cases env (fresh env t) t env.rawUrl with
    ⟨-, verdict, h⟩ | ⟨hweb, ⟨err, h⟩ | h⟩ <;> simp only [probeOnce, h]
  · refine ⟨by simp [hfresh.initial], ?_⟩
    rw [requests_finish]
    exact hfresh.request
  · exact ⟨rfl, by simp [requests, fresh]⟩
  · refine ⟨rfl, fun r hr => ?_⟩
    have hr' : r = (env.rawUrl, outboundHeaders env (fresh env t) env.rawUrl) := by
      simpa [requests, issue, fresh, newHop] using hr
    subst hr'
    exact ⟨hweb, hweb, hfresh.outboundHeaders env.rawUrl⟩

/-- A bound request with a caller's header goes to the initial origin. -/
lemma Bound.sameOrigin (hs : s.Bound env) {host : String → String}
    (horigin : env.node.SerializesOrigins host) {hop : Hop} (hhop : hop ∈ s.hops)
    (hcarries : hop.CarriesCallerHeader) : env.node.SameOrigin host hop.url env.rawUrl := by
  obtain ⟨hinitial, hweb, hheaders⟩ := hs.request (hop.url, hop.headers)
    (List.mem_map.2 ⟨hop, hhop, rfl⟩)
  refine horigin.sameOrigin hweb hinitial ?_
  by_contra hne
  rw [headersFor, if_neg hne] at hheaders
  exact hcarries hheaders

end Probe

/-! ## Every attempt of a check -/

/-- **Credentials never leave their origin.** In every state of a check, whatever the redirects, the
events and the attempts were, a request with a caller's header goes to a URL with the scheme, the
host and the port of the monitored one. -/
theorem credentials_stay_with_origin (env : LadderEnv) (host : String → String)
    (horigin : env.node.SerializesOrigins host) {t : ℕ} {es : List LadderEvent} {s : Ladder}
    (hrun : Run (LadderStep env) (checkMonitor env t) es s) :
    ∀ p ∈ s.probes, ∀ hop ∈ p.hops, hop.CarriesCallerHeader →
      env.node.SameOrigin host hop.url env.url := by
  have hstep : ∀ (s : Ladder) e s', (∀ p ∈ s.probes, p.Bound env.probe) → LadderStep env s e s' →
      ∀ p ∈ s'.probes, p.Bound env.probe := by
    intro s e s' hs hstep p hp
    cases hstep with
    | @probe k e =>
      obtain ⟨i, hi⟩ := List.mem_iff_getElem?.1 hp
      rw [List.getElem?_modify] at hi
      obtain ⟨q, hq, rfl⟩ := Option.map_eq_some_iff.1 hi
      have hbound := hs q (List.mem_of_getElem? hq)
      split_ifs
      · exact hbound.handle e.2
      · exact hbound
    | resume => exact hs p hp
    | rejected => exact hs p hp
    | wake =>
      rcases List.mem_append.1 hp with hp | hp
      · exact hs p hp
      · obtain rfl := List.mem_singleton.1 hp
        exact Probe.bound_probeOnce env.probe _
  have hstart : ∀ p ∈ (checkMonitor env t).probes, p.Bound env.probe := by
    intro p hp
    obtain rfl := List.mem_singleton.1 hp
    exact Probe.bound_probeOnce env.probe t
  have hbound := hrun.invariant hstep hstart
  exact fun p hp hop hhop hcarries => (hbound p hp).sameOrigin horigin hhop hcarries

/-- Node at two sites. -/
def twoSites : Node where
  parse text :=
    if text = "https://a.test/" then some ⟨"https:", "https://a.test"⟩
    else if text = "http://b.test/" then some ⟨"http:", "http://b.test"⟩
    else none
  resolve reference _ := .ok reference
  requestThrows _ _ := none
  endThrows _ _ := none
  numberToString _ := "10000"

/-- A check of the first with a credential. -/
def twoSitesCheck : LadderEnv where
  config := schedulerConfig
  node := twoSites
  url := "https://a.test/"
  options := ⟨10000, 2, false, [("Authorization", "Bearer secret")]⟩

/-- A chain that leaves the origin and returns: the credential is sent with the first and the third
request, and not with the second. -/
theorem credentials_stay_with_origin_away_and_back :
    ∃ s, Run (LadderStep twoSitesCheck) (checkMonitor twoSitesCheck 0)
        [.probe 0 (1, .response 0 302 (some "http://b.test/")),
          .probe 0 (2, .response 1 302 (some "https://a.test/"))] s ∧
      (s.probes.map fun p => p.hops.map fun hop => decide (hop.headers = defaultHeaders)) =
        [[false, true, false]] ∧
      ∀ p ∈ s.probes, ∀ hop ∈ p.hops, hop.CarriesCallerHeader →
        twoSites.SameOrigin (fun url => if url = "https://a.test/" then "a.test" else "b.test")
          hop.url "https://a.test/" := by
  have horigin : twoSites.SerializesOrigins fun url =>
      if url = "https://a.test/" then "a.test" else "b.test" := by
    intro url parsed hparsed _
    simp only [twoSites] at hparsed
    split_ifs at hparsed with ha hb
    · obtain rfl := Option.some.inj hparsed
      subst ha
      decide +kernel
    · obtain rfl := Option.some.inj hparsed
      subst hb
      decide +kernel
  have hrun : Run (LadderStep twoSitesCheck) (checkMonitor twoSitesCheck 0)
      [.probe 0 (1, .response 0 302 (some "http://b.test/")),
        .probe 0 (2, .response 1 302 (some "https://a.test/"))] _ :=
    .cons (.probe (by decide +kernel)) (.cons (.probe (by decide +kernel)) (.nil _))
  exact ⟨_, hrun, by decide +kernel, credentials_stay_with_origin twoSitesCheck _ horigin hrun⟩

end WatchTower

import WatchTower.Probe.HopIsolation
import WatchTower.Probe.Teardown

set_option relaxedAutoImplicit false
set_option autoImplicit false

/-!
# The phase timings of a probe

The marks of a connection are local to its hop and are added up over the chain, while `ttfb` is
overwritten by every response. So the marks of a hop can only be compared with `ttfb` once the hop
has answered. A probe that settles between a redirect and the next answer keeps the `ttfb` of the
redirect. And the result shares the `timings` object with the callbacks, so a phase that Node
reports after the probe has settled is still added to it.

## Main definitions

* `WatchTower.Timings.setup` — the setup cost of all connections.
* `WatchTower.Probe.Coherent` — the law of the timings of a settled probe.
* `WatchTower.ClockedProbe`, `WatchTower.ClockedStep` — a probe with the last reading of the clock;
  the clock does not go back, and the phases of a connection come in order.
* `WatchTower.Probe.Timed` — the invariant: what the timings and the marks say about the clock.
* `WatchTower.Probe.SettlesAnswered`, `WatchTower.Probe.MarksInTime` — the last hop has answered
  when a chain settles; a phase after that lies within the total.

## Main results

* `WatchTower.Probe.Timed.handle` — every callback keeps the invariant.
* `WatchTower.phaseTimings_iff` — the timings are coherent, throughout a run, exactly when the probe
  settles with its last hop answered, and later phases lie within the total.
-/

namespace WatchTower

open Transition

/-- The setup cost of all connections, a phase that was not observed counted as nothing. -/
def Timings.setup (timings : Timings) : ℕ :=
  timings.dns.getD 0 + timings.tcp.getD 0 + timings.tls.getD 0

/-- The part of a hop that its marks account for. -/
def Hop.marked (hop : Hop) : ℕ := hop.socket.elim 0 fun k => k.hopDns.getD 0 + k.hopTcp.getD 0

/-- The TLS handshake of a hop has been seen. -/
def Hop.secured (hop : Hop) : Bool := hop.socket.any (·.secure)

/-- What the timings depend on in a hop. -/
def Hop.pace (hop : Hop) : ℕ × Option ℕ × ℕ × Bool :=
  (hop.hopStart, hop.response, hop.marked, hop.secured)

/-- A probe with the last reading of the monotonic clock. -/
structure ClockedProbe where
  /-- The probe. -/
  probe : Probe
  /-- The reading. -/
  clock : ℕ

/-! ## Elapsed time -/

section MsSince

variable {t start n : ℕ}

/-- Whole milliseconds are rounded down. -/
lemma add_msSince_le (h : start ≤ t) : start + msSince t start * 1000000 ≤ t := by
  unfold msSince
  omega

/-- What has passed has been counted. -/
lemma le_msSince (h : start + n * 1000000 ≤ t) : n ≤ msSince t start := by
  unfold msSince
  omega

end MsSince

namespace Probe

variable {env : ProbeEnv} {s s' : Probe} {t c : ℕ} {e : ProbeEvent}

/-- The last hop has been answered. -/
def Answered (s : Probe) : Prop := ∃ hop, s.hops.getLast? = some hop ∧ hop.response.isSome = true

/-- **The law of the timings of a settled probe.** `ttfb` is that of the last hop, it covers the
setup cost, and the total covers both. -/
structure Coherent (s : Probe) : Prop where
  final : s.timings.ttfb.isSome = true → s.Answered
  ttfb : ∀ f, s.timings.ttfb = some f →
    s.timings.setup ≤ f ∧ ∃ total, s.timings.total = some total ∧ f ≤ total
  total : ∃ total, s.timings.total = some total ∧ s.timings.setup ≤ total

/-! ## The order of events -/

/-- A hop has no answer yet, and its marks are as they are before a phase. -/
def Before (s : Probe) (h : ℕ) (unmarked : SocketMarks → Prop) : Prop :=
  ∀ hop, s.hops[h]? = some hop →
    hop.response = none ∧ ∀ k, hop.socket = some k → unmarked k

/-- The phases of a connection come in order, and before the response on it. -/
def InOrder (s : Probe) : ProbeEvent → Prop
  | .lookup h => s.Before h fun k => k.hopTcp = none ∧ k.secure = false
  | .connect h => s.Before h fun k => k.secure = false
  | .secureConnect h => s.Before h fun _ => True
  | _ => True

/-- A phase listener is attached to the socket of a hop, and has not been called. -/
def Listens (s : Probe) (h : ℕ) (seen : SocketMarks → Bool) : Prop :=
  ∃ hop k, s.hops[h]? = some hop ∧ hop.socket = some k ∧ k.connecting = true ∧ seen k = false

/-- The phases that a listener waits for. -/
def Heeds (s : Probe) : ProbeEvent → Prop
  | .lookup h => s.Listens h (·.hopDns.isSome)
  | .connect h => s.Listens h (·.hopTcp.isSome)
  | .secureConnect h => s.Listens h (·.secure)
  | _ => False

end Probe

/-- The callbacks of a probe, of events that Node emits in order, at readings of a clock that does
not go back. -/
def ClockedStep (env : ProbeEnv) (s : ClockedProbe) (e : TimedEvent) (s' : ClockedProbe) : Prop :=
  s.clock ≤ e.1 ∧ s'.clock = e.1 ∧ Probe.NodeStep env s.probe e s'.probe ∧ s.probe.InOrder e.2

namespace Probe

variable {env : ProbeEnv} {s s' : Probe} {t c : ℕ} {e : ProbeEvent}

/-! ## The invariant -/

/-- A hop that waits for its answer: `earlier` is the setup cost of the hops before it, and unless
its handshake is complete, what its marks account for is the rest. -/
def Waits (s : Probe) (c : ℕ) (hop : Hop) : Prop :=
  ∃ earlier, s.started + earlier * 1000000 ≤ hop.hopStart ∧
    (s.hops.length = 1 → earlier = 0 ∧ hop.hopStart = s.started) ∧
    (hop.secured = false →
      s.timings.setup = earlier + hop.marked ∧ hop.hopStart + hop.marked * 1000000 ≤ c)

/-- A settled probe has destroyed its last request, and its total covers `ttfb`. -/
def Finished (s : Probe) : Prop :=
  (∀ hop, s.hops.getLast? = some hop → hop.destroyed = true) ∧
    ∃ total, s.timings.total = some total ∧ ∀ f, s.timings.ttfb = some f → f ≤ total

/-- What the timings and the marks say about the clock. -/
structure Timed (s : Probe) (c : ℕ) : Prop where
  started : s.started ≤ c
  hopStarted : ∀ hop ∈ s.hops, hop.hopStart ≤ c
  setup : s.started + s.timings.setup * 1000000 ≤ c
  ttfb : ∀ f, s.timings.ttfb = some f → s.started + f * 1000000 ≤ c
  answered : s.timings.ttfb.isSome = true ↔ ∃ hop ∈ s.hops, hop.response.isSome = true
  waits : ∀ hop, s.hops.getLast? = some hop → hop.response = none → s.Waits c hop
  covered : s.Answered → ∀ f, s.timings.ttfb = some f → s.timings.setup ≤ f
  settled : s.settled = true → s.Finished

/-- The clock goes on. -/
lemma Timed.mono (hs : s.Timed c) (h : c ≤ t) : s.Timed t where
  started := hs.started.trans h
  hopStarted hop hhop := (hs.hopStarted hop hhop).trans h
  setup := hs.setup.trans h
  ttfb f hf := (hs.ttfb f hf).trans h
  answered := hs.answered
  waits hop hhop hresp := by
    obtain ⟨earlier, hstart, hfirst, hmarks⟩ := hs.waits hop hhop hresp
    exact ⟨earlier, hstart, hfirst, fun hsec => ⟨(hmarks hsec).1, (hmarks hsec).2.trans h⟩⟩
  covered := hs.covered
  settled := hs.settled

/-- The last hop, up to its pace. -/
lemma exists_last_of_pace (h : s'.hops.map Hop.pace = s.hops.map Hop.pace) {hop' : Hop}
    (hlast : s'.hops.getLast? = some hop') :
    ∃ hop, s.hops.getLast? = some hop ∧ hop'.pace = hop.pace := by
  have hmap := congrArg List.getLast? h
  rw [List.getLast?_map, List.getLast?_map, hlast, Option.map_some] at hmap
  obtain ⟨hop, hhop, heq⟩ := Option.map_eq_some_iff.1 hmap.symm
  exact ⟨hop, hhop, heq.symm⟩

/-- A change that keeps the pace of every hop. -/
lemma Timed.of_pace (hs : s.Timed t) (hstarted : s'.started = s.started)
    (hsetup : s'.timings.setup = s.timings.setup) (httfb : s'.timings.ttfb = s.timings.ttfb)
    (hpace : s'.hops.map Hop.pace = s.hops.map Hop.pace)
    (hsettled : s'.settled = true → s'.Finished) : s'.Timed t := by
  have hlen : s'.hops.length = s.hops.length := by simpa using congrArg List.length hpace
  have hmem : ∀ hop' ∈ s'.hops, ∃ hop ∈ s.hops, hop.pace = hop'.pace := fun hop' h =>
    List.mem_map.1 (hpace ▸ List.mem_map_of_mem h)
  have hmem' : ∀ hop ∈ s.hops, ∃ hop' ∈ s'.hops, hop'.pace = hop.pace := fun hop h =>
    List.mem_map.1 (hpace ▸ List.mem_map_of_mem h)
  constructor
  · exact hstarted ▸ hs.started
  · intro hop' hhop'
    obtain ⟨hop, hhop, heq⟩ := hmem hop' hhop'
    simp only [Hop.pace, Prod.mk.injEq] at heq
    exact heq.1 ▸ hs.hopStarted hop hhop
  · rw [hstarted, hsetup]
    exact hs.setup
  · rw [hstarted, httfb]
    exact hs.ttfb
  · rw [httfb, hs.answered]
    constructor
    · rintro ⟨hop, hhop, hresp⟩
      obtain ⟨hop', hhop', heq⟩ := hmem' hop hhop
      simp only [Hop.pace, Prod.mk.injEq] at heq
      exact ⟨hop', hhop', heq.2.1 ▸ hresp⟩
    · rintro ⟨hop', hhop', hresp⟩
      obtain ⟨hop, hhop, heq⟩ := hmem hop' hhop'
      simp only [Hop.pace, Prod.mk.injEq] at heq
      exact ⟨hop, hhop, heq.2.1 ▸ hresp⟩
  · intro hop' hhop' hresp
    obtain ⟨hop, hhop, heq⟩ := exists_last_of_pace hpace hhop'
    simp only [Hop.pace, Prod.mk.injEq] at heq
    obtain ⟨hstart, hr, hmarked, hsec⟩ := heq
    have hwaits := hs.waits hop hhop (hr ▸ hresp)
    simpa only [Waits, hstarted, hsetup, hlen, hstart, hmarked, hsec] using hwaits
  · rintro ⟨hop', hhop', hresp⟩
    obtain ⟨hop, hhop, heq⟩ := exists_last_of_pace hpace hhop'
    simp only [Hop.pace, Prod.mk.injEq] at heq
    rw [hsetup, httfb]
    exact hs.covered ⟨hop, hhop, heq.2.1 ▸ hresp⟩
  · exact hsettled

/-! ## What the callbacks keep -/

/-- A change of one hop that keeps its pace, and what is destroyed. -/
lemma Timed.setHop (hs : s.Timed t) (h : ℕ) {f : Hop → Hop}
    (hpace : ∀ hop, s.hops[h]? = some hop → (f hop).pace = hop.pace)
    (hdestroyed : ∀ hop, (f hop).destroyed = hop.destroyed) : (s.setHop h f).Timed t := by
  refine hs.of_pace rfl rfl rfl (map_modify_of_getElem? hpace) fun hsettled => ?_
  obtain ⟨hlast, htotal⟩ := hs.settled hsettled
  refine ⟨fun hop hhop => ?_, htotal⟩
  simp only [Probe.setHop, getLast?_modify] at hhop
  split_ifs at hhop
  · obtain ⟨hop', hhop', rfl⟩ := Option.map_eq_some_iff.1 hhop
    rw [hdestroyed]
    exact hlast hop' hhop'
  · exact hlast hop hhop

/-- The timings after a verdict. -/
lemma timings_finish (hsettled : s.settled = false) (verdict : Verdict) :
    (s.finish t verdict).timings = { s.timings with total := some (msSince t s.started) } := by
  simp only [finish, hsettled, Bool.false_eq_true, if_false, destroyCurrent, resolve]
  cases s.currentReq <;> rfl

/-- A verdict does not change when the probe started. -/
lemma started_finish (s : Probe) (t : ℕ) (verdict : Verdict) :
    (s.finish t verdict).started = s.started := by
  unfold finish
  split_ifs
  · rfl
  · simp only [destroyCurrent, resolve]
    cases s.currentReq <;> rfl

/-- A verdict destroys the last request, and its total covers what has been measured. -/
lemma finished_finish (hchain : s.Chained) (hs : s.Timed t) (hsettled : s.settled = false)
    (verdict : Verdict) : (s.finish t verdict).Finished := by
  refine ⟨fun hop hhop => ?_, msSince t s.started, by rw [timings_finish hsettled], fun f hf => ?_⟩
  · have hlt := (List.getElem?_eq_some_iff.1 (List.getLast?_eq_getElem? ▸ hhop)).1
    have hlen : (s.finish t verdict).hops.length = s.hops.length := by
      simpa using congrArg List.length (map_hops_finish (g := Hop.url) (fun _ => rfl) s t verdict)
    rw [List.getLast?_eq_getElem?] at hhop
    exact (hops_of_settles hchain hsettled (.refl s) hhop).1 (by omega)
  · rw [timings_finish hsettled] at hf
    exact le_msSince (hs.ttfb f hf)

/-- A verdict keeps the invariant. -/
lemma Timed.finish (hs : s.Timed t) (hchain : s.Chained) (verdict : Verdict) :
    (s.finish t verdict).Timed t := by
  cases hsettled : s.settled with
  | true => rwa [finish_of_settled hsettled]
  | false =>
    refine hs.of_pace (started_finish s t verdict) ?_ ?_
      (map_hops_finish (fun _ => rfl) s t verdict)
      fun _ => finished_finish hchain hs hsettled verdict
    · rw [timings_finish hsettled, Timings.setup, Timings.setup]
    · rw [timings_finish hsettled]

/-- The first byte of the answer of the last hop covers the setup cost so far. -/
lemma Timed.sawResponse (hs : s.Timed t) {h : ℕ} {hop : Hop} (hhop : s.hops[h]? = some hop)
    (hlast : h + 1 = s.hops.length) (hsettled : s.settled = false) (statusCode : ℕ) :
    (s.sawResponse t h statusCode).Timed t := by
  have hnew := getElem?_sawResponse t statusCode hhop
  have hgetLast : (s.sawResponse t h statusCode).hops.getLast? =
      some { hop with response := some statusCode } := by
    rw [List.getLast?_eq_getElem?, ← hnew]
    simp [Probe.sawResponse, Probe.setHop, ← hlast]
  constructor
  · exact hs.started
  · intro hop' hhop'
    obtain ⟨i, hi⟩ := List.mem_iff_getElem?.1 hhop'
    simp only [Probe.sawResponse, Probe.setHop, List.getElem?_modify] at hi
    obtain ⟨hop₀, hhop₀, rfl⟩ := Option.map_eq_some_iff.1 hi
    have := hs.hopStarted hop₀ (List.mem_of_getElem? hhop₀)
    split_ifs <;> exact this
  · exact hs.setup
  · intro f hf
    obtain rfl := Option.some.inj hf
    exact add_msSince_le hs.started
  · exact iff_of_true rfl ⟨_, List.mem_of_getElem? hnew, rfl⟩
  · intro hop' hhop' hresp
    rw [hgetLast, Option.some.injEq] at hhop'
    subst hhop'
    cases hresp
  · intro _ f hf
    obtain rfl := Option.some.inj hf
    exact le_msSince hs.setup
  · intro h
    rw [show (s.sawResponse t _ statusCode).settled = s.settled from rfl, hsettled] at h
    cases h

/-- One more request, once the last hop has been answered, waits from now on. -/
lemma Timed.issue (hs : s.Timed t) {url : String} (hlast : s.Answered)
    (hsettled : s.settled = false) : (s.issue env t url).Timed t := by
  have hsome : s.timings.ttfb.isSome = true := by
    obtain ⟨hop, hhop, hresp⟩ := hlast
    exact hs.answered.2 ⟨hop, List.mem_of_getLast? hhop, hresp⟩
  have hne : s.hops ≠ [] := by
    obtain ⟨hop, hhop, -⟩ := hlast
    exact List.ne_nil_of_mem (List.mem_of_getLast? hhop)
  constructor
  · exact hs.started
  · intro hop hhop
    rcases List.mem_append.1 hhop with h | h
    · exact hs.hopStarted hop h
    · rw [List.mem_singleton.1 h]
      exact le_rfl
  · exact hs.setup
  · exact hs.ttfb
  · refine iff_of_true hsome ?_
    obtain ⟨hop, hhop, hresp⟩ := hs.answered.1 hsome
    exact ⟨hop, List.mem_append_left _ hhop, hresp⟩
  · intro hop hhop _
    simp only [Probe.issue, List.getLast?_append, List.getLast?_singleton, Option.some_or,
      Option.some.injEq] at hhop
    subst hhop
    refine ⟨s.timings.setup, hs.setup, fun hlen => ?_, fun _ =>
      ⟨rfl, by simp [newHop, Hop.marked]⟩⟩
    have := List.length_pos_iff.2 hne
    simp only [Probe.issue, List.length_append, List.length_singleton] at hlen
    omega
  · rintro ⟨hop, hhop, hresp⟩
    simp only [Probe.issue, List.getLast?_append, List.getLast?_singleton, Option.some_or,
      Option.some.injEq] at hhop
    subst hhop
    cases hresp
  · intro h
    rw [show (s.issue env t url).settled = s.settled from rfl, hsettled] at h
    cases h

/-- What the response callback of a hop leads to: an exception, a verdict, one more request, or
listeners on the body. -/
lemma onResponse_rule {P : Probe → Prop} {h statusCode : ℕ} {location : Option String} {hop : Hop}
    (hthrow : ∀ err, P ((s.sawResponse t h statusCode).countRedirect.throw err))
    (hrefuse : ∀ verdict, P ((s.sawResponse t h statusCode).countRedirect.finish t verdict))
    (hissue : ∀ next, P ((s.sawResponse t h statusCode).countRedirect.issue env t next))
    (hcap : ∀ verdict, P ((s.sawResponse t h statusCode).finish t verdict))
    (hlisten : P ((s.sawResponse t h statusCode).setHop h fun hop =>
      { hop with listening := true })) :
    P (s.onResponse env t h hop statusCode location) := by
  unfold onResponse
  dsimp only
  cases (s.sawResponse t h statusCode).followed env statusCode location with
  | some l =>
    dsimp only
    rcases follow_cases env (s.sawResponse t h statusCode) t hop.url l with
      ⟨-, err, h⟩ | ⟨_, -, -, verdict, h⟩ | ⟨next, -, -, h⟩ <;> rw [h]
    · exact hthrow err
    · exact hrefuse verdict
    · exact hissue next
  | none =>
    dsimp only
    split_ifs
    · exact hcap _
    · exact hlisten

/-- A redirect that is counted takes no time. -/
lemma Timed.countRedirect (hs : s.Timed t) : s.countRedirect.Timed t :=
  hs.of_pace rfl rfl rfl rfl hs.settled

/-- Before a probe has settled, a response keeps the invariant. -/
lemma Timed.onResponse (hs : s.Timed t) (hchain : s.Chained) {h : ℕ} {hop : Hop}
    (hhop : s.hops[h]? = some hop) (hresp : hop.response = none) (hsettled : s.settled = false)
    (statusCode : ℕ) (location : Option String) :
    (s.onResponse env t h hop statusCode location).Timed t := by
  have hlast := hchain.last_of_unanswered hhop hresp
  have hsaw := hs.sawResponse hhop hlast hsettled statusCode
  have hchain' := hchain.sawResponse (t := t) h statusCode
  have hanswered : (s.sawResponse t h statusCode).countRedirect.Answered := by
    refine ⟨{ hop with response := some statusCode }, ?_, rfl⟩
    rw [Probe.countRedirect, List.getLast?_eq_getElem?, ← getElem?_sawResponse t statusCode hhop]
    simp [Probe.sawResponse, Probe.setHop, ← hlast]
  refine onResponse_rule (P := fun s' => s'.Timed t) (fun err => ?_) (fun verdict => ?_)
    (fun next => ?_) (fun verdict => ?_) ?_
  · exact hsaw.countRedirect.of_pace rfl rfl rfl rfl hsaw.countRedirect.settled
  · exact hsaw.countRedirect.finish hchain'.countRedirect verdict
  · exact hsaw.countRedirect.issue hanswered hsettled
  · exact hsaw.finish hchain' verdict
  · exact hsaw.setHop h (fun _ _ => rfl) fun _ => rfl

/-! ## The marks of a connection -/

/-- What a phase that is heeded makes of the probe: the time since the last mark of the hop is
added, and the new mark accounts for all of it. -/
structure Marks (s : Probe) (t : ℕ) (h : ℕ) (hop : Hop) (s' : Probe) : Prop where
  found : s.hops[h]? = some hop
  unanswered : hop.response = none
  unsecured : hop.secured = false
  setup : s'.timings.setup = s.timings.setup + (msSince t hop.hopStart - hop.marked)
  ttfb : s'.timings.ttfb = s.timings.ttfb
  total : s'.timings.total = s.timings.total
  started : s'.started = s.started
  settled : s'.settled = s.settled
  hops : ∃ marks : SocketMarks,
    s'.hops = s.hops.modify h (fun hop => { hop with socket := some marks }) ∧
    (marks.secure = false → marks.hopDns.getD 0 + marks.hopTcp.getD 0 =
      hop.marked + (msSince t hop.hopStart - hop.marked))

/-- A phase that is heeded in order marks the hop. -/
lemma marks_of_heeds (env : ProbeEnv) (t : ℕ) (horder : s.InOrder e) (hheeds : s.Heeds e) :
    ∃ h hop, s.Marks t h hop (s.handle env t e) := by
  cases e with
  | lookup h =>
    obtain ⟨hop, k, hhop, hsocket, hconnecting, hseen⟩ := hheeds
    obtain ⟨hresp, horder⟩ := horder hop hhop
    obtain ⟨htcp, hsecure⟩ := horder k hsocket
    have hdns : k.hopDns = none := by simpa using hseen
    have hheard : s.handle env t (.lookup h) = s.onLookup t h hop k := by
      simp [handle, onPhase, hhop, hsocket, hconnecting, hdns]
    have hmarked : hop.marked = 0 := by simp [Hop.marked, hsocket, hdns, htcp]
    rw [hheard]
    refine ⟨h, hop, hhop, hresp, by simp [Hop.secured, hsocket, hsecure], ?_, rfl, rfl, rfl, rfl,
      { k with hopDns := some (msSince t hop.hopStart) }, rfl, fun _ => ?_⟩
    · simp only [onLookup, setSocket, Probe.setHop, Timings.setup, Option.getD_some, hmarked]
      omega
    · simp only [htcp, hmarked, Option.getD_some, Option.getD_none]
      omega
  | connect h =>
    obtain ⟨hop, k, hhop, hsocket, hconnecting, hseen⟩ := hheeds
    obtain ⟨hresp, horder⟩ := horder hop hhop
    have hsecure := horder k hsocket
    have htcp : k.hopTcp = none := by simpa using hseen
    have hheard : s.handle env t (.connect h) = s.onConnect t h hop k := by
      simp [handle, onPhase, hhop, hsocket, hconnecting, htcp]
    have hmarked : hop.marked = k.hopDns.getD 0 := by simp [Hop.marked, hsocket, htcp]
    rw [hheard]
    refine ⟨h, hop, hhop, hresp, by simp [Hop.secured, hsocket, hsecure], ?_, rfl, rfl, rfl, rfl,
      { k with hopTcp := some (msSince t hop.hopStart - k.hopDns.getD 0) }, rfl, fun _ => ?_⟩
    · simp only [onConnect, setSocket, Probe.setHop, Timings.setup, Option.getD_some, hmarked]
      omega
    · simp only [hmarked, Option.getD_some]
  | secureConnect h =>
    obtain ⟨hop, k, hhop, hsocket, hconnecting, hsecure⟩ := hheeds
    obtain ⟨hresp, -⟩ := horder hop hhop
    have hheard : s.handle env t (.secureConnect h) = s.onSecureConnect t h hop k := by
      simp [handle, onPhase, hhop, hsocket, hconnecting, hsecure]
    have hmarked : hop.marked = k.hopDns.getD 0 + k.hopTcp.getD 0 := by simp [Hop.marked, hsocket]
    rw [hheard]
    refine ⟨h, hop, hhop, hresp, by simpa [Hop.secured, hsocket] using hsecure, ?_, rfl, rfl, rfl,
      rfl, { k with secure := true }, rfl, fun h => by cases h⟩
    simp only [onSecureConnect, setSocket, Probe.setHop, Timings.setup, Option.getD_some, hmarked]
    omega
  | _ => exact hheeds.elim

/-- A phase that no listener waits for does nothing. -/
lemma handle_of_not_heeds (hphase : e.IsPhase) (hheeds : ¬s.Heeds e) : s.handle env t e = s := by
  have hignored : ∀ (h : ℕ) (seen : SocketMarks → Bool) (f : Hop → SocketMarks → Probe),
      ¬s.Listens h seen → s.onPhase h seen f = s := by
    intro h seen f hnot
    unfold onPhase
    cases hhop : s.hops[h]? with
    | none => rfl
    | some hop =>
      cases hsocket : hop.socket with
      | none => simp [hsocket]
      | some k =>
        dsimp only
        rw [hsocket]
        refine if_neg fun hk => hnot ⟨hop, k, hhop, hsocket, ?_⟩
        simpa using hk
  cases e with
  | lookup h => exact hignored _ _ _ hheeds
  | connect h => exact hignored _ _ _ hheeds
  | secureConnect h => exact hignored _ _ _ hheeds
  | _ => exact hphase.elim

/-- A hop that is marked is the last one. -/
lemma Marks.getLast? {h : ℕ} {hop : Hop} (hm : s.Marks t h hop s') (hchain : s.Chained) :
    h + 1 = s.hops.length ∧ s.hops.getLast? = some hop := by
  have hlast := hchain.last_of_unanswered hm.found hm.unanswered
  refine ⟨hlast, ?_⟩
  rw [List.getLast?_eq_getElem?, ← hlast, Nat.add_sub_cancel, hm.found]

/-- The setup cost after a mark: that of the earlier hops, and all the time of the last one. -/
lemma Marks.setup_eq {h : ℕ} {hop : Hop} (hm : s.Marks t h hop s') (hchain : s.Chained)
    (hs : s.Timed t) : ∃ earlier, s.started + earlier * 1000000 ≤ hop.hopStart ∧
      (s.hops.length = 1 → earlier = 0 ∧ hop.hopStart = s.started) ∧
      hop.marked ≤ msSince t hop.hopStart ∧
      s'.timings.setup = earlier + msSince t hop.hopStart := by
  obtain ⟨earlier, hstart, hfirst, hmarks⟩ :=
    hs.waits hop (hm.getLast? hchain).2 hm.unanswered
  obtain ⟨hsetup, hmarked⟩ := hmarks hm.unsecured
  have hle := le_msSince hmarked
  exact ⟨earlier, hstart, hfirst, hle, by rw [hm.setup, hsetup]; omega⟩

/-- A mark keeps the invariant. -/
lemma Marks.timed {h : ℕ} {hop : Hop} (hm : s.Marks t h hop s') (hchain : s.Chained)
    (hs : s.Timed t) : s'.Timed t := by
  obtain ⟨hlen, hgetLast⟩ := hm.getLast? hchain
  obtain ⟨earlier, hstart, hfirst, hmarked, hsetup⟩ := hm.setup_eq hchain hs
  obtain ⟨marks, hhops, hmarks⟩ := hm.hops
  have hgetLast' : s'.hops.getLast? = some { hop with socket := some marks } := by
    rw [hhops, getLast?_modify, if_pos hlen, hgetLast, Option.map_some]
  have hlen' : s'.hops.length = s.hops.length := by rw [hhops, List.length_modify]
  have hmap : s'.hops.map (fun hop => (hop.hopStart, hop.response)) =
      s.hops.map fun hop => (hop.hopStart, hop.response) := by
    rw [hhops]
    refine map_modify (g := fun hop => (hop.hopStart, hop.response)) ?_ s.hops h
    exact fun _ => rfl
  have hpassed := add_msSince_le (hs.hopStarted hop (List.mem_of_getElem? hm.found))
  constructor
  · exact hm.started ▸ hs.started
  · intro hop' hhop'
    obtain ⟨hop₀, hhop₀, heq⟩ := List.mem_map.1 (hmap ▸ List.mem_map_of_mem hhop')
    rw [Prod.mk.injEq] at heq
    exact heq.1 ▸ hs.hopStarted hop₀ hhop₀
  · rw [hm.started, hsetup, Nat.add_mul, ← Nat.add_assoc]
    exact (Nat.add_le_add_right hstart _).trans hpassed
  · rw [hm.started, hm.ttfb]
    exact hs.ttfb
  · rw [hm.ttfb, hs.answered]
    have hany : ∀ l : List Hop, (∃ hop ∈ l, hop.response.isSome = true) ↔
        ∃ p ∈ l.map fun hop => (hop.hopStart, hop.response), p.2.isSome = true := by
      intro l
      simp
    rw [hany, hany, hmap]
  · intro hop' hhop' _
    obtain rfl := Option.some.inj (hgetLast'.symm.trans hhop')
    refine ⟨earlier, hm.started ▸ hstart, fun hone => ?_, fun hsec => ?_⟩
    · rw [hm.started]
      exact hfirst (hlen' ▸ hone)
    · have hall : ({ hop with socket := some marks } : Hop).marked = msSince t hop.hopStart := by
        have := hmarks (by simpa [Hop.secured] using hsec)
        simp only [Hop.marked, Option.elim_some] at this hmarked ⊢
        omega
      rw [hall, hsetup]
      exact ⟨rfl, hpassed⟩
  · rintro ⟨hop', hhop', hresp⟩
    obtain rfl := Option.some.inj (hgetLast'.symm.trans hhop')
    simp [hm.unanswered] at hresp
  · intro hsettled
    obtain ⟨hlast, htotal⟩ := hs.settled (hm.settled ▸ hsettled)
    refine ⟨fun hop' hhop' => ?_, hm.total ▸ hm.ttfb ▸ htotal⟩
    obtain rfl := Option.some.inj (hgetLast'.symm.trans hhop')
    exact hlast hop hgetLast

/-- A phase keeps the invariant. -/
lemma Timed.phase (hs : s.Timed t) (hchain : s.Chained) (hphase : e.IsPhase)
    (horder : s.InOrder e) : (s.handle env t e).Timed t := by
  by_cases hheeds : s.Heeds e
  · obtain ⟨h, hop, hm⟩ := marks_of_heeds env t horder hheeds
    exact hm.timed hchain hs
  · rwa [handle_of_not_heeds hphase hheeds]

/-- What an event that is neither a response nor a phase leads to: nothing, a verdict, a chunk that
is counted, or a socket without marks. -/
lemma plain_rule {P : Probe → Prop} (hphase : ¬e.IsPhase)
    (hresponse : ∀ h statusCode location, e ≠ .response h statusCode location) (hs : P s)
    (hfinish : ∀ verdict, P (s.finish t verdict)) (hdata : ∀ h length, P (s.onData h length))
    (hsocket : ∀ h hop connecting, s.hops[h]? = some hop → hop.socket = none →
      P (s.setSocket h ⟨connecting, none, none, false⟩)) : P (s.handle env t e) := by
  cases e with
  | deadline =>
    simp only [Probe.handle]
    split_ifs
    · exact hfinish _
    · exact hs
  | response h statusCode location => exact (hresponse h statusCode location rfl).elim
  | data h length => exact onBody_rule hs fun _ => hdata h length
  | bodyError h => exact onBody_rule hs fun _ => hfinish _
  | bodyEnd h => exact onBody_rule hs fun _ => hfinish _
  | bodyClose h => exact onBody_rule hs fun _ => hfinish _
  | socket h connecting =>
    simp only [Probe.handle]
    cases hhop : s.hops[h]? with
    | none => exact hs
    | some hop =>
      dsimp only
      split_ifs with hsome
      · exact hs
      · exact hsocket h hop connecting hhop (by simpa using hsome)
  | socketError h err =>
    simp only [Probe.handle]
    cases s.hops[h]? with
    | none => exact hs
    | some hop =>
      dsimp only
      split_ifs
      · exact hfinish _
      · exact hs
  | lookup h => exact (hphase trivial).elim
  | connect h => exact (hphase trivial).elim
  | secureConnect h => exact (hphase trivial).elim
  | requestError h err =>
    simp only [Probe.handle]
    cases s.hops[h]? with
    | none => exact hs
    | some hop => exact hfinish _

/-- A response is ignored, or it is the first one of the last hop, before the probe has settled. -/
lemma response_cases (env : ProbeEnv) (hchain : s.Chained) (hs : s.Timed t) {h statusCode : ℕ}
    {location : Option String} (hsilent : s.SilentOnceDestroyed (.response h statusCode location)) :
    s.handle env t (.response h statusCode location) = s ∨
      s.settled = false ∧ h + 1 = s.hops.length ∧ ∃ hop, s.hops[h]? = some hop ∧
        hop.response = none ∧ s.handle env t (.response h statusCode location) =
          s.onResponse env t h hop statusCode location := by
  simp only [Probe.handle]
  cases hhop : s.hops[h]? with
  | none => exact .inl rfl
  | some hop =>
    dsimp only
    split_ifs with hresp
    · exact .inl rfl
    · have hnone : hop.response = none := by simpa using hresp
      have hlast := hchain.last_of_unanswered hhop hnone
      refine .inr ⟨Bool.eq_false_iff.2 fun hsettled => ?_, hlast, hop, rfl, hnone, rfl⟩
      -- The last request of a settled probe is destroyed, and gets no answer.
      have hd := (hs.settled hsettled).1 hop (by
        rw [List.getLast?_eq_getElem?, ← hlast, Nat.add_sub_cancel, hhop])
      rw [hsilent h statusCode location hop rfl hhop] at hd
      cases hd

/-- **Every callback keeps the invariant.** -/
theorem Timed.handle (hs : s.Timed t) (hchain : s.Chained) (hsilent : s.SilentOnceDestroyed e)
    (horder : s.InOrder e) : (s.handle env t e).Timed t := by
  by_cases hphase : e.IsPhase
  · exact hs.phase hchain hphase horder
  by_cases hresponse : ∃ h statusCode location, e = .response h statusCode location
  · obtain ⟨h, statusCode, location, rfl⟩ := hresponse
    rcases response_cases env hchain hs hsilent with
      heq | ⟨hsettled, -, hop, hhop, hresp, heq⟩
    · rwa [heq]
    · rw [heq]
      exact hs.onResponse hchain hhop hresp hsettled statusCode location
  · simp only [not_exists] at hresponse
    refine plain_rule (P := fun s' => s'.Timed t) hphase hresponse hs
      (fun verdict => hs.finish hchain verdict) (fun h length => ?_)
      fun h hop connecting hhop hsocket => ?_
    · exact hs.setHop h (fun _ _ => rfl) fun _ => rfl
    · refine hs.setHop h (fun hop' hhop' => ?_) fun _ => rfl
      obtain rfl := Option.some.inj (hhop.symm.trans hhop')
      simp [Hop.pace, Hop.marked, Hop.secured, hsocket]

/-! ## The law at one callback -/

/-- When a chain settles, its last hop has been answered, or the event is that answer. -/
def SettlesAnswered (env : ProbeEnv) (s : ClockedProbe) (e : TimedEvent)
    (_ : ClockedProbe) : Prop :=
  Settles env s.probe e.2 → s.probe.hops.length ≤ 1 ∨ s.probe.Answered ∨
    ∃ h statusCode location, e.2 = .response h statusCode location

/-- A phase that is still heeded after the probe has settled comes within its total. -/
def MarksInTime (s : ClockedProbe) (e : TimedEvent) (_ : ClockedProbe) : Prop :=
  s.probe.settled = true → s.probe.Heeds e.2 →
    ∀ total, s.probe.timings.total = some total → msSince e.1 s.probe.started ≤ total

/-- The answers of the hops. -/
def responses (s : Probe) : List (Option ℕ) := s.hops.map (·.response)

/-- The last hop has been answered, by the answers of the hops. -/
lemma answered_iff : s.Answered ↔ ∃ statusCode, s.responses.getLast? = some (some statusCode) := by
  simp only [Answered, responses, List.getLast?_map, Option.map_eq_some_iff,
    Option.isSome_iff_exists]
  constructor
  · rintro ⟨hop, hhop, statusCode, hresp⟩
    exact ⟨statusCode, hop, hhop, hresp⟩
  · rintro ⟨statusCode, hop, hhop, hresp⟩
    exact ⟨hop, hhop, statusCode, hresp⟩

/-- An event that is no response answers no hop. -/
lemma responses_handle (env : ProbeEnv) (t : ℕ) (horder : s.InOrder e)
    (hresponse : ∀ h statusCode location, e ≠ .response h statusCode location) :
    (s.handle env t e).responses = s.responses := by
  by_cases hphase : e.IsPhase
  · by_cases hheeds : s.Heeds e
    · obtain ⟨h, hop, hm⟩ := marks_of_heeds env t horder hheeds
      obtain ⟨marks, hhops, -⟩ := hm.hops
      rw [responses, hhops]
      exact map_modify_of_getElem? fun _ _ => rfl
    · rw [handle_of_not_heeds hphase hheeds]
  · refine plain_rule (P := fun s' => s'.responses = s.responses) hphase hresponse rfl
      (fun verdict => map_hops_finish (fun _ => rfl) s t verdict) (fun h length => ?_)
      fun h hop connecting _ _ => ?_
    · exact map_modify_of_getElem? fun _ _ => rfl
    · exact map_modify_of_getElem? fun _ _ => rfl

/-- Some hop has been answered, by the answers of the hops. -/
lemma exists_answered_iff :
    (∃ hop ∈ s.hops, hop.response.isSome = true) ↔ ∃ statusCode, some statusCode ∈ s.responses := by
  simp only [responses, List.mem_map, Option.isSome_iff_exists]
  constructor
  · rintro ⟨hop, hhop, statusCode, hresp⟩
    exact ⟨statusCode, hop, hhop, hresp⟩
  · rintro ⟨statusCode, hop, hhop, hresp⟩
    exact ⟨hop, hhop, statusCode, hresp⟩

/-- Every hop but the last has been answered, so one has been once there are two. -/
lemma Chained.answered_iff (hchain : s.Chained) :
    ((∃ hop ∈ s.hops, hop.response.isSome = true) → s.Answered) ↔
      s.hops.length ≤ 1 ∨ s.Answered := by
  constructor
  · intro h
    by_cases hlen : s.hops.length ≤ 1
    · exact .inl hlen
    · have hfirst := List.getElem?_eq_getElem (show 0 < s.hops.length by omega)
      have hresp := ((hchain.regular 0 _ hfirst).followed (by omega)).1
      exact .inr (h ⟨_, List.mem_of_getElem? hfirst, hresp⟩)
  · rintro (hlen | hlast) ⟨hop, hhop, hresp⟩
    · obtain ⟨i, hi⟩ := List.mem_iff_getElem?.1 hhop
      have hlt := (List.getElem?_eq_some_iff.1 hi).1
      refine ⟨hop, ?_, hresp⟩
      rw [List.getLast?_eq_getElem?, ← hi]
      congr 1
      omega
    · exact hlast

/-- The law speaks of the timings and the answers only. -/
lemma Coherent.of_eq (hs : s.Coherent) (htimings : s'.timings = s.timings)
    (hresponses : s'.responses = s.responses) : s'.Coherent where
  final h := by
    rw [Probe.answered_iff, hresponses, ← Probe.answered_iff]
    exact hs.final (htimings ▸ h)
  ttfb := htimings ▸ hs.ttfb
  total := htimings ▸ hs.total

/-- A probe that has just settled obeys the law if its `ttfb` is that of the last hop. -/
lemma Timed.coherent_iff (hs : s.Timed t) (htotal : s.timings.total = some (msSince t s.started)) :
    s.Coherent ↔ (s.timings.ttfb.isSome = true → s.Answered) := by
  refine ⟨fun h => h.final, fun hfinal => ⟨hfinal, fun f hf => ?_, _, htotal, le_msSince hs.setup⟩⟩
  exact ⟨hs.covered (hfinal (by simp [hf])) f hf, _, htotal, le_msSince (hs.ttfb f hf)⟩

/-- Where a response settles the probe, the last hop has been answered. -/
lemma answered_of_response {h statusCode : ℕ} {location : Option String} {hop : Hop}
    (hhop : s.hops[h]? = some hop) (hlast : h + 1 = s.hops.length) (hsettled : s.settled = false)
    (hfinished : (s.onResponse env t h hop statusCode location).settled = true) :
    (s.onResponse env t h hop statusCode location).Answered := by
  have hsaw : (s.sawResponse t h statusCode).Answered := by
    refine ⟨{ hop with response := some statusCode }, ?_, rfl⟩
    rw [List.getLast?_eq_getElem?, ← getElem?_sawResponse t statusCode hhop]
    simp [Probe.sawResponse, Probe.setHop, ← hlast]
  have hfinish : ∀ (s : Probe) verdict, s.Answered → (s.finish t verdict).Answered := by
    intro s verdict hs
    have hkeep : (s.finish t verdict).responses = s.responses :=
      map_hops_finish (fun _ => rfl) s t verdict
    rwa [Probe.answered_iff, hkeep, ← Probe.answered_iff]
  have hunsettled : (s.sawResponse t h statusCode).settled ≠ true := by
    rw [show (s.sawResponse t h statusCode).settled = s.settled from rfl, hsettled]
    exact Bool.false_ne_true
  revert hfinished
  exact onResponse_rule (P := fun s' => s'.settled = true → s'.Answered)
    (fun _ h => (hunsettled h).elim) (fun verdict _ => hfinish _ verdict hsaw)
    (fun _ h => (hunsettled h).elim) (fun verdict _ => hfinish _ verdict hsaw)
    fun h => (hunsettled h).elim

/-- **When the probe settles**, its timings obey the law exactly when its last hop has answered. -/
theorem coherent_iff_of_settling (hchain : s.Chained) (hs : s.Timed t)
    (hsettled : s.settled = false) (hsilent : s.SilentOnceDestroyed e) (horder : s.InOrder e) :
    ((s.handle env t e).settled = true → (s.handle env t e).Coherent) ↔
      (Settles env s e → s.hops.length ≤ 1 ∨ s.Answered ∨
        ∃ h statusCode location, e = .response h statusCode location) := by
  have hs' : (s.handle env t e).Timed t := hs.handle hchain hsilent horder
  rcases settles_cases env t e hsettled with ⟨hsettles, s₀, verdict, hsame, heq⟩ | ⟨hnot, hset, -⟩
  · have htotal : (s.handle env t e).timings.total =
        some (msSince t (s.handle env t e).started) := by
      rw [heq, timings_finish (hsame.settled.trans hsettled), started_finish]
    have hset : (s.handle env t e).settled = true := by rw [heq, settled_finish]
    simp only [hset, hsettles, true_imp_iff]
    rw [hs'.coherent_iff htotal]
    by_cases hresponse : ∃ h statusCode location, e = .response h statusCode location
    · refine iff_of_true (fun _ => ?_) (.inr (.inr hresponse))
      obtain ⟨h, statusCode, location, rfl⟩ := hresponse
      rcases response_cases env hchain hs hsilent with h | ⟨-, hlast, hop, hhop, -, heq'⟩
      · rw [h, hsettled] at hset
        cases hset
      · rw [heq'] at hset ⊢
        exact answered_of_response hhop hlast hsettled hset
    · have hkeep := responses_handle env t horder (by simpa using hresponse)
      rw [hs'.answered, exists_answered_iff, hkeep, ← exists_answered_iff, Probe.answered_iff,
        hkeep, ← Probe.answered_iff, hchain.answered_iff]
      simp only [hresponse, or_false]
  · refine iff_of_true (fun h => ?_) fun h => (hnot h).elim
    rw [hset, hsettled] at h
    cases h

/-- A settled probe stays settled. -/
lemma settled_handle (hsettled : s.settled = true) : (s.handle env t e).settled = true := by
  have hout := outcome_handle env s t e
  generalize s.handle env t e = s' at hout
  cases hout with
  | expired => exact settled_finish _ _ _
  | graded => exact settled_finish _ _ _
  | failed => exact settled_finish _ _ _
  | refused => exact settled_finish _ _ _
  | capped => exact settled_finish _ _ _
  | _ => exact hsettled

/-- A settled probe that heeds no phase keeps its timings and its answers. -/
lemma handle_of_settled (env : ProbeEnv) (hchain : s.Chained) (hs : s.Timed t)
    (hsettled : s.settled = true) (hsilent : s.SilentOnceDestroyed e) (hheeds : ¬s.Heeds e) :
    (s.handle env t e).timings = s.timings ∧ (s.handle env t e).responses = s.responses := by
  by_cases hphase : e.IsPhase
  · rw [handle_of_not_heeds hphase hheeds]
    exact ⟨rfl, rfl⟩
  by_cases hresponse : ∃ h statusCode location, e = .response h statusCode location
  · obtain ⟨h, statusCode, location, rfl⟩ := hresponse
    rcases response_cases env hchain hs hsilent with heq | ⟨hnot, -⟩
    · rw [heq]
      exact ⟨rfl, rfl⟩
    · rw [hsettled] at hnot
      cases hnot
  · refine plain_rule (P := fun s' => s'.timings = s.timings ∧ s'.responses = s.responses) hphase
      (by simpa using hresponse) ⟨rfl, rfl⟩ (fun verdict => ?_) (fun h length => ⟨rfl, ?_⟩)
      fun h hop connecting _ _ => ⟨rfl, ?_⟩
    · rw [finish_of_settled hsettled]
      exact ⟨rfl, rfl⟩
    · exact map_modify_of_getElem? fun _ _ => rfl
    · exact map_modify_of_getElem? fun _ _ => rfl

/-- **After it has settled**, its timings go on obeying the law exactly when a phase that is still
heeded comes within the total. -/
theorem coherent_iff_of_settled (hchain : s.Chained) (hs : s.Timed t) (hsettled : s.settled = true)
    (hsilent : s.SilentOnceDestroyed e) (horder : s.InOrder e) (hcoherent : s.Coherent) :
    (s.handle env t e).Coherent ↔
      (s.Heeds e → ∀ total, s.timings.total = some total → msSince t s.started ≤ total) := by
  by_cases hheeds : s.Heeds e
  · obtain ⟨h, hop, hm⟩ := marks_of_heeds env t horder hheeds
    obtain ⟨-, hgetLast⟩ := hm.getLast? hchain
    obtain ⟨earlier, -, hfirst, -, hsetup⟩ := hm.setup_eq hchain hs
    -- The last hop waits, so there is no `ttfb`, so there is no hop before it.
    have hwaiting : ¬s.Answered := by
      rintro ⟨hop', hhop', hresp⟩
      obtain rfl := Option.some.inj (hgetLast.symm.trans hhop')
      simp [hm.unanswered] at hresp
    have hnone : s.timings.ttfb = none := by
      by_contra hsome
      exact hwaiting (hcoherent.final (Option.isSome_iff_ne_none.2 hsome))
    have hone : s.hops.length = 1 := by
      have hle := (hchain.answered_iff.1 fun h => absurd (hs.answered.2 h) (by simp [hnone]))
      have hpos := List.length_pos_of_mem (List.mem_of_getLast? hgetLast)
      have := hle.resolve_right hwaiting
      omega
    obtain ⟨rfl, hstart⟩ := hfirst hone
    rw [hstart, Nat.zero_add] at hsetup
    simp only [hheeds, true_imp_iff]
    constructor
    · intro h total htotal
      obtain ⟨total', htotal', hle⟩ := h.total
      rw [hm.total, htotal, Option.some.injEq] at htotal'
      rw [htotal', ← hsetup]
      exact hle
    · intro h
      obtain ⟨total, htotal, -⟩ := hcoherent.total
      refine ⟨fun hsome => ?_, fun f hf => ?_, total, hm.total.trans htotal, ?_⟩
      · simp [hm.ttfb, hnone] at hsome
      · simp [hm.ttfb, hnone] at hf
      · rw [hsetup]
        exact h total htotal
  · obtain ⟨htimings, hresponses⟩ := handle_of_settled env hchain hs hsettled hsilent hheeds
    exact iff_of_true (hcoherent.of_eq htimings hresponses) fun h => (hheeds h).elim

/-! ## The law throughout a run -/

/-- A new probe has measured nothing. -/
lemma timed_fresh (env : ProbeEnv) (t : ℕ) : (fresh env t).Timed t where
  started := le_rfl
  hopStarted := by simp [fresh]
  setup := by simp [fresh, Timings.setup]
  ttfb := by simp [fresh]
  answered := by simp [fresh]
  waits := by simp [fresh]
  covered := by simp [fresh]
  settled := by simp [fresh]

/-- **The timings of a new probe** obey the invariant, and the law if it settles at once. -/
theorem timed_probeOnce (env : ProbeEnv) (t : ℕ) : (probeOnce env t).Timed t ∧
    ((probeOnce env t).settled = true → (probeOnce env t).Coherent) := by
  have hfresh := timed_fresh env t
  have hchain : (fresh env t).Chained := chained_of_nil rfl rfl
  rcases request_cases env (fresh env t) t env.rawUrl with
    ⟨-, verdict, h⟩ | ⟨-, ⟨err, h⟩ | h⟩ <;> simp only [probeOnce, h]
  · have hs := hfresh.finish hchain verdict
    refine ⟨hs, fun _ => (hs.coherent_iff ?_).2 fun hsome => ?_⟩
    · rw [timings_finish rfl, started_finish]
    · rw [timings_finish rfl] at hsome
      cases hsome
  · exact ⟨hfresh.of_pace rfl rfl rfl rfl hfresh.settled, fun h => by cases h⟩
  · refine ⟨⟨le_rfl, ?_, hfresh.setup, hfresh.ttfb, ?_, ?_, ?_, fun h => by cases h⟩,
      fun h => by cases h⟩
    · simp [issue, fresh, newHop]
    · simp [issue, fresh, newHop]
    · intro hop hhop _
      obtain rfl : newHop env.rawUrl (outboundHeaders env (fresh env t) env.rawUrl) t = hop := by
        simpa [issue, fresh] using hhop
      exact ⟨0, by simp [issue, fresh, newHop], fun _ => ⟨rfl, rfl⟩, fun _ =>
        ⟨rfl, by simp [newHop, Hop.marked]⟩⟩
    · rintro ⟨hop, hhop, hresp⟩
      obtain rfl : newHop env.rawUrl (outboundHeaders env (fresh env t) env.rawUrl) t = hop := by
        simpa [issue, fresh] using hhop
      cases hresp

/-- A clocked probe with the invariant. -/
def ChainTimed (s : ClockedProbe) : Prop := s.probe.Chained ∧ s.probe.Timed s.clock

/-- Every step keeps it. -/
lemma ChainTimed.step {s s' : ClockedProbe} {e : TimedEvent} (hs : ChainTimed s)
    (h : ClockedStep env s e s') : ChainTimed s' := by
  obtain ⟨hle, hclock, ⟨⟨-, hprobe⟩, hsilent⟩, horder⟩ := h
  rw [ChainTimed, hclock, hprobe]
  exact ⟨hs.1.handle env e.1 e.2, (hs.2.mono hle).handle hs.1 hsilent horder⟩

/-- The clock has not gone back since the probe and its hops started: no elapsed time is negative.
-/
def ReadsForward (s : ClockedProbe) (e : TimedEvent) (_ : ClockedProbe) : Prop :=
  s.probe.started ≤ e.1 ∧ ∀ hop ∈ s.probe.hops, hop.hopStart ≤ e.1

/-- The timings obey the law when the probe settles. -/
def CoherentOnSettling (s : ClockedProbe) (_ : TimedEvent) (s' : ClockedProbe) : Prop :=
  s.probe.settled = false → s'.probe.settled = true → s'.probe.Coherent

/-- The timings obey the law whenever they are read, once the probe has settled. -/
def CoherentSettled (_ : ClockedProbe) (_ : TimedEvent) (s' : ClockedProbe) : Prop :=
  s'.probe.settled = true → s'.probe.Coherent

/-- What makes them do so at one step. -/
def StaysCoherent (env : ProbeEnv) (s : ClockedProbe) (e : TimedEvent) (s' : ClockedProbe) : Prop :=
  SettlesAnswered env s e s' ∧ MarksInTime s e s'

/-- One step settles the probe with coherent timings exactly when its last hop has answered. -/
lemma coherentOnSettling_iff {s s' : ClockedProbe} {e : TimedEvent} (hs : ChainTimed s)
    (h : ClockedStep env s e s') : CoherentOnSettling s e s' ↔ SettlesAnswered env s e s' := by
  obtain ⟨hle, -, ⟨⟨-, hprobe⟩, hsilent⟩, horder⟩ := h
  unfold CoherentOnSettling SettlesAnswered
  cases hsettled : s.probe.settled with
  | true =>
    refine iff_of_true (fun h => by cases h) fun hsettles => ?_
    rw [hsettles.1] at hsettled
    cases hsettled
  | false =>
    rw [hprobe, ← coherent_iff_of_settling hs.1 (hs.2.mono hle) hsettled hsilent horder]
    simp only [true_imp_iff]

/-- One step of a probe whose timings are coherent if it has settled. -/
lemma coherentSettled_iff {s s' : ClockedProbe} {e : TimedEvent} (hs : ChainTimed s)
    (hcoherent : s.probe.settled = true → s.probe.Coherent) (h : ClockedStep env s e s') :
    CoherentSettled s e s' ↔ StaysCoherent env s e s' := by
  cases hsettled : s.probe.settled with
  | false =>
    have hmarks : MarksInTime s e s' := fun h => by
      rw [hsettled] at h
      cases h
    rw [StaysCoherent, and_iff_left hmarks, ← coherentOnSettling_iff hs h, CoherentOnSettling,
      CoherentSettled, hsettled]
    simp only [true_imp_iff]
  | true =>
    obtain ⟨hle, -, ⟨⟨-, hprobe⟩, hsilent⟩, horder⟩ := h
    have hanswered : SettlesAnswered env s e s' := fun hsettles => by
      rw [hsettles.1] at hsettled
      cases hsettled
    have hset : s'.probe.settled = true := hprobe ▸ settled_handle hsettled
    rw [StaysCoherent, and_iff_right hanswered, MarksInTime, CoherentSettled, hsettled, hset,
      hprobe]
    simp only [true_imp_iff]
    exact coherent_iff_of_settled hs.1 (hs.2.mono hle) hsettled hsilent horder (hcoherent hsettled)

end Probe

open Probe

/-- **The timings of a settled probe are coherent, throughout a run, exactly when it settles with
its last hop answered, unless it has only one, and no later phase exceeds the total.** When the
promise resolves, only the first condition counts; the second is about callbacks after that, since
the result shares the timings with them. -/
theorem phaseTimings_iff (env : ProbeEnv) (t : ℕ) (es : List TimedEvent) :
    AllSteps (ClockedStep env) ReadsForward ⟨probeOnce env t, t⟩ es ∧
      (AllSteps (ClockedStep env) CoherentOnSettling ⟨probeOnce env t, t⟩ es ↔
        AllSteps (ClockedStep env) (SettlesAnswered env) ⟨probeOnce env t, t⟩ es) ∧
      (((probeOnce env t).settled = true → (probeOnce env t).Coherent) ∧
          AllSteps (ClockedStep env) CoherentSettled ⟨probeOnce env t, t⟩ es ↔
        AllSteps (ClockedStep env) (StaysCoherent env) ⟨probeOnce env t, t⟩ es) := by
  obtain ⟨htimed, hstart⟩ := timed_probeOnce env t
  have hintime : ChainTimed ⟨probeOnce env t, t⟩ := ⟨chained_probeOnce env t, htimed⟩
  have hkeep : ∀ s e s', ChainTimed s → ClockedStep env s e s' → ChainTimed s' :=
    fun _ _ _ hs h => hs.step h
  refine ⟨?_, ?_, ?_⟩
  · refine allSteps_of_invariant hkeep (fun s e s' hs h => ?_) hintime es
    exact ⟨hs.2.started.trans h.1, fun hop hhop => (hs.2.hopStarted hop hhop).trans h.1⟩
  · have hiff : ∀ s e s', ChainTimed s → ClockedStep env s e s' →
        (CoherentOnSettling s e s' ↔ SettlesAnswered env s e s') :=
      fun _ _ _ hs h => coherentOnSettling_iff hs h
    exact allSteps_iff hiff (fun s e s' hs h _ => hkeep s e s' hs h) hintime es
  · rw [and_iff_right hstart]
    have hiff : ∀ s e s', ChainTimed s ∧ (s.probe.settled = true → s.probe.Coherent) →
        ClockedStep env s e s' → (CoherentSettled s e s' ↔ StaysCoherent env s e s') :=
      fun _ _ _ hs h => coherentSettled_iff hs.1 hs.2 h
    refine allSteps_iff hiff (fun s e s' hs h hC => ?_) ⟨hintime, hstart⟩ es
    exact ⟨hs.1.step h, (hiff s e s' hs h).2 hC⟩

/-- The first hop redirects after 5 ms. The name of the second is resolved 15 ms later, and then the
deadline passes: `ttfb` is 5 although the last hop has not answered, and `dns` exceeds it. -/
theorem phaseTimings_fails_on_deadline_after_redirect :
    ¬AllSteps (ClockedStep (sampleProbe [])) CoherentOnSettling ⟨probeOnce (sampleProbe []) 0, 0⟩
      [(5000000, .response 0 302 (some "/next")), (5000000, .socket 1 true),
        (20000000, .lookup 1), (30000000, .deadline)] := by
  intro h
  have hstep : ∀ (s : Probe) c t e, c ≤ t → s.escaped = none →
      s.hops.all (fun hop => !hop.destroyed) = true → s.InOrder e →
      ClockedStep (sampleProbe []) ⟨s, c⟩ (t, e) ⟨s.handle (sampleProbe []) t e, t⟩ :=
    fun s c t e hle hesc hdestroyed horder =>
      ⟨hle, rfl, ⟨⟨hesc, rfl⟩, silentOnceDestroyed_of_all hdestroyed e⟩, horder⟩
  have hlookup : Before (((probeOnce (sampleProbe []) 0).handle (sampleProbe []) 5000000
      (.response 0 302 (some "/next"))).handle (sampleProbe []) 5000000 (.socket 1 true)) 1
      fun k => k.hopTcp = none ∧ k.secure = false := by
    intro hop hhop
    have hsome : (((probeOnce (sampleProbe []) 0).handle (sampleProbe []) 5000000
        (.response 0 302 (some "/next"))).handle (sampleProbe []) 5000000
        (.socket 1 true)).hops[1]?.map (fun hop => (hop.response, hop.socket)) =
        some (none, some ⟨true, none, none, false⟩) := by decide +kernel
    rw [hhop, Option.map_some, Option.some.injEq, Prod.mk.injEq] at hsome
    refine ⟨hsome.1, fun k hk => ?_⟩
    obtain rfl := Option.some.inj (hsome.2.symm.trans hk)
    exact ⟨rfl, rfl⟩
  have hrun := Run.cons (r := ClockedStep (sampleProbe []))
    (hstep (probeOnce (sampleProbe []) 0) 0 5000000 (.response 0 302 (some "/next"))
      (by decide) (by decide +kernel) (by decide +kernel) trivial)
    (.cons (hstep _ _ 5000000 (.socket 1 true) le_rfl (by decide +kernel) (by decide +kernel)
      trivial)
      (.cons (hstep _ _ 20000000 (.lookup 1) (by decide) (by decide +kernel) (by decide +kernel)
        hlookup) (.nil _)))
  have hcoherent := h _ (30000000, .deadline) [] _ _ rfl hrun
    (hstep _ _ 30000000 .deadline (by decide) (by decide +kernel) (by decide +kernel) trivial)
    (by decide +kernel) (by decide +kernel)
  have hle := (hcoherent.ttfb 5 (by decide +kernel)).1
  exact absurd hle (by decide +kernel)

end WatchTower

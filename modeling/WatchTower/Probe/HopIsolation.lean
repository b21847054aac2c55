import WatchTower.Probe.CheckMonitor
import WatchTower.Probe.Callbacks
import WatchTower.Transition.Purge

set_option relaxedAutoImplicit false
set_option autoImplicit false

/-!
# Late events of earlier hops

Once a redirect has been followed, the earlier hop is of no interest: its body is discarded. But its
listeners stay attached, and they share the `settled` flag and the `fail` function with the hops
after it. The run is compared with the one in which the later events of earlier hops are removed.
The two have the same verdict as long as no such event is an error that comes before the probe has
settled.

## Main definitions

* `WatchTower.Probe.Late`, `WatchTower.Probe.withoutLate` — the events of earlier hops, and a run
  without them.
* `WatchTower.Probe.Agree` — the same probe, up to what is kept of the earlier hops.
* `WatchTower.Probe.SameVerdict`, `WatchTower.Probe.SameResult` — hop isolation, for the verdict,
  and for the whole result with its timings.
* `WatchTower.Probe.Harmless` — an event that does not fail an unsettled probe.

## Main results

* `WatchTower.Probe.Agree.handle` — an event of the last hop does the same to both.
* `WatchTower.Probe.Agree.late` — a harmless event of an earlier hop does nothing that counts.
* `WatchTower.hopIsolation_iff` — hops are isolated throughout a run exactly when its late events
  are harmless.
-/

namespace WatchTower

open Transition

namespace Probe

/-- The event belongs to a hop that has been followed to a later one. -/
def Late (s : Probe) (e : TimedEvent) : Bool := e.2.hop.any (· + 1 < s.hops.length)

/-- A run of a probe without its late events. -/
def withoutLate (env : ProbeEnv) : Probe → List TimedEvent → List TimedEvent :=
  purge (fun s e => s.handle env e.1 e.2) Late

/-- The verdict is that of the run without late events: status, code, error, redirects and response
time. -/
def SameVerdict (env : ProbeEnv) (t : ℕ) (pre : List TimedEvent) (_ : Probe) (e : TimedEvent)
    (s' : Probe) : Prop :=
  ∃ u, Run (ProbeStep env) (probeOnce env t) (withoutLate env (probeOnce env t) (pre ++ [e])) u ∧
    u.promise = s'.promise

/-- And so is the whole result, with its timings. -/
def SameResult (env : ProbeEnv) (t : ℕ) (pre : List TimedEvent) (_ : Probe) (e : TimedEvent)
    (s' : Probe) : Prop :=
  ∃ u, Run (ProbeStep env) (probeOnce env t) (withoutLate env (probeOnce env t) (pre ++ [e])) u ∧
    (u.promise, u.result) = (s'.promise, s'.result)

/-- An event that does not fail an unsettled probe: no error of a request, nor of a socket that has
been assigned. -/
def Harmless (s : Probe) (e : TimedEvent) : Prop :=
  s.settled = false → match e.2 with
    | .requestError _ _ => False
    | .socketError h _ => ∀ hop, s.hops[h]? = some hop → hop.socket = none
    | _ => True

/-- The callbacks of a probe in Node's order: the phases of a connection come before the response
on it. -/
def OrderedStep (env : ProbeEnv) (s : Probe) (e : TimedEvent) (s' : Probe) : Prop :=
  ProbeStep env s e s' ∧ (e.2.IsPhase → Late s e = false)

/-- The same probe, up to what is kept of the earlier hops; with the same timings, if they count. -/
structure Agree (timed : Prop) (s u : Probe) : Prop where
  started : u.started = s.started
  initialOrigin : u.initialOrigin = s.initialOrigin
  redirects : u.redirects = s.redirects
  settled : u.settled = s.settled
  currentReq : u.currentReq = s.currentReq
  deadline : u.deadline = s.deadline
  promise : u.promise = s.promise
  escaped : u.escaped = s.escaped
  length : u.hops.length = s.hops.length
  last : u.hops.getLast? = s.hops.getLast?
  timings : timed → u.timings = s.timings

variable {env : ProbeEnv} {timed : Prop} {s u : Probe} {t : ℕ} {e : ProbeEvent}

/-- A probe agrees with itself. -/
lemma Agree.refl (s : Probe) : Agree timed s s :=
  ⟨rfl, rfl, rfl, rfl, rfl, rfl, rfl, rfl, rfl, rfl, fun _ => rfl⟩

/-- The last hop after a change of one. -/
lemma getLast?_modify (l : List Hop) (h : ℕ) (f : Hop → Hop) :
    (l.modify h f).getLast? = if h + 1 = l.length then l.getLast?.map f else l.getLast? := by
  rcases Nat.eq_zero_or_pos l.length with hzero | hpos
  · simp [List.length_eq_zero_iff.1 hzero]
  · rw [List.getLast?_eq_getElem?, List.getElem?_modify, List.length_modify,
      List.getLast?_eq_getElem?]
    by_cases hl : h + 1 = l.length
    · simp [show l.length - 1 = h by omega, hl]
    · simp [show ¬h = l.length - 1 by omega, hl]

/-- A hop that is not an earlier one is the same hop of both. -/
lemma Agree.getElem? (hs : Agree timed s u) {h : ℕ} (hlate : ¬h + 1 < s.hops.length) :
    u.hops[h]? = s.hops[h]? := by
  rcases Nat.lt_or_ge h s.hops.length with hlt | hge
  · have hlast := hs.last
    rw [List.getLast?_eq_getElem?, List.getLast?_eq_getElem?, hs.length,
      show s.hops.length - 1 = h by omega] at hlast
    exact hlast
  · rw [List.getElem?_eq_none hge, List.getElem?_eq_none (hs.length ▸ hge)]

/-- The same change of the same hop. -/
lemma Agree.setHop (hs : Agree timed s u) (h : ℕ) (f : Hop → Hop) :
    Agree timed (s.setHop h f) (u.setHop h f) :=
  { hs with
    length := by simp [Probe.setHop, hs.length]
    last := by simp only [Probe.setHop, getLast?_modify, hs.last, hs.length] }

/-- Other timings, the same if they count. -/
lemma Agree.withTimings (hs : Agree timed s u) {τ τ' : Timings} (h : timed → τ' = τ) :
    Agree timed { s with timings := τ } { u with timings := τ' } :=
  { hs with timings := h }

/-- The same request is destroyed. -/
lemma Agree.destroyCurrent (hs : Agree timed s u) :
    Agree timed s.destroyCurrent u.destroyCurrent := by
  unfold Probe.destroyCurrent
  rw [hs.currentReq]
  split
  · exact hs.setHop _ _
  · exact hs

/-- The same verdict. -/
lemma Agree.finish (hs : Agree timed s u) (verdict : Verdict) :
    Agree timed (s.finish t verdict) (u.finish t verdict) := by
  unfold Probe.finish
  rw [hs.settled]
  split_ifs
  · exact hs
  · have hresolved : Agree timed
        (resolve { s with
          settled := true
          deadline := false
          timings := { s.timings with total := some (msSince t s.started) } }
          ⟨verdict, s.redirects, msSince t s.started⟩)
        (resolve { u with
          settled := true
          deadline := false
          timings := { u.timings with total := some (msSince t u.started) } }
          ⟨verdict, u.redirects, msSince t u.started⟩) :=
      { hs with
        settled := rfl
        deadline := rfl
        promise := by simp only [resolve, hs.promise, hs.redirects, hs.started]
        timings := fun h => by simp only [resolve, hs.timings h, hs.started] }
    exact hresolved.destroyCurrent

/-- The same answer. -/
lemma Agree.sawResponse (hs : Agree timed s u) (h statusCode : ℕ) :
    Agree timed (s.sawResponse t h statusCode) (u.sawResponse t h statusCode) := by
  exact (hs.withTimings fun h => by rw [hs.timings h, hs.started]).setHop _ _

/-- One more request. -/
lemma Agree.issue (hs : Agree timed s u) (env : ProbeEnv) (t : ℕ) (url : String) :
    Agree timed (s.issue env t url) (u.issue env t url) :=
  { hs with
    currentReq := by simp only [Probe.issue, hs.length]
    length := by simp [Probe.issue, hs.length]
    last := by simp [Probe.issue, outboundHeaders, hs.initialOrigin] }

/-- Requesting a URL does the same to both. -/
lemma Agree.request (hs : Agree timed s u) (env : ProbeEnv) (t : ℕ) (url : String) :
    (∃ err, s.request env t url = .error err ∧ u.request env t url = .error err) ∨
      ∃ s' u', s.request env t url = .ok s' ∧ u.request env t url = .ok u' ∧ Agree timed s' u' := by
  have hheaders : outboundHeaders env u url = outboundHeaders env s url := by
    rw [outboundHeaders, outboundHeaders, hs.initialOrigin]
  unfold Probe.request
  rw [hheaders]
  cases env.node.parse url with
  | none => exact .inr ⟨_, _, rfl, rfl, hs.finish _⟩
  | some parsed =>
    dsimp only
    split_ifs
    · exact .inr ⟨_, _, rfl, rfl, hs.finish _⟩
    · cases env.node.requestThrows url (outboundHeaders env s url) with
      | some err => exact .inl ⟨err, rfl, rfl⟩
      | none =>
        cases env.node.endThrows url (outboundHeaders env s url) with
        | some err => exact .inl ⟨err, rfl, rfl⟩
        | none =>
          refine .inr ⟨_, _, rfl, rfl, ?_⟩
          have hissue := hs.issue env t url
          simp only [Probe.issue, hheaders] at hissue
          exact hissue

/-- Following a redirect does the same to both. -/
lemma Agree.follow (hs : Agree timed s u) (url location : String) :
    Agree timed (s.follow env t url location) (u.follow env t url location) := by
  have hcount : Agree timed { s with redirects := s.redirects + 1 }
      { u with redirects := u.redirects + 1 } :=
    { hs with redirects := by simp only [hs.redirects] }
  unfold Probe.follow
  dsimp only
  cases env.node.resolve location url with
  | error err => exact { hcount with escaped := rfl }
  | ok next =>
    rcases hcount.request env t next with ⟨err, h, h'⟩ | ⟨s', u', h, h', hagree⟩
    · simp only [h, h']
      exact { hcount with escaped := rfl }
    · simp only [h, h']
      exact hagree

/-- The response callback does the same to both. -/
lemma Agree.onResponse (hs : Agree timed s u) (h : ℕ) (hop : Hop) (statusCode : ℕ)
    (location : Option String) : Agree timed (s.onResponse env t h hop statusCode location)
      (u.onResponse env t h hop statusCode location) := by
  have hsaw := hs.sawResponse (t := t) h statusCode
  have hfollowed : (u.sawResponse t h statusCode).followed env statusCode location =
      (s.sawResponse t h statusCode).followed env statusCode location := by
    simp only [followed, hsaw.redirects]
  unfold Probe.onResponse
  dsimp only
  rw [hfollowed, hsaw.redirects]
  cases (s.sawResponse t h statusCode).followed env statusCode location with
  | some l => exact hsaw.follow hop.url l
  | none =>
    dsimp only
    split_ifs
    · exact hsaw.finish _
    · exact hsaw.setHop _ _

/-- A listener on a body does the same to both. -/
lemma Agree.onBody (hs : Agree timed s u) {h : ℕ} (hhop : u.hops[h]? = s.hops[h]?)
    {f g : ℕ → Probe} (hfg : ∀ n, Agree timed (f n) (g n)) :
    Agree timed (s.onBody h f) (u.onBody h g) := by
  unfold Probe.onBody
  rw [hhop]
  cases s.hops[h]? with
  | none => exact hs
  | some hop =>
    dsimp only
    cases hop.response with
    | none => exact hs
    | some n =>
      dsimp only
      split_ifs
      · exact hfg n
      · exact hs

/-- So does a phase listener. -/
lemma Agree.onPhase (hs : Agree timed s u) {h : ℕ} (hhop : u.hops[h]? = s.hops[h]?)
    {seen : SocketMarks → Bool} {f g : Hop → SocketMarks → Probe}
    (hfg : ∀ hop k, Agree timed (f hop k) (g hop k)) :
    Agree timed (s.onPhase h seen f) (u.onPhase h seen g) := by
  unfold Probe.onPhase
  rw [hhop]
  cases s.hops[h]? with
  | none => exact hs
  | some hop =>
    dsimp only
    cases hop.socket with
    | none => exact hs
    | some k =>
      dsimp only
      split_ifs
      · exact hfg hop k
      · exact hs

/-- **An event that is not late does the same to both.** -/
theorem Agree.handle (hs : Agree timed s u) (hlate : Late s (t, e) = false) :
    Agree timed (s.handle env t e) (u.handle env t e) := by
  have hhop : ∀ h, e.hop = some h → u.hops[h]? = s.hops[h]? := by
    intro h he
    refine hs.getElem? ?_
    simpa [Late, he] using hlate
  cases e with
  | deadline =>
    simp only [Probe.handle, hs.deadline]
    split_ifs
    · exact hs.finish _
    · exact hs
  | response h statusCode location =>
    simp only [Probe.handle, hhop h rfl]
    cases s.hops[h]? with
    | none => exact hs
    | some hop =>
      dsimp only
      split_ifs
      · exact hs
      · exact hs.onResponse h hop statusCode location
  | data h length => exact hs.onBody (hhop h rfl) fun _ => hs.setHop _ _
  | bodyError h => exact hs.onBody (hhop h rfl) fun _ => hs.finish _
  | bodyEnd h => exact hs.onBody (hhop h rfl) fun _ => hs.finish _
  | bodyClose h => exact hs.onBody (hhop h rfl) fun _ => hs.finish _
  | socket h connecting =>
    simp only [Probe.handle, hhop h rfl]
    cases s.hops[h]? with
    | none => exact hs
    | some hop =>
      dsimp only
      split_ifs
      · exact hs
      · exact hs.setHop _ _
  | socketError h err =>
    simp only [Probe.handle, hhop h rfl]
    cases s.hops[h]? with
    | none => exact hs
    | some hop =>
      dsimp only
      split_ifs
      · exact hs.finish _
      · exact hs
  | lookup h =>
    exact hs.onPhase (hhop h rfl) fun hop k =>
      (hs.withTimings fun h => by rw [hs.timings h]).setHop _ _
  | connect h =>
    exact hs.onPhase (hhop h rfl) fun hop k =>
      (hs.withTimings fun h => by rw [hs.timings h]).setHop _ _
  | secureConnect h =>
    exact hs.onPhase (hhop h rfl) fun hop k =>
      (hs.withTimings fun h => by rw [hs.timings h]).setHop _ _
  | requestError h err =>
    simp only [Probe.handle, hhop h rfl]
    cases s.hops[h]? with
    | none => exact hs
    | some hop => exact hs.finish _

/-- A change of an earlier hop does not count. -/
lemma Agree.setHop_left (hs : Agree timed s u) {h : ℕ} (hearlier : h + 1 < s.hops.length)
    (f : Hop → Hop) : Agree timed (s.setHop h f) u :=
  { hs with
    length := by simp [Probe.setHop, hs.length]
    last := by simp only [Probe.setHop, getLast?_modify, hs.last, if_neg hearlier.ne] }

/-- **A harmless late event does nothing that counts.** An earlier hop has its answer and no
listeners on its body, so all that is left is its socket. -/
theorem Agree.late (hs : Agree timed s u) (hchain : s.Chained) (hlate : Late s (t, e) = true)
    (hok : Harmless s (t, e)) (hphase : timed → ¬e.IsPhase) : Agree timed (s.handle env t e) u := by
  have hearlier : ∀ h, e.hop = some h → h + 1 < s.hops.length := by
    intro h he
    simpa [Late, he] using hlate
  have hresp : ∀ {h : ℕ} {hop : Hop}, e.hop = some h → s.hops[h]? = some hop →
      hop.response.isSome = true ∧ hop.listening = false :=
    fun he hhop => (hchain.regular _ _ hhop).followed (hearlier _ he).ne
  -- An earlier hop does not answer, and its body has no listener.
  have hanswered : ∀ {h : ℕ} {hop : Hop}, e.hop = some h → s.hops[h]? = some hop →
      hop.response = none → Agree timed s u → False :=
    fun he hhop hnone _ => by simpa [hnone] using (hresp he hhop).1
  have hlistens : ∀ {h : ℕ} {hop : Hop}, e.hop = some h → s.hops[h]? = some hop →
      hop.listening = true → Agree timed s u → False :=
    fun he hhop hl _ => by simpa [hl] using (hresp he hhop).2
  have hout := outcome_handle env s t e
  generalize s.handle env t e = s' at hout
  cases hout with
  | ignored => exact hs
  | expired => simp [Late, ProbeEvent.hop] at hlate
  | graded he hhop _ hl => rcases he with rfl | rfl | rfl <;> exact (hlistens rfl hhop hl hs).elim
  | received hhop hl => exact (hlistens rfl hhop hl hs).elim
  | @failed _ h hop err he hhop =>
    cases hsettled : s.settled with
    | true => rwa [fail, finish_of_settled hsettled]
    | false =>
      rcases he with rfl | ⟨rfl, hsocket⟩
      · exact (hok hsettled).elim
      · rw [hok hsettled hop hhop] at hsocket
        cases hsocket
  | @marked _ h marks timings he htimings =>
    have htimed : Agree timed { s with timings := timings } u := by
      refine { hs with timings := fun h => ?_ }
      rcases htimings with htimings | hphase'
      · rw [htimings, hs.timings h]
      · exact (hphase h hphase').elim
    exact htimed.setHop_left (hearlier h he) _
  | threw hhop hnone => exact (hanswered rfl hhop hnone hs).elim
  | refused hhop hnone => exact (hanswered rfl hhop hnone hs).elim
  | issued hhop hnone => exact (hanswered rfl hhop hnone hs).elim
  | capped hhop hnone => exact (hanswered rfl hhop hnone hs).elim
  | listened hhop hnone => exact (hanswered rfl hhop hnone hs).elim

/-- **Any other late event fails the probe**, which the other run has not settled. -/
lemma Agree.promise_ne (hs : Agree timed s u) (env : ProbeEnv) (hchain : s.Chained)
    (hlate : Late s (t, e) = true) (hbad : ¬Harmless s (t, e)) :
    ∃ r, u.promise = .pending ∧ (s.handle env t e).promise = .resolved r := by
  have hearlier : ∀ h, e.hop = some h → h + 1 < s.hops.length := by
    intro h he
    simpa [Late, he] using hlate
  rw [Harmless, Classical.not_imp] at hbad
  obtain ⟨hsettled, hbad⟩ := hbad
  have hpending : s.hops ≠ [] → s.promise = .pending := fun hne => hchain.pending hne hsettled
  have hfail : ∀ {h : ℕ} {hop : Hop} (err : NodeError), s.hops[h]? = some hop →
      ∃ r, u.promise = .pending ∧ (s.fail t err).promise = .resolved r := by
    intro h hop err hhop
    have hp := hpending (List.ne_nil_of_mem (List.mem_of_getElem? hhop))
    exact ⟨_, hs.promise.trans hp, promise_finish hsettled hp _⟩
  cases e with
  | requestError h err =>
    have hlt := hearlier h rfl
    have hhop := List.getElem?_eq_getElem (show h < s.hops.length by omega)
    simp only [Probe.handle, hhop]
    exact hfail err hhop
  | socketError h err =>
    simp only [not_forall] at hbad
    obtain ⟨hop, hhop, hsocket⟩ := hbad
    simp only [Probe.handle, hhop, Option.isSome_iff_ne_none, ne_eq, hsocket, not_false_eq_true,
      if_true]
    exact hfail err hhop
  | _ => exact absurd trivial hbad

end Probe

open Probe

/-- **Hops are isolated throughout a run exactly when its late events are harmless.** The verdict is
that of the run without the late events, in every order of all events; and where the phases of a
connection come before its response, so is the whole result. -/
theorem hopIsolation_iff (env : ProbeEnv) (t : ℕ) (es : List TimedEvent) :
    (AllStepsAfter (ProbeStep env) (SameVerdict env t) (probeOnce env t) es ↔
        AllStepsAfter (ProbeStep env) (fun _ s e _ => Late s e = true → Harmless s e)
          (probeOnce env t) es) ∧
      (AllStepsAfter (OrderedStep env) (SameResult env t) (probeOnce env t) es ↔
        AllStepsAfter (OrderedStep env) (fun _ s e _ => Late s e = true → Harmless s e)
          (probeOnce env t) es) := by
  have hfun : Functional (ProbeStep env) fun s e => s.handle env e.1 e.2 := fun _ _ _ h => h.2
  have hfun' : Functional (OrderedStep env) fun s e => s.handle env e.1 e.2 := fun _ _ _ h => h.1.2
  have hchain := chained_probeOnce env t
  constructor
  · have hobs : ∀ a u : Probe, a.Chained ∧ Probe.Agree False a u → u.promise = a.promise :=
      fun _ _ h => h.2.promise
    refine allStepsAfter_purge_iff hfun hfun hobs ?_ ?_ ?_ ⟨hchain, .refl _⟩ es
    · rintro a e b u ⟨hc, hs⟩ ⟨hesc, rfl⟩ hlate
      exact ⟨⟨hs.escaped.trans hesc, rfl⟩, hc.handle env _ _, hs.handle hlate⟩
    · rintro a e b u ⟨hc, hs⟩ ⟨-, rfl⟩ hlate hok
      exact ⟨hc.handle env _ _, hs.late hc hlate hok False.elim⟩
    · rintro a e b u ⟨hc, hs⟩ ⟨-, rfl⟩ hlate hbad heq
      obtain ⟨r, hu, hr⟩ := hs.promise_ne env hc hlate hbad
      rw [hu, hr] at heq
      cases heq
  · have hobs : ∀ a u : Probe, a.Chained ∧ Probe.Agree True a u →
        (u.promise, u.result) = (a.promise, a.result) :=
      fun _ _ h => by simp only [Probe.result, h.2.promise, h.2.timings trivial]
    refine allStepsAfter_purge_iff hfun' hfun hobs ?_ ?_ ?_ ⟨hchain, .refl _⟩ es
    · rintro a e b u ⟨hc, hs⟩ ⟨⟨hesc, rfl⟩, -⟩ hlate
      exact ⟨⟨hs.escaped.trans hesc, rfl⟩, hc.handle env _ _, hs.handle hlate⟩
    · rintro a e b u ⟨hc, hs⟩ ⟨⟨-, rfl⟩, hphase⟩ hlate hok
      refine ⟨hc.handle env _ _, hs.late hc hlate hok fun _ hp => ?_⟩
      rw [hphase hp] at hlate
      cases hlate
    · rintro a e b u ⟨hc, hs⟩ ⟨⟨-, rfl⟩, -⟩ hlate hbad heq
      obtain ⟨r, hu, hr⟩ := hs.promise_ne env hc hlate hbad
      rw [Prod.mk.injEq, hu, hr] at heq
      cases heq.1

/-- The first hop's connection is reset while its redirect body is drained: the probe fails, where
without that event it is up. -/
theorem hopIsolation_fails_on_late_reset :
    ¬AllStepsAfter (ProbeStep (sampleProbe [])) (SameVerdict (sampleProbe []) 0)
      (probeOnce (sampleProbe []) 0)
      [(1, .response 0 302 (some "/next")), (2, .requestError 0 ⟨none, some "ECONNRESET"⟩),
        (3, .response 1 200 none), (4, .bodyEnd 1)] := by
  intro h
  have hrun : Run (ProbeStep (sampleProbe [])) (probeOnce (sampleProbe []) 0)
      [(1, .response 0 302 (some "/next")), (2, .requestError 0 ⟨none, some "ECONNRESET"⟩),
        (3, .response 1 200 none)] _ :=
    .cons ⟨by decide +kernel, rfl⟩ (.cons ⟨by decide +kernel, rfl⟩
      (.cons ⟨by decide +kernel, rfl⟩ (.nil _)))
  obtain ⟨u, hu, heq⟩ := h _ (4, .bodyEnd 1) [] _ _ rfl hrun ⟨by decide +kernel, rfl⟩
  have hkept : Run (ProbeStep (sampleProbe [])) (probeOnce (sampleProbe []) 0)
      [(1, .response 0 302 (some "/next")), (3, .response 1 200 none), (4, .bodyEnd 1)] _ :=
    .cons ⟨by decide +kernel, rfl⟩ (.cons ⟨by decide +kernel, rfl⟩
      (.cons ⟨by decide +kernel, rfl⟩ (.nil _)))
  have hfun : Functional (ProbeStep (sampleProbe [])) fun s e =>
      s.handle (sampleProbe []) e.1 e.2 :=
    fun _ _ _ h => h.2
  obtain rfl := hfun.eq_of_run hkept hu
  exact absurd heq (by decide +kernel)

end WatchTower

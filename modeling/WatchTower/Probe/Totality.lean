import WatchTower.Probe.Machine

set_option relaxedAutoImplicit false
set_option autoImplicit false

/-!
# Totality of a probe

When does a probe settle its promise by resolving it exactly once, and never throw? The settle
logic itself is sound: every path goes through `finish`, which is guarded. What can go wrong is
the code outside it: `http(s).request` and `req.end()` throw on a request that they refuse, and
`new URL` on a `Location` it cannot parse. In the executor that rejects the promise; in a response
callback it escapes from the event loop.

## Main definitions

* `WatchTower.Probe.Total` — what is asked of a probe in every state.
* `WatchTower.Probe.Sound` — the invariant of the settle logic.
* `WatchTower.Probe.Accepts`, `WatchTower.Probe.FollowsSafely` — the conditions under which a
  request, and the following of a redirect, do not throw.

## Main results

* `WatchTower.Probe.handle_rule` — what a callback can do.
* `WatchTower.Probe.total_probeOnce_iff`, `WatchTower.Probe.total_handle_iff` — at the start, and
  at one event, a probe stays total exactly under these conditions.
* `WatchTower.Probe.total_iff` — the same for every run.
-/

namespace WatchTower

open Transition

namespace Probe

/-- What is asked of a probe: the promise is not rejected, no exception has escaped, `resolve`
has been called at most once, and exactly once when the promise is resolved; and when the
deadline timer is no longer pending, because it fired or was cleared, the promise is resolved. -/
structure Total (s : Probe) : Prop where
  notRejected : ∀ err, s.promise ≠ .rejected err
  noEscape : s.escaped = none
  once : s.resolveCalls ≤ 1
  resolved_iff : s.resolveCalls = 1 ↔ ∃ r, s.promise = .resolved r
  settles : s.deadline = false → ∃ r, s.promise = .resolved r

/-- The invariant of the settle logic: nothing has been done, or everything exactly once. -/
structure Sound (s : Probe) : Prop where
  noEscape : s.escaped = none
  settling : (s.settled = false ∧ s.deadline = true ∧ s.promise = .pending ∧ s.resolveCalls = 0) ∨
    (s.settled = true ∧ s.deadline = false ∧ (∃ r, s.promise = .resolved r) ∧ s.resolveCalls = 1)

/-- A sound probe is total. -/
lemma Sound.total {s : Probe} (h : Sound s) : Total s := by
  rcases h.settling with ⟨-, hd, hp, hc⟩ | ⟨-, -, ⟨r, hr⟩, hc⟩
  · exact ⟨by simp [hp], h.noEscape, by omega, by simp [hp, hc], by simp [hd]⟩
  · exact ⟨by simp [hr], h.noEscape, by omega, by simp [hr, hc], fun _ => ⟨r, hr⟩⟩

/-- Soundness is a matter of the variables that the settle logic uses. -/
lemma Sound.of_eq {s s' : Probe} (h : Sound s) (he : s'.escaped = s.escaped)
    (hs : s'.settled = s.settled) (hd : s'.deadline = s.deadline) (hp : s'.promise = s.promise)
    (hc : s'.resolveCalls = s.resolveCalls) : Sound s' :=
  ⟨by rw [he, h.noEscape], by rw [hs, hd, hp, hc]; exact h.settling⟩

variable {env : ProbeEnv} {s : Probe} {t : ℕ}

/-- Changing a hop is sound. -/
lemma Sound.setHop (h : Sound s) (i : ℕ) (f : Hop → Hop) : Sound (s.setHop i f) :=
  h.of_eq rfl rfl rfl rfl rfl

/-- Destroying the current request is sound. -/
lemma Sound.destroyCurrent (h : Sound s) : Sound s.destroyCurrent := by
  unfold Probe.destroyCurrent
  split
  · exact h.setHop _ _
  · exact h

/-- **Settling is sound**: the first time it resolves the promise, and from then on it does
nothing. -/
lemma Sound.finish (h : Sound s) (verdict : Verdict) : Sound (s.finish t verdict) := by
  unfold Probe.finish
  split_ifs with hsettled
  · exact h
  · rcases h.settling with ⟨-, -, hp, hc⟩ | ⟨hs, -⟩
    · have hresolved : Sound (resolve { s with
          settled := true
          deadline := false
          timings := { s.timings with total := some (msSince t s.started) } }
          ⟨verdict, s.redirects, msSince t s.started⟩) :=
        ⟨h.noEscape, .inr ⟨rfl, rfl, ⟨⟨verdict, s.redirects, msSince t s.started⟩,
          by simp only [resolve, hp]⟩, by simp [resolve, hc]⟩⟩
      exact hresolved.destroyCurrent
    · exact absurd hs hsettled

/-- A new probe is sound. -/
lemma sound_fresh (env : ProbeEnv) (t : ℕ) : Sound (fresh env t) :=
  ⟨rfl, .inl ⟨rfl, rfl, rfl, rfl⟩⟩

/-! ## Requests -/

/-- `http(s).request` is not called for the URL, or it and `req.end()` accept the URL with its
headers. -/
def Accepts (env : ProbeEnv) (s : Probe) (targetUrl : String) : Prop :=
  ∀ parsed, env.node.parse targetUrl = some parsed →
    (parsed.protocol = "https:" ∨ parsed.protocol = "http:") →
    env.node.Takes targetUrl (outboundHeaders env s targetUrl)

/-- Issuing a request of an accepted URL returns, in a sound state. -/
lemma request_of_accepts (hs : Sound s) {url : String} (h : Accepts env s url) :
    ∃ s', s.request env t url = .ok s' ∧ Sound s' := by
  unfold request
  cases hp : env.node.parse url with
  | none => exact ⟨_, rfl, hs.finish _⟩
  | some parsed =>
    by_cases hproto : parsed.protocol ≠ "https:" ∧ parsed.protocol ≠ "http:"
    · simp only [hproto, not_false_eq_true, and_self, ne_eq, if_true]
      exact ⟨_, rfl, hs.finish _⟩
    · have hnone := h parsed hp (by tauto)
      simp only [if_neg hproto, hnone.1, hnone.2]
      exact ⟨_, rfl, hs.of_eq rfl rfl rfl rfl rfl⟩

/-- Issuing a request of any other URL throws. -/
lemma request_of_not_accepts {url : String} (h : ¬Accepts env s url) :
    ∃ err, s.request env t url = .error err := by
  simp only [Accepts, not_forall] at h
  obtain ⟨parsed, hp, hproto, hthrows⟩ := h
  have hproto' : ¬(parsed.protocol ≠ "https:" ∧ parsed.protocol ≠ "http:") := by tauto
  simp only [request, hp, if_neg hproto']
  cases hrequest : env.node.requestThrows url (outboundHeaders env s url) with
  | some err => exact ⟨err, rfl⟩
  | none =>
    cases hend : env.node.endThrows url (outboundHeaders env s url) with
    | some err => exact ⟨err, rfl⟩
    | none => exact absurd ⟨hrequest, hend⟩ hthrows

/-- **The start of a probe** is total exactly when the monitored URL is accepted. -/
theorem total_probeOnce_iff :
    Total (probeOnce env t) ↔ Accepts env (fresh env t) env.rawUrl := by
  constructor
  · intro h
    by_contra hne
    obtain ⟨err, herr⟩ := request_of_not_accepts (t := t) hne
    simp only [probeOnce, herr] at h
    exact h.notRejected err rfl
  · intro h
    obtain ⟨s, hs, hsound⟩ := request_of_accepts (t := t) (sound_fresh env t) h
    simp only [probeOnce, hs]
    exact hsound.total

/-- The start of a probe whose URL is accepted is sound. -/
lemma sound_probeOnce (h : Accepts env (fresh env t) env.rawUrl) : Sound (probeOnce env t) := by
  obtain ⟨s, hs, hsound⟩ := request_of_accepts (t := t) (sound_fresh env t) h
  simp only [probeOnce, hs]
  exact hsound

/-! ## Callbacks -/

/-- A `Location` resolves against the URL of its hop, to a URL that is accepted. -/
def Resolves (env : ProbeEnv) (s : Probe) (targetUrl location : String) : Prop :=
  ∃ next, env.node.resolve location targetUrl = .ok next ∧ Accepts env s next

/-- If the event is a response that is followed to its `Location`, that resolves. -/
def FollowsSafely (env : ProbeEnv) (s : Probe) (e : ProbeEvent) : Prop :=
  match e with
  | .response h statusCode location => ∀ hop l, s.hops[h]? = some hop → hop.response = none →
      s.followed env statusCode location = some l → Resolves env s hop.url l
  | _ => True

/-- Following a `Location` that resolves is sound. -/
lemma Sound.follow (hs : Sound s) {url l : String} (h : Resolves env s url l) :
    Sound (s.follow env t url l) := by
  obtain ⟨next, hnext, hacc⟩ := h
  have hs' : Sound { s with redirects := s.redirects + 1 } := hs.of_eq rfl rfl rfl rfl rfl
  have hacc' : Accepts env { s with redirects := s.redirects + 1 } next := hacc
  obtain ⟨s', hreq, hsound⟩ := request_of_accepts (t := t) hs' hacc'
  simp only [Probe.follow, hnext, hreq]
  exact hsound

/-- **Following any other one lets an exception escape.** -/
lemma escaped_follow {url l : String} (h : ¬Resolves env s url l) :
    (s.follow env t url l).escaped ≠ none := by
  cases hnext : env.node.resolve l url with
  | error err => simp [Probe.follow, hnext, Probe.throw]
  | ok next =>
    have hacc : ¬Accepts env { s with redirects := s.redirects + 1 } next := fun hacc =>
      h ⟨next, hnext, hacc⟩
    obtain ⟨err, herr⟩ := request_of_not_accepts (t := t) hacc
    simp [Probe.follow, hnext, herr, Probe.throw]

/-- The response callback is sound when it follows nothing, or a `Location` that resolves. -/
lemma Sound.onResponse (hs : Sound s) {h : ℕ} {hop : Hop} {statusCode : ℕ}
    {location : Option String}
    (hsafe : ∀ l, s.followed env statusCode location = some l → Resolves env s hop.url l) :
    Sound (s.onResponse env t h hop statusCode location) := by
  have hsaw : Sound (s.sawResponse t h statusCode) := hs.of_eq rfl rfl rfl rfl rfl
  have hfollowed : (s.sawResponse t h statusCode).followed env statusCode location =
      s.followed env statusCode location := rfl
  unfold Probe.onResponse
  simp only [hfollowed]
  cases hf : s.followed env statusCode location with
  | some l => exact hsaw.follow (hsafe l hf)
  | none =>
    dsimp only
    split_ifs
    · exact hsaw.finish _
    · exact hsaw.setHop _ _

/-- Another state of a probe, with the same settle logic. -/
structure SameSettling (s s' : Probe) : Prop where
  escaped : s'.escaped = s.escaped
  started : s'.started = s.started
  settled : s'.settled = s.settled
  deadline : s'.deadline = s.deadline
  promise : s'.promise = s.promise
  resolveCalls : s'.resolveCalls = s.resolveCalls

/-- Changing a hop leaves the settle logic alone. -/
lemma sameSettling_setHop (s : Probe) (i : ℕ) (f : Hop → Hop) : SameSettling s (s.setHop i f) :=
  ⟨rfl, rfl, rfl, rfl, rfl, rfl⟩

/-- A listener on a body does nothing, or what it was registered to do. -/
lemma onBody_rule {P : Probe → Prop} (hs : P s) {h : ℕ} {f : ℕ → Probe} (hf : ∀ n, P (f n)) :
    P (s.onBody h f) := by
  unfold Probe.onBody
  split
  · exact hs
  · split
    · exact hs
    · split_ifs
      · exact hf _
      · exact hs

/-- So does a phase listener. -/
lemma onPhase_rule {P : Probe → Prop} (hs : P s) {h : ℕ} {seen : SocketMarks → Bool}
    {f : Hop → SocketMarks → Probe} (hf : ∀ hop k, P (f hop k)) :
    P (s.onPhase h seen f) := by
  unfold Probe.onPhase
  split
  · exact hs
  · split
    · exact hs
    · split_ifs
      · exact hf _ _
      · exact hs

/-- **What a callback does**: it settles the probe, or leaves the settle logic alone, or is the
response callback of a hop. -/
theorem handle_rule {P : Probe → Prop} {e : ProbeEvent}
    (hfinish : ∀ verdict, P (s.finish t verdict)) (hsame : ∀ s', SameSettling s s' → P s')
    (hresponse : ∀ h statusCode location hop, e = .response h statusCode location →
      s.hops[h]? = some hop → hop.response = none →
      P (s.onResponse env t h hop statusCode location)) :
    P (s.handle env t e) := by
  have hs : P s := hsame s ⟨rfl, rfl, rfl, rfl, rfl, rfl⟩
  cases e with
  | deadline =>
    simp only [Probe.handle]
    split_ifs
    · exact hfinish _
    · exact hs
  | response h statusCode location =>
    simp only [Probe.handle]
    split
    · exact hs
    · rename_i hop hhop
      split_ifs with hresp
      · exact hs
      · exact hresponse h statusCode location hop rfl hhop (by simpa using hresp)
  | data h length => exact onBody_rule hs fun _ => hsame _ (sameSettling_setHop s _ _)
  | bodyError h => exact onBody_rule hs fun _ => hfinish _
  | bodyEnd h => exact onBody_rule hs fun _ => hfinish _
  | bodyClose h => exact onBody_rule hs fun _ => hfinish _
  | socket h connecting =>
    simp only [Probe.handle]
    split
    · exact hs
    · split_ifs
      · exact hs
      · exact hsame _ (sameSettling_setHop s _ _)
  | socketError h err =>
    simp only [Probe.handle]
    split
    · exact hs
    · split_ifs
      · exact hfinish _
      · exact hs
  | lookup h => exact onPhase_rule hs fun _ _ => hsame _ ⟨rfl, rfl, rfl, rfl, rfl, rfl⟩
  | connect h => exact onPhase_rule hs fun _ _ => hsame _ ⟨rfl, rfl, rfl, rfl, rfl, rfl⟩
  | secureConnect h => exact onPhase_rule hs fun _ _ => hsame _ ⟨rfl, rfl, rfl, rfl, rfl, rfl⟩
  | requestError h err =>
    simp only [Probe.handle]
    split
    · exact hs
    · exact hfinish _

/-- **Every callback is sound**, if its event follows safely. -/
theorem Sound.handle (hs : Sound s) {e : ProbeEvent} (hsafe : FollowsSafely env s e) :
    Sound (s.handle env t e) := by
  refine handle_rule (fun verdict => hs.finish verdict) (fun s' h => ?_) ?_
  · exact hs.of_eq h.escaped h.settled h.deadline h.promise h.resolveCalls
  · rintro h statusCode location hop rfl hhop hresp
    exact hs.onResponse fun l hl => hsafe hop l hhop hresp hl

/-- **At one event**, a sound probe stays total exactly when the event follows safely. -/
theorem total_handle_iff (hs : Sound s) (e : ProbeEvent) :
    Total (s.handle env t e) ↔ FollowsSafely env s e := by
  refine ⟨fun h => ?_, fun h => (hs.handle h).total⟩
  cases e with
  | response i statusCode location =>
    intro hop l hhop hresp hl
    by_contra hne
    have hne' : ¬Resolves env (s.sawResponse t i statusCode) hop.url l := hne
    have hfollowed : (s.sawResponse t i statusCode).followed env statusCode location = some l := hl
    have hesc := escaped_follow (t := t) hne'
    simp only [Probe.handle, hhop, hresp, Option.isSome_none, Bool.false_eq_true, if_false,
      Probe.onResponse, hfollowed] at h
    exact hesc h.noEscape
  | _ => trivial

/-! ## Runs -/

/-- What is asked of a probe throughout a run: it is total at the start and after every event. -/
def TotalThroughout (env : ProbeEnv) (t : ℕ) (es : List TimedEvent) : Prop :=
  Total (probeOnce env t) ∧
    AllSteps (ProbeStep env) (fun _ _ s => Total s) (probeOnce env t) es

/-- When it is: the monitored URL is accepted, and so is every redirect that is followed. -/
def SafeThroughout (env : ProbeEnv) (t : ℕ) (es : List TimedEvent) : Prop :=
  Accepts env (fresh env t) env.rawUrl ∧
    AllSteps (ProbeStep env) (fun s e _ => FollowsSafely env s e.2) (probeOnce env t) es

/-- **A probe is total throughout a run exactly when the run is safe.** -/
theorem total_iff (env : ProbeEnv) (t : ℕ) (es : List TimedEvent) :
    TotalThroughout env t es ↔ SafeThroughout env t es := by
  have hiff : ∀ s e s', Sound s → ProbeStep env s e s' →
      (Total s' ↔ FollowsSafely env s e.2) := by
    rintro s e s' hs ⟨-, rfl⟩
    exact total_handle_iff hs e.2
  have hinv : ∀ s e s', Sound s → ProbeStep env s e s' → FollowsSafely env s e.2 → Sound s' := by
    rintro s e s' hs ⟨-, rfl⟩ hsafe
    exact hs.handle hsafe
  rw [TotalThroughout, SafeThroughout, total_probeOnce_iff]
  exact and_congr_right fun hacc => allSteps_iff hiff hinv (sound_probeOnce hacc) es

end Probe

end WatchTower

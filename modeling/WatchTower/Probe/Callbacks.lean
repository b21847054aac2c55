import WatchTower.Probe.Totality

set_option relaxedAutoImplicit false
set_option autoImplicit false

/-!
# What the callbacks of a probe do to its hops

Every callback does one of a few things: it settles the probe, marks a hop, or answers one, and an
answer opens at most one more request. This module says so once, for the results about the hops of a
probe.

## Main definitions

* `WatchTower.ProbeEvent.hop` — the hop an event belongs to.
* `WatchTower.Node.IsWeb` — the URLs that are requested.
* `WatchTower.Probe.issue` — one more request.
* `WatchTower.Probe.Outcome` — what a callback can do, by its event.
* `WatchTower.Probe.Chained` — the hops of a probe: all but the last have been followed.

## Main results

* `WatchTower.Probe.outcome_handle` — every callback does one of these things.
* `WatchTower.Probe.Chained.handle` — and keeps the hops chained.
-/

namespace WatchTower

open Transition

/-- The hop an event belongs to. The deadline is that of the whole probe. -/
def ProbeEvent.hop : ProbeEvent → Option ℕ
  | .deadline => none
  | .response h _ _ | .data h _ | .bodyError h | .bodyEnd h | .bodyClose h | .socket h _
  | .socketError h _ | .lookup h | .connect h | .secureConnect h | .requestError h _ => some h

/-- The phases of a connection, which are timed. -/
def ProbeEvent.IsPhase : ProbeEvent → Prop
  | .lookup _ | .connect _ | .secureConnect _ => True
  | _ => False

/-- A URL that `http(s).request` is called for. -/
def Node.IsWeb (node : Node) (url : String) : Prop :=
  ∃ parsed, node.parse url = some parsed ∧
    (parsed.protocol = "https:" ∨ parsed.protocol = "http:")

namespace Probe

variable {env : ProbeEnv} {s s' : Probe} {t : ℕ} {e : ProbeEvent}

/-! ## Requests -/

/-- One more request, now the current one. -/
def issue (env : ProbeEnv) (s : Probe) (t : ℕ) (url : String) : Probe :=
  { s with
    hops := s.hops ++ [newHop url (outboundHeaders env s url) t]
    currentReq := some s.hops.length }

/-- **What `request` does**: it settles the probe, throws, or issues one more request. -/
lemma request_cases (env : ProbeEnv) (s : Probe) (t : ℕ) (url : String) :
    (¬env.node.IsWeb url ∧ ∃ verdict, s.request env t url = .ok (s.finish t verdict)) ∨
      (env.node.IsWeb url ∧
        ((∃ err, s.request env t url = .error err) ∨
          s.request env t url = .ok (s.issue env t url))) := by
  unfold request
  cases hp : env.node.parse url with
  | none => exact .inl ⟨by simp [Node.IsWeb, hp], _, rfl⟩
  | some parsed =>
    by_cases hproto : parsed.protocol ≠ "https:" ∧ parsed.protocol ≠ "http:"
    · refine .inl ⟨?_, _, if_pos hproto⟩
      simpa [Node.IsWeb, hp, not_or] using hproto
    · refine .inr ⟨⟨parsed, hp, by tauto⟩, ?_⟩
      simp only [if_neg hproto]
      cases env.node.requestThrows url (outboundHeaders env s url) with
      | some err => exact .inl ⟨err, rfl⟩
      | none =>
        cases env.node.endThrows url (outboundHeaders env s url) with
        | some err => exact .inl ⟨err, rfl⟩
        | none => exact .inr rfl

/-- A redirect is counted before it is requested. -/
def countRedirect (s : Probe) : Probe := { s with redirects := s.redirects + 1 }

/-- **What following a `Location` does**, after it has been counted: an exception escapes, or, by
the URL it leads to, the probe settles or one more request is issued. -/
lemma follow_cases (env : ProbeEnv) (s : Probe) (t : ℕ) (url location : String) :
    ((∀ next, env.node.resolve location url = .ok next → env.node.IsWeb next) ∧
        ∃ err, s.follow env t url location = s.countRedirect.throw err) ∨
      (∃ next, env.node.resolve location url = .ok next ∧ ¬env.node.IsWeb next ∧
        ∃ verdict, s.follow env t url location = s.countRedirect.finish t verdict) ∨
      ∃ next, env.node.resolve location url = .ok next ∧ env.node.IsWeb next ∧
        s.follow env t url location = s.countRedirect.issue env t next := by
  unfold follow
  cases hnext : env.node.resolve location url with
  | error err => exact .inl ⟨by simp, err, rfl⟩
  | ok next =>
    rcases request_cases env s.countRedirect t next with
      ⟨hweb, verdict, h⟩ | ⟨hweb, ⟨err, h⟩ | h⟩
    · right; left
      exact ⟨next, rfl, hweb, verdict, by
        simp only [countRedirect] at h; simp only [h, countRedirect]⟩
    · left
      exact ⟨by simpa using hweb, err, by
        simp only [countRedirect] at h; simp only [h, countRedirect]⟩
    · right; right
      exact ⟨next, rfl, hweb, by simp only [countRedirect] at h; simp only [h, countRedirect]⟩

/-! ## What a callback does -/

/-- A change of a hop that leaves its request and its answer alone. -/
structure KeepsExchange (f : Hop → Hop) : Prop where
  url : ∀ hop, (f hop).url = hop.url
  headers : ∀ hop, (f hop).headers = hop.headers
  response : ∀ hop, (f hop).response = hop.response
  listening : ∀ hop, (f hop).listening = hop.listening
  destroyed : ∀ hop, (f hop).destroyed = hop.destroyed

/-- The second guard of the response callback: there is a `Location`, and no redirect is left. -/
def GivesUp (env : ProbeEnv) (s : Probe) (location : Option String) : Prop :=
  location.any (· ≠ "") = true ∧ env.maxRedirects ≤ s.redirects

/-- The verdict of the redirect cap. -/
def tooManyRedirects (env : ProbeEnv) (statusCode : ℕ) : Verdict where
  status := .down
  statusCode := some statusCode
  error := some ("Exceeded " ++ toString env.maxRedirects ++ " redirects")
  errorCode := some "ERR_TOO_MANY_REDIRECTS"
  retryable := false

/-- What a callback can do, by its event: nothing, settle the probe, mark a hop, or answer one. An
answered hop is followed, which may also fail, or it settles the probe, or its body is listened to.
-/
inductive Outcome (env : ProbeEnv) (s : Probe) (t : ℕ) : ProbeEvent → Probe → Prop
  | ignored (e : ProbeEvent) : Outcome env s t e s
  | expired : s.deadline = true → Outcome env s t .deadline (s.finish t (deadlineVerdict env))
  | graded {e : ProbeEvent} {h statusCode : ℕ} {hop : Hop} :
      e = .bodyError h ∨ e = .bodyEnd h ∨ e = .bodyClose h → s.hops[h]? = some hop →
      hop.response = some statusCode → hop.listening = true →
      Outcome env s t e (s.settleWithStatus t statusCode)
  | failed {e : ProbeEvent} {h : ℕ} {hop : Hop} {err : NodeError} :
      e = .requestError h err ∨ e = .socketError h err ∧ hop.socket.isSome →
      s.hops[h]? = some hop → Outcome env s t e (s.fail t err)
  | received {h length : ℕ} {hop : Hop} : s.hops[h]? = some hop → hop.listening = true →
      Outcome env s t (.data h length) (s.onData h length)
  | marked {e : ProbeEvent} {h : ℕ} {marks : SocketMarks} {timings : Timings} :
      e.hop = some h → (timings = s.timings ∨ e.IsPhase) →
        Outcome env s t e ({ s with timings := timings }.setSocket h marks)
  | threw {h statusCode : ℕ} {location : Option String} {hop : Hop} {l : String} {err : JsError} :
      s.hops[h]? = some hop → hop.response = none →
      s.followed env statusCode location = some l →
      Outcome env s t (.response h statusCode location)
        ((s.sawResponse t h statusCode).countRedirect.throw err)
  | refused {h statusCode : ℕ} {location : Option String} {hop : Hop} {l : String}
      {verdict : Verdict} :
      s.hops[h]? = some hop → hop.response = none →
      s.followed env statusCode location = some l →
      Outcome env s t (.response h statusCode location)
        ((s.sawResponse t h statusCode).countRedirect.finish t verdict)
  | issued {h statusCode : ℕ} {location : Option String} {hop : Hop} {l next : String} :
      s.hops[h]? = some hop → hop.response = none →
      s.followed env statusCode location = some l → env.node.resolve l hop.url = .ok next →
      env.node.IsWeb next →
      Outcome env s t (.response h statusCode location)
        ((s.sawResponse t h statusCode).countRedirect.issue env t next)
  | capped {h statusCode : ℕ} {location : Option String} {hop : Hop} :
      s.hops[h]? = some hop → hop.response = none →
      s.followed env statusCode location = none → s.GivesUp env location →
      Outcome env s t (.response h statusCode location)
        ((s.sawResponse t h statusCode).finish t (tooManyRedirects env statusCode))
  | listened {h statusCode : ℕ} {location : Option String} {hop : Hop} :
      s.hops[h]? = some hop → hop.response = none →
      s.followed env statusCode location = none → ¬s.GivesUp env location →
      Outcome env s t (.response h statusCode location)
        ((s.sawResponse t h statusCode).setHop h fun hop => { hop with listening := true })

/-- What a listener on a body does. -/
lemma outcome_onBody {h : ℕ} {f : ℕ → Probe}
    (hf : ∀ hop statusCode, s.hops[h]? = some hop → hop.response = some statusCode →
      hop.listening = true → Outcome env s t e (f statusCode)) :
    Outcome env s t e (s.onBody h f) := by
  unfold onBody
  cases hhop : s.hops[h]? with
  | none => exact .ignored e
  | some hop =>
    cases hresp : hop.response with
    | none => simpa [hresp] using Outcome.ignored e
    | some statusCode =>
      by_cases hl : hop.listening = true
      · simpa [hresp, hl] using hf hop statusCode hhop hresp hl
      · simpa [hresp, hl] using Outcome.ignored e

/-- What a phase listener does. -/
lemma outcome_onPhase {h : ℕ} {seen : SocketMarks → Bool} {f : Hop → SocketMarks → Probe}
    (hf : ∀ hop k, Outcome env s t e (f hop k)) :
    Outcome env s t e (s.onPhase h seen f) :=
  onPhase_rule (P := Outcome env s t e) (.ignored e) hf

/-- What the response callback of an unanswered hop does. -/
lemma outcome_onResponse {h statusCode : ℕ} {location : Option String} {hop : Hop}
    (hhop : s.hops[h]? = some hop) (hresp : hop.response = none) :
    Outcome env s t (.response h statusCode location)
      (s.onResponse env t h hop statusCode location) := by
  have hfollowed : (s.sawResponse t h statusCode).followed env statusCode location =
      s.followed env statusCode location := rfl
  unfold onResponse
  simp only [hfollowed]
  cases hf : s.followed env statusCode location with
  | some l =>
    dsimp only
    rcases follow_cases env (s.sawResponse t h statusCode) t hop.url l with
      ⟨-, err, h⟩ | ⟨next, -, -, verdict, h⟩ | ⟨next, hnext, hweb, h⟩
    · rw [h]
      exact .threw hhop hresp hf
    · rw [h]
      exact .refused hhop hresp hf
    · rw [h]
      exact .issued hhop hresp hf hnext hweb
  | none =>
    dsimp only
    split_ifs with hcap
    · exact .capped hhop hresp hf hcap
    · exact .listened hhop hresp hf hcap

/-- **Every callback does one of these things.** -/
theorem outcome_handle (env : ProbeEnv) (s : Probe) (t : ℕ) (e : ProbeEvent) :
    Outcome env s t e (s.handle env t e) := by
  cases e with
  | deadline =>
    simp only [handle]
    split_ifs with h
    · exact .expired h
    · exact .ignored _
  | response h statusCode location =>
    simp only [handle]
    cases hhop : s.hops[h]? with
    | none => exact .ignored _
    | some hop =>
      dsimp only
      split_ifs with hresp
      · exact .ignored _
      · exact outcome_onResponse hhop (by simpa using hresp)
  | data h length => exact outcome_onBody fun hop _ hhop _ hl => .received hhop hl
  | bodyError h => exact outcome_onBody fun hop _ hhop hr hl => .graded (.inl rfl) hhop hr hl
  | bodyEnd h => exact outcome_onBody fun hop _ hhop hr hl => .graded (.inr (.inl rfl)) hhop hr hl
  | bodyClose h =>
    exact outcome_onBody fun hop _ hhop hr hl => .graded (.inr (.inr rfl)) hhop hr hl
  | socket h connecting =>
    simp only [handle]
    split
    · exact .ignored _
    · split_ifs
      · exact .ignored _
      · exact .marked rfl (.inl rfl)
  | socketError h err =>
    simp only [handle]
    cases hhop : s.hops[h]? with
    | none => exact .ignored _
    | some hop =>
      dsimp only
      split_ifs with hsocket
      · exact .failed (.inr ⟨rfl, hsocket⟩) hhop
      · exact .ignored _
  | lookup h => exact outcome_onPhase fun _ _ => .marked rfl (.inr trivial)
  | connect h => exact outcome_onPhase fun _ _ => .marked rfl (.inr trivial)
  | secureConnect h => exact outcome_onPhase fun _ _ => .marked rfl (.inr trivial)
  | requestError h err =>
    simp only [handle]
    cases hhop : s.hops[h]? with
    | none => exact .ignored _
    | some hop => exact .failed (.inl rfl) hhop

/-! ## The chain of hops -/

/-- What holds of a hop in every state. All but the last have been followed: they have an answer,
and their bodies are not listened to. A body is listened to after the answer, and destroyed only for
the bytes that a listener saw; no request is destroyed before the probe has settled. -/
structure Regular (settled : Bool) (last : Prop) (hop : Hop) : Prop where
  followed : ¬last → hop.response.isSome = true ∧ hop.listening = false
  heard : hop.listening = true → hop.response.isSome = true
  sized : hop.bodyDestroyed = true → hop.listening = true
  kept : settled = false → hop.destroyed = false

/-- The current request is the last one, every hop is regular, and until the probe settles its
promise is pending. -/
structure Chained (s : Probe) : Prop where
  current : ∀ h, s.currentReq = some h ↔ h + 1 = s.hops.length
  pending : s.hops ≠ [] → s.settled = false → s.promise = .pending
  regular : ∀ i hop, s.hops[i]? = some hop → Regular s.settled (i + 1 = s.hops.length) hop

/-- A hop without an answer is the last one. -/
lemma Chained.last_of_unanswered (hs : s.Chained) {h : ℕ} {hop : Hop} (hhop : s.hops[h]? = some hop)
    (hresp : hop.response = none) : h + 1 = s.hops.length := by
  by_contra hne
  simpa [hresp] using ((hs.regular h hop hhop).followed hne).1

/-- Settling only makes a hop's conditions weaker. -/
lemma Regular.settle {settled settled' : Bool} {last : Prop} {hop : Hop}
    (h : Regular settled last hop) (hsettled : settled' = false → settled = false) :
    Regular settled' last hop :=
  ⟨h.followed, h.heard, h.sized, fun h' => h.kept (hsettled h')⟩

/-- A change of one hop keeps the chain if it keeps that hop regular. -/
lemma Chained.of_modify (hs : s.Chained) {h : ℕ} {f : Hop → Hop}
    (hhops : s'.hops = s.hops.modify h f) (hcurrent : s'.currentReq = s.currentReq)
    (hsettled : s'.settled = false → s.settled = false ∧ s'.promise = s.promise)
    (hf : ∀ hop, s.hops[h]? = some hop → Regular s.settled (h + 1 = s.hops.length) hop →
      Regular s'.settled (h + 1 = s.hops.length) (f hop)) : s'.Chained where
  current i := by rw [hcurrent, hs.current, hhops, List.length_modify]
  pending hne h := by
    rw [(hsettled h).2]
    refine hs.pending (fun hnil => hne ?_) (hsettled h).1
    rw [hhops, hnil, List.modify_nil]
  regular i hop' hhop' := by
    rw [hhops, List.getElem?_modify] at hhop'
    obtain ⟨hop, hhop, rfl⟩ := Option.map_eq_some_iff.1 hhop'
    rw [hhops, List.length_modify]
    by_cases hi : h = i
    · subst hi
      simpa using hf hop hhop (hs.regular h hop hhop)
    · simpa [hi] using (hs.regular i hop hhop).settle fun h => (hsettled h).1

/-- A probe with the same hops and settled no earlier. -/
lemma Chained.of_eq (hs : s.Chained) (hhops : s'.hops = s.hops)
    (hcurrent : s'.currentReq = s.currentReq)
    (hsettled : s'.settled = false → s.settled = false ∧ s'.promise = s.promise) :
    s'.Chained where
  current i := by rw [hcurrent, hs.current, hhops]
  pending hne h := by
    rw [(hsettled h).2]
    exact hs.pending (hhops ▸ hne) (hsettled h).1
  regular i hop hhop := by
    rw [hhops] at hhop ⊢
    exact (hs.regular i hop hhop).settle fun h => (hsettled h).1

/-- What settling does to the hops: the current one is destroyed. -/
lemma hops_finish (h : s.settled = false) (verdict : Verdict) :
    (s.finish t verdict).hops = match s.currentReq with
      | some i => s.hops.modify i fun hop => { hop with destroyed := true }
      | none => s.hops := by
  simp only [finish, h, Bool.false_eq_true, if_false, destroyCurrent, resolve]
  cases s.currentReq <;> rfl

/-- What a change of one hop leaves alone. -/
lemma map_modify_of_getElem? {α : Type} {g : Hop → α} {f : Hop → Hop} {l : List Hop} {h : ℕ}
    (hf : ∀ hop, l[h]? = some hop → g (f hop) = g hop) : (l.modify h f).map g = l.map g := by
  refine List.ext_getElem? fun i => ?_
  rw [List.getElem?_map, List.getElem?_map, List.getElem?_modify, Option.map_eq_map,
    Option.map_map]
  refine Option.map_congr fun hop hhop => ?_
  by_cases hi : h = i
  · subst hi
    simp [hf hop hhop]
  · simp [hi]

/-- What a change of hops leaves alone in every hop. -/
lemma map_modify {α : Type} {g : Hop → α} {f : Hop → Hop} (hf : ∀ hop, g (f hop) = g hop)
    (l : List Hop) (h : ℕ) : (l.modify h f).map g = l.map g :=
  map_modify_of_getElem? fun hop _ => hf hop

/-- A settled probe ignores every further verdict. -/
@[simp] lemma finish_of_settled (h : s.settled = true) (verdict : Verdict) :
    s.finish t verdict = s := if_pos h

/-- After a verdict the probe is settled. -/
@[simp] lemma settled_finish (s : Probe) (t : ℕ) (verdict : Verdict) :
    (s.finish t verdict).settled = true := by
  by_cases h : s.settled = true
  · rw [finish_of_settled h, h]
  · simp only [finish, h, destroyCurrent, resolve]
    cases s.currentReq <;> rfl

/-- A verdict opens no request. -/
@[simp] lemma currentReq_finish (s : Probe) (t : ℕ) (verdict : Verdict) :
    (s.finish t verdict).currentReq = s.currentReq := by
  by_cases h : s.settled = true
  · rw [finish_of_settled h]
  · simp only [finish, h, destroyCurrent, resolve]
    cases s.currentReq <;> simp [setHop]

/-- Settling leaves of the hops what does not tell whether they are destroyed. -/
lemma map_hops_finish {α : Type} {g : Hop → α}
    (hg : ∀ hop, g { hop with destroyed := true } = g hop)
    (s : Probe) (t : ℕ) (verdict : Verdict) :
    (s.finish t verdict).hops.map g = s.hops.map g := by
  cases hsettled : s.settled with
  | true => rw [finish_of_settled hsettled]
  | false =>
    rw [hops_finish hsettled]
    cases s.currentReq with
    | none => rfl
    | some i => exact map_modify hg _ _

/-- Settling leaves the redirects alone, and what has been thrown. -/
lemma finish_keeps (s : Probe) (t : ℕ) (verdict : Verdict) :
    (s.finish t verdict).initialOrigin = s.initialOrigin ∧
      (s.finish t verdict).redirects = s.redirects ∧
      (s.finish t verdict).escaped = s.escaped := by
  unfold finish
  split_ifs
  · exact ⟨rfl, rfl, rfl⟩
  · simp only [destroyCurrent, resolve]
    cases s.currentReq <;> exact ⟨rfl, rfl, rfl⟩

/-- A verdict on a pending promise resolves it. -/
lemma promise_finish (hsettled : s.settled = false) (hpending : s.promise = .pending)
    (verdict : Verdict) : (s.finish t verdict).promise =
      .resolved ⟨verdict, s.redirects, msSince t s.started⟩ := by
  simp only [finish, hsettled, resolve, hpending, destroyCurrent, setHop]
  cases s.currentReq <;> rfl

/-- Settling keeps the chain. -/
lemma Chained.finish (hs : s.Chained) (verdict : Verdict) : (s.finish t verdict).Chained := by
  cases hsettled : s.settled with
  | true => rwa [finish_of_settled hsettled]
  | false =>
    have hhops := hops_finish (t := t) hsettled verdict
    cases hcur : s.currentReq with
    | none =>
      rw [hcur] at hhops
      exact hs.of_eq hhops (currentReq_finish _ _ _) (by simp)
    | some i =>
      rw [hcur] at hhops
      refine hs.of_modify hhops (currentReq_finish _ _ _) (by simp) fun hop _ h => ?_
      exact ⟨h.followed, h.heard, h.sized, by simp⟩

/-- An answer keeps the chain. -/
lemma Chained.sawResponse (hs : s.Chained) (h statusCode : ℕ) :
    (s.sawResponse t h statusCode).Chained := by
  refine hs.of_modify rfl rfl (fun h => ⟨h, rfl⟩) fun hop _ hr => ?_
  exact ⟨fun hne => ⟨rfl, (hr.followed hne).2⟩, fun _ => rfl, hr.sized, hr.kept⟩

/-- One more request after the answer of the last keeps the chain. -/
lemma Chained.issue (hs : s.Chained) {url : String}
    (hlast : ∀ hop, s.hops.getLast? = some hop → hop.response.isSome = true ∧ hop.listening = false)
    (hpending : s.settled = false → s.promise = .pending) : (s.issue env t url).Chained where
  current i := by simp [Probe.issue, eq_comm]
  pending _ := hpending
  regular i hop hhop := by
    have hlen : (s.issue env t url).hops.length = s.hops.length + 1 := by simp [Probe.issue]
    rw [hlen]
    rcases Nat.lt_or_ge i s.hops.length with hi | hi
    · rw [Probe.issue, List.getElem?_append_left hi] at hhop
      have hr := hs.regular i hop hhop
      refine ⟨fun _ => ?_, hr.heard, hr.sized, hr.kept⟩
      by_cases hl : i + 1 = s.hops.length
      · exact hlast hop (by rw [List.getLast?_eq_getElem?, ← hl, Nat.add_sub_cancel, hhop])
      · exact hr.followed hl
    · rw [Probe.issue, List.getElem?_append_right hi, List.getElem?_singleton] at hhop
      split_ifs at hhop with hi0
      obtain rfl := Option.some.inj hhop
      exact ⟨fun hne => absurd (by omega) hne, by simp [newHop], by simp [newHop],
        fun _ => rfl⟩

/-- Counting a redirect keeps the chain. -/
lemma Chained.countRedirect (hs : s.Chained) : s.countRedirect.Chained :=
  hs.of_eq rfl rfl fun h => ⟨h, rfl⟩

/-- The hop that answers. -/
lemma getElem?_sawResponse (t statusCode : ℕ) {h : ℕ} {hop : Hop} (hhop : s.hops[h]? = some hop) :
    (s.sawResponse t h statusCode).hops[h]? = some { hop with response := some statusCode } := by
  simp [sawResponse, setHop, hhop]

/-- **Every callback keeps the hops chained.** -/
theorem Chained.handle (hs : s.Chained) (env : ProbeEnv) (t : ℕ) (e : ProbeEvent) :
    (s.handle env t e).Chained := by
  have hout := outcome_handle env s t e
  generalize s.handle env t e = s' at hout
  cases hout with
  | ignored => exact hs
  | expired => exact hs.finish _
  | graded => exact hs.finish _
  | failed => exact hs.finish _
  | received hhop hl =>
    refine hs.of_modify rfl rfl (fun h => ⟨h, rfl⟩) fun hop hhop' hr => ?_
    obtain rfl := Option.some.inj (hhop.symm.trans hhop')
    exact ⟨hr.followed, hr.heard, fun _ => hl, hr.kept⟩
  | marked =>
    refine hs.of_modify rfl rfl (fun h => ⟨h, rfl⟩) fun hop _ hr => ?_
    exact ⟨hr.followed, hr.heard, hr.sized, hr.kept⟩
  | threw => exact (hs.sawResponse _ _).countRedirect.of_eq rfl rfl fun h => ⟨h, rfl⟩
  | refused => exact (hs.sawResponse _ _).countRedirect.finish _
  | @issued h statusCode location hop l next hhop hresp =>
    refine (hs.sawResponse h statusCode).countRedirect.issue (fun hop' hhop' => ?_)
      (hs.pending (List.ne_nil_of_mem (List.mem_of_getElem? hhop)))
    -- The hop that answers is the last, and nothing listens to its body yet.
    have hlen : (s.sawResponse t h statusCode).hops.length - 1 = h := by
      rw [← Nat.add_sub_cancel (n := h) (m := 1), hs.last_of_unanswered hhop hresp]
      simp [Probe.sawResponse, setHop]
    rw [List.getLast?_eq_getElem?, Probe.countRedirect, hlen,
      getElem?_sawResponse t statusCode hhop] at hhop'
    obtain rfl := Option.some.inj hhop'
    refine ⟨rfl, Bool.eq_false_iff.2 fun hl => ?_⟩
    simpa [hresp] using (hs.regular h hop hhop).heard hl
  | capped => exact (hs.sawResponse _ _).finish _
  | @listened h statusCode location hop hhop hresp =>
    refine (hs.sawResponse (t := t) h statusCode).of_modify rfl rfl (fun h => ⟨h, rfl⟩)
      fun hop' hhop' hr => ?_
    rw [getElem?_sawResponse t statusCode hhop] at hhop'
    obtain rfl := Option.some.inj hhop'
    refine ⟨fun hne => absurd ?_ hne, fun _ => rfl, fun _ => rfl, hr.kept⟩
    rw [hs.last_of_unanswered hhop hresp]
    simp [Probe.sawResponse, setHop]

/-- A probe that has issued no request is chained. -/
lemma chained_of_nil (hhops : s.hops = []) (hcurrent : s.currentReq = none) : s.Chained where
  current := by simp [hhops, hcurrent]
  pending := by simp [hhops]
  regular := by simp [hhops]

/-- **The hops of a new probe are chained.** -/
theorem chained_probeOnce (env : ProbeEnv) (t : ℕ) : (probeOnce env t).Chained := by
  have hfresh : (fresh env t).Chained := chained_of_nil rfl rfl
  rcases request_cases env (fresh env t) t env.rawUrl with
    ⟨-, verdict, h⟩ | ⟨-, ⟨err, h⟩ | h⟩ <;> simp only [probeOnce, h]
  · exact hfresh.finish verdict
  · exact chained_of_nil rfl rfl
  · exact hfresh.issue (by simp [fresh]) fun _ => rfl

/-- The hops are chained in every state that a probe reaches. -/
lemma chained_of_run {es : List TimedEvent} (h : Run (ProbeStep env) (probeOnce env t) es s) :
    s.Chained := by
  have hinv : ∀ (s : Probe) e s', s.Chained → ProbeStep env s e s' → s'.Chained := by
    rintro s e s' hs ⟨-, rfl⟩
    exact hs.handle env e.1 e.2
  exact h.invariant hinv (chained_probeOnce env t)

end Probe

end WatchTower

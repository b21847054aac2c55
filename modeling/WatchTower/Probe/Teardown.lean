import WatchTower.Probe.Callbacks
import WatchTower.Probe.CheckMonitor

set_option relaxedAutoImplicit false
set_option autoImplicit false

/-!
# Which connections a settled probe leaves open

`finish` destroys `currentReq`, the request issued last. The requests before it have been followed:
their bodies are resumed, to be discarded, and nothing keeps a reference to them. So when the probe
settles, an earlier hop is closed only if it has come to its end by itself.

## Main definitions

* `WatchTower.Probe.Ended` — a hop whose exchange has come to its end.
* `WatchTower.Probe.TornDown` — every request of a resolved probe has ended or is destroyed.
* `WatchTower.Probe.NodeStep` — a callback, of a request that has not been destroyed.
* `WatchTower.Probe.Settles` — the events that settle a probe.
* `WatchTower.Probe.OutlivesHops` — a probe that settles after its earlier hops have ended.

## Main results

* `WatchTower.Probe.settles_cases` — a callback settles the probe at exactly these events, and then
  by one call of `finish`.
* `WatchTower.tornDown_iff` — no connection survives a settled probe, throughout a run, exactly when
  it settles after its earlier hops have ended.
-/

namespace WatchTower

open Transition

namespace Probe

/-- An event with which the exchange of a hop comes to its end: its body ends, closes or fails, or
its socket or request fails. -/
def EndsHop (h : ℕ) : ProbeEvent → Prop
  | .bodyEnd i | .bodyClose i | .bodyError i | .socketError i _ | .requestError i _ => i = h
  | _ => False

/-- The exchange of a hop has come to its end. -/
def Ended (es : List TimedEvent) (h : ℕ) : Prop := ∃ e ∈ es, EndsHop h e.2

/-- When the promise is resolved, every request has been destroyed, alone or with its response, or
its exchange has ended. -/
def TornDown (es : List TimedEvent) (s : Probe) : Prop :=
  (∃ r, s.promise = .resolved r) → ∀ h hop, s.hops[h]? = some hop →
    hop.destroyed = true ∨ hop.bodyDestroyed = true ∨ Ended es h

/-- Node emits no response of a request that has been destroyed. -/
def SilentOnceDestroyed (s : Probe) (e : ProbeEvent) : Prop :=
  ∀ h statusCode location hop, e = .response h statusCode location → s.hops[h]? = some hop →
    hop.destroyed = false

/-- The callbacks of a probe, of events that Node emits. -/
def NodeStep (env : ProbeEnv) (s : Probe) (e : TimedEvent) (s' : Probe) : Prop :=
  ProbeStep env s e s' ∧ s.SilentOnceDestroyed e.2

/-! ## The events that settle -/

/-- The response settles the probe: it is followed to a URL that is not requested, or it comes when
no redirect is left. -/
def SettlesByResponse (env : ProbeEnv) (s : Probe) (hop : Hop) (statusCode : ℕ)
    (location : Option String) : Prop :=
  match s.followed env statusCode location with
  | some l => ∃ next, env.node.resolve l hop.url = .ok next ∧ ¬env.node.IsWeb next
  | none => s.GivesUp env location

/-- The events that settle a probe: the deadline; the end of a body that is listened to; an error of
a request or its socket; and some responses. -/
def Settles (env : ProbeEnv) (s : Probe) (e : ProbeEvent) : Prop :=
  s.settled = false ∧ match e with
    | .deadline => s.deadline = true
    | .response h statusCode location => ∃ hop, s.hops[h]? = some hop ∧ hop.response = none ∧
        SettlesByResponse env s hop statusCode location
    | .bodyError h | .bodyEnd h | .bodyClose h => ∃ hop, s.hops[h]? = some hop ∧
        hop.response.isSome = true ∧ hop.listening = true
    | .socketError h _ => ∃ hop, s.hops[h]? = some hop ∧ hop.socket.isSome = true
    | .requestError h _ => h < s.hops.length
    | _ => False

/-- A probe that answers a hop at most, before it settles. -/
structure SameHops (s s₀ : Probe) : Prop where
  settled : s₀.settled = s.settled
  promise : s₀.promise = s.promise
  currentReq : s₀.currentReq = s.currentReq
  length : s₀.hops.length = s.hops.length
  destroyed : ∀ (i : ℕ) (hop₀ : Hop), s₀.hops[i]? = some hop₀ → ∃ hop, s.hops[i]? = some hop ∧
    hop₀.destroyed = hop.destroyed ∧ hop₀.bodyDestroyed = hop.bodyDestroyed

variable {env : ProbeEnv} {s s' s₀ : Probe} {t : ℕ} {e : ProbeEvent}

/-- The probe itself has its hops. -/
lemma SameHops.refl (s : Probe) : SameHops s s :=
  ⟨rfl, rfl, rfl, rfl, fun _ hop h => ⟨hop, h, rfl, rfl⟩⟩

/-- An answer leaves the destroyed hops as they are. -/
lemma sameHops_sawResponse (s : Probe) (t h statusCode : ℕ) :
    SameHops s (s.sawResponse t h statusCode) := by
  refine ⟨rfl, rfl, rfl, by simp [sawResponse, setHop], fun i hop₀ hhop₀ => ?_⟩
  simp only [sawResponse, setHop, List.getElem?_modify] at hhop₀
  obtain ⟨hop, hhop, rfl⟩ := Option.map_eq_some_iff.1 hhop₀
  refine ⟨hop, hhop, ?_⟩
  by_cases hi : h = i <;> simp [hi]

/-- What a callback can have done, as far as settling goes. -/
def SettlesIf (s : Probe) (t : ℕ) (settles : Prop) (s' : Probe) : Prop :=
  (settles ∧ ∃ s₀ verdict, SameHops s s₀ ∧ s' = s₀.finish t verdict) ∨
    (¬settles ∧ s'.settled = s.settled ∧ s'.promise = s.promise)

/-- A listener on a body settles the probe if it has been attached. -/
lemma settlesIf_onBody (s : Probe) (t h : ℕ) :
    SettlesIf s t (∃ hop, s.hops[h]? = some hop ∧ hop.response.isSome = true ∧
      hop.listening = true) (s.onBody h (s.settleWithStatus t)) := by
  unfold onBody
  cases hhop : s.hops[h]? with
  | none => exact .inr ⟨by simp, rfl, rfl⟩
  | some hop =>
    cases hresp : hop.response with
    | none => exact .inr ⟨by simp [hresp], by simp [hresp], by simp [hresp]⟩
    | some statusCode =>
      by_cases hl : hop.listening = true
      · exact .inl ⟨⟨hop, rfl, by simp [hresp], hl⟩, s, _, .refl s,
          by simp only [hresp, hl, if_true]; rfl⟩
      · exact .inr ⟨by simp [hl], by simp [hresp, hl], by simp [hresp, hl]⟩

/-- A phase listener settles nothing. -/
lemma not_settles_onPhase {h : ℕ} {seen : SocketMarks → Bool} {f : Hop → SocketMarks → Probe}
    (hf : ∀ hop k, (f hop k).settled = s.settled ∧ (f hop k).promise = s.promise) :
    (s.onPhase h seen f).settled = s.settled ∧ (s.onPhase h seen f).promise = s.promise :=
  onPhase_rule (P := fun s' => s'.settled = s.settled ∧ s'.promise = s.promise) ⟨rfl, rfl⟩ hf

/-- The response callback settles the probe by the responses that do. -/
lemma settlesIf_onResponse (env : ProbeEnv) (s : Probe) (t h : ℕ) (hop : Hop) (statusCode : ℕ)
    (location : Option String) :
    SettlesIf s t (SettlesByResponse env s hop statusCode location)
      (s.onResponse env t h hop statusCode location) := by
  have hsaw := sameHops_sawResponse s t h statusCode
  have hfollowed : (s.sawResponse t h statusCode).followed env statusCode location =
      s.followed env statusCode location := rfl
  unfold onResponse SettlesByResponse
  simp only [hfollowed]
  cases hf : s.followed env statusCode location with
  | some l =>
    dsimp only
    rcases follow_cases env (s.sawResponse t h statusCode) t hop.url l with
      ⟨hweb, err, heq⟩ | ⟨next, hnext, hweb, verdict, heq⟩ | ⟨next, hnext, hweb, heq⟩ <;> rw [heq]
    · refine .inr ⟨?_, rfl, rfl⟩
      rintro ⟨next, hnext, hnot⟩
      exact hnot (hweb next hnext)
    · exact .inl ⟨⟨next, hnext, hweb⟩, (s.sawResponse t h statusCode).countRedirect, verdict,
        ⟨rfl, rfl, rfl, hsaw.length, hsaw.destroyed⟩, rfl⟩
    · refine .inr ⟨?_, rfl, rfl⟩
      rintro ⟨next', hnext', hnot⟩
      rw [hnext, Except.ok.injEq] at hnext'
      exact hnot (hnext' ▸ hweb)
  | none =>
    dsimp only
    split_ifs with hcap
    · exact .inl ⟨hcap, _, _, hsaw, rfl⟩
    · exact .inr ⟨hcap, rfl, rfl⟩

/-- **When a callback settles the probe.** It does at the events that settle, by one verdict on the
probe as it was, or with its answer; at no other event does it touch the promise. -/
theorem settles_cases (env : ProbeEnv) (t : ℕ) (e : ProbeEvent) (hsettled : s.settled = false) :
    SettlesIf s t (Settles env s e) (s.handle env t e) := by
  simp only [Settles, hsettled, true_and]
  cases e with
  | deadline =>
    by_cases h : s.deadline = true
    · exact .inl ⟨h, s, _, .refl s, if_pos h⟩
    · exact .inr ⟨h, by simp [handle, h], by simp [handle, h]⟩
  | response h statusCode location =>
    simp only [handle]
    cases hhop : s.hops[h]? with
    | none => exact .inr ⟨by simp, rfl, rfl⟩
    | some hop =>
      cases hresp : hop.response with
      | some _ => exact .inr ⟨by simp [hresp], by simp [hresp], by simp [hresp]⟩
      | none => simpa [hresp] using settlesIf_onResponse env s t h hop statusCode location
  | data h length =>
    refine .inr ⟨id, ?_⟩
    exact onBody_rule (P := fun s' => s'.settled = s.settled ∧ s'.promise = s.promise) ⟨rfl, rfl⟩
      fun _ => ⟨rfl, rfl⟩
  | bodyError h => exact settlesIf_onBody s t h
  | bodyEnd h => exact settlesIf_onBody s t h
  | bodyClose h => exact settlesIf_onBody s t h
  | socket h connecting =>
    refine .inr ⟨id, ?_⟩
    simp only [handle]
    split
    · exact ⟨rfl, rfl⟩
    · split_ifs <;> exact ⟨rfl, rfl⟩
  | socketError h err =>
    simp only [handle]
    cases hhop : s.hops[h]? with
    | none => exact .inr ⟨by simp, rfl, rfl⟩
    | some hop =>
      by_cases hsocket : hop.socket.isSome = true
      · exact .inl ⟨⟨hop, rfl, hsocket⟩, s, _, .refl s, if_pos hsocket⟩
      · exact .inr ⟨by simp [hsocket], by simp [hsocket], by simp [hsocket]⟩
  | lookup h => exact .inr ⟨id, not_settles_onPhase fun _ _ => ⟨rfl, rfl⟩⟩
  | connect h => exact .inr ⟨id, not_settles_onPhase fun _ _ => ⟨rfl, rfl⟩⟩
  | secureConnect h => exact .inr ⟨id, not_settles_onPhase fun _ _ => ⟨rfl, rfl⟩⟩
  | requestError h err =>
    simp only [handle]
    cases hhop : s.hops[h]? with
    | none => exact .inr ⟨by simpa using hhop, rfl, rfl⟩
    | some hop =>
      exact .inl ⟨(List.getElem?_eq_some_iff.1 hhop).1, s, _, .refl s, rfl⟩

/-! ## The hops of a settled probe -/

/-- What has ended stays ended. -/
lemma Ended.append {es : List TimedEvent} {h : ℕ} (hended : Ended es h) (fs : List TimedEvent) :
    Ended (es ++ fs) h := by
  obtain ⟨e, he, hends⟩ := hended
  exact ⟨e, List.mem_append_left _ he, hends⟩

/-- **The hops after a verdict**: the last is destroyed, and the earlier ones are as they were, not
destroyed. -/
lemma hops_of_settles (hs : s.Chained) (hsettled : s.settled = false) (hsame : SameHops s s₀)
    {verdict : Verdict} {h : ℕ} {hop : Hop} (hhop : (s₀.finish t verdict).hops[h]? = some hop) :
    (h + 1 = s.hops.length → hop.destroyed = true) ∧
      (h + 1 < s.hops.length → hop.destroyed = false ∧ hop.bodyDestroyed = false) := by
  rw [hops_finish (hsame.settled.trans hsettled), hsame.currentReq] at hhop
  cases hcur : s.currentReq with
  | none =>
    rw [hcur] at hhop
    obtain ⟨hop', hhop', -, -⟩ := hsame.destroyed h hop hhop
    have hlt : h < s.hops.length := (List.getElem?_eq_some_iff.1 hhop').1
    have hnone := hs.current (s.hops.length - 1)
    rw [hcur] at hnone
    exact absurd (hnone.2 (by omega)) (by simp)
  | some i =>
    have hlast := (hs.current i).1 hcur
    rw [hcur] at hhop
    simp only [List.getElem?_modify] at hhop
    obtain ⟨hop₀, hhop₀, rfl⟩ := Option.map_eq_some_iff.1 hhop
    obtain ⟨hop', hhop', hd, hb⟩ := hsame.destroyed h hop₀ hhop₀
    have hr := hs.regular h hop' hhop'
    constructor
    · intro hl
      have hi : i = h := by omega
      simp [hi]
    · intro hl
      have hi : i ≠ h := by omega
      have hlisten := (hr.followed (by omega)).2
      simp only [hi, if_false]
      refine ⟨hd.trans (hr.kept hsettled), hb.trans (Bool.eq_false_iff.2 fun hbody => ?_)⟩
      simpa [hlisten] using hr.sized hbody

/-- The invariant of a probe that settles after its earlier hops have ended. -/
structure Tidy (es : List TimedEvent) (s : Probe) : Prop where
  chained : s.Chained
  last : s.settled = true → ∀ hop, s.hops.getLast? = some hop → hop.destroyed = true
  done : s.settled = true → ∀ h hop, s.hops[h]? = some hop →
    hop.destroyed = true ∨ hop.bodyDestroyed = true ∨ Ended es h

/-- A tidy probe leaves no connection. -/
lemma Tidy.tornDown {es : List TimedEvent} (hs : Tidy es s) : TornDown es s := by
  rintro ⟨r, hr⟩ h hop hhop
  cases hsettled : s.settled with
  | true => exact hs.done hsettled h hop hhop
  | false =>
    have hpending := hs.chained.pending (List.ne_nil_of_mem (List.mem_of_getElem? hhop)) hsettled
    rw [hpending] at hr
    cases hr

/-- The probe settles after its earlier hops have ended. -/
def OutlivesHops (env : ProbeEnv) (es : List TimedEvent) (s : Probe) (e : TimedEvent)
    (_ : Probe) : Prop :=
  Settles env s e.2 → ∀ h, h + 1 < s.hops.length → Ended (es ++ [e]) h

/-- A hop of a settled probe may be marked, as long as what is destroyed stays destroyed. -/
lemma Tidy.of_modify {es fs : List TimedEvent} {h : ℕ} {f : Hop → Hop} (hs : Tidy es s)
    (hsettled : s.settled = true) (hhops : s'.hops = s.hops.modify h f) (hchained : s'.Chained)
    (hf : ∀ hop, (f hop).destroyed = hop.destroyed ∧
      (hop.bodyDestroyed = true → (f hop).bodyDestroyed = true)) :
    Tidy (es ++ fs) s' := by
  have hhop : ∀ (i : ℕ) (hop' : Hop), s'.hops[i]? = some hop' → ∃ hop, s.hops[i]? = some hop ∧
      hop'.destroyed = hop.destroyed ∧
      (hop.bodyDestroyed = true → hop'.bodyDestroyed = true) := by
    intro i hop' hhop'
    rw [hhops, List.getElem?_modify] at hhop'
    obtain ⟨hop, hhop, rfl⟩ := Option.map_eq_some_iff.1 hhop'
    refine ⟨hop, hhop, ?_⟩
    by_cases hi : h = i
    · simpa [hi] using hf hop
    · simp [hi]
  refine ⟨hchained, fun _ hop' hhop' => ?_, fun _ i hop' hhop' => ?_⟩
  · rw [List.getLast?_eq_getElem?, hhops, List.length_modify, ← hhops] at hhop'
    obtain ⟨hop, hhop, hd, -⟩ := hhop _ hop' hhop'
    rw [hd]
    exact hs.last hsettled hop (by rw [List.getLast?_eq_getElem?, hhop])
  · obtain ⟨hop, hhop, hd, hb⟩ := hhop i hop' hhop'
    rw [hd]
    exact (hs.done hsettled i hop hhop).imp_right (Or.imp hb fun h => h.append fs)

/-- **A settled probe** stays tidy: it opens no request, and what is destroyed stays destroyed. -/
lemma Tidy.handle_of_settled {es : List TimedEvent} (hs : Tidy es s) (env : ProbeEnv) (t : ℕ)
    (hsettled : s.settled = true)
    (hsilent : s.SilentOnceDestroyed e) : Tidy (es ++ [(t, e)]) (s.handle env t e) := by
  have hsame : Tidy (es ++ [(t, e)]) s := hs.of_modify hsettled (List.modify_id 0 s.hops).symm
    hs.chained fun _ => ⟨rfl, id⟩
  have hchained := hs.chained.handle env t e
  -- The only hop that may still answer is the last one, which is destroyed.
  have hanswered : ∀ {h statusCode : ℕ} {location : Option String} {hop : Hop},
      e = .response h statusCode location → s.hops[h]? = some hop → hop.response = none →
      False := by
    intro h statusCode location hop he hhop hresp
    have hlast := hs.chained.last_of_unanswered hhop hresp
    have hd := hs.last hsettled hop (by
      rw [List.getLast?_eq_getElem?, ← hlast, Nat.add_sub_cancel, hhop])
    rw [hsilent h statusCode location hop he hhop] at hd
    cases hd
  have hout := outcome_handle env s t e
  generalize s.handle env t e = s' at hout hchained
  cases hout with
  | ignored => exact hsame
  | expired => rwa [finish_of_settled hsettled]
  | graded => rwa [settleWithStatus, finish_of_settled hsettled]
  | failed => rwa [fail, finish_of_settled hsettled]
  | received =>
    exact hs.of_modify hsettled rfl hchained fun hop => ⟨rfl, fun h => by simp [h]⟩
  | marked => exact hs.of_modify hsettled rfl hchained fun _ => ⟨rfl, id⟩
  | threw hhop hresp => exact (hanswered rfl hhop hresp).elim
  | refused hhop hresp => exact (hanswered rfl hhop hresp).elim
  | issued hhop hresp => exact (hanswered rfl hhop hresp).elim
  | capped hhop hresp => exact (hanswered rfl hhop hresp).elim
  | listened hhop hresp => exact (hanswered rfl hhop hresp).elim

/-- A probe without requests issues none in a callback. -/
lemma hops_handle_of_nil (hnil : s.hops = []) : (s.handle env t e).hops = [] := by
  have hout := outcome_handle env s t e
  generalize s.handle env t e = s' at hout
  have hchained : ∀ verdict, (s.finish t verdict).hops = [] := by
    intro verdict
    cases hsettled : s.settled with
    | true => rw [finish_of_settled hsettled, hnil]
    | false =>
      rw [hops_finish hsettled]
      cases s.currentReq <;> simp [hnil]
  cases hout with
  | ignored => exact hnil
  | expired => exact hchained _
  | marked => simp [setSocket, setHop, hnil]
  | graded _ hhop => simp [hnil] at hhop
  | failed _ hhop => simp [hnil] at hhop
  | received hhop => simp [hnil] at hhop
  | threw hhop => simp [hnil] at hhop
  | refused hhop => simp [hnil] at hhop
  | issued hhop => simp [hnil] at hhop
  | capped hhop => simp [hnil] at hhop
  | listened hhop => simp [hnil] at hhop

/-- **At one callback**, a tidy probe leaves no connection exactly when, if it settles, its earlier
hops have ended; and then it stays tidy. -/
theorem tornDown_step_iff {es : List TimedEvent} {e : TimedEvent} (hs : Tidy es s)
    (h : NodeStep env s e s') :
    (TornDown (es ++ [e]) s' ↔ OutlivesHops env es s e s') ∧
      (OutlivesHops env es s e s' → Tidy (es ++ [e]) s') := by
  obtain ⟨t, e⟩ := e
  obtain ⟨⟨-, rfl⟩, hsilent⟩ := h
  cases hsettled : s.settled with
  | true =>
    have htidy := hs.handle_of_settled env t hsettled hsilent
    refine ⟨iff_of_true htidy.tornDown fun hsettles => ?_, fun _ => htidy⟩
    rw [hsettles.1] at hsettled
    cases hsettled
  | false =>
    have hchained := hs.chained.handle env t e
    have hpending : (s.handle env t e).hops ≠ [] → s.promise = .pending := fun hne =>
      hs.chained.pending (fun hnil => hne (hops_handle_of_nil hnil)) hsettled
    rcases settles_cases env t e hsettled with ⟨hsettles, s₀, verdict, hsame, heq⟩ |
      ⟨hnot, hset, hpromise⟩
    · have hset : (s.handle env t e).settled = true := by rw [heq, settled_finish]
      have hlen : (s.handle env t e).hops.length = s.hops.length := by
        rw [heq, hops_finish (hsame.settled.trans hsettled)]
        cases s₀.currentReq <;> simp [hsame.length]
      have hhops : ∀ h hop, (s.handle env t e).hops[h]? = some hop →
          (h + 1 = s.hops.length → hop.destroyed = true) ∧
            (h + 1 < s.hops.length → hop.destroyed = false ∧ hop.bodyDestroyed = false) :=
        fun h hop hhop => hops_of_settles hs.chained hsettled hsame (heq ▸ hhop)
      have htidy : OutlivesHops env es s (t, e) (s.handle env t e) →
          Tidy (es ++ [(t, e)]) (s.handle env t e) := by
        intro hout
        refine ⟨hchained, fun _ hop hhop => ?_, fun _ h hop hhop => ?_⟩
        · have hlt := (List.getElem?_eq_some_iff.1 (List.getLast?_eq_getElem? ▸ hhop)).1
          exact (hhops _ hop (List.getLast?_eq_getElem? ▸ hhop)).1 (by omega)
        · have hlt := (List.getElem?_eq_some_iff.1 hhop).1
          by_cases hlast : h + 1 = s.hops.length
          · exact .inl ((hhops h hop hhop).1 hlast)
          · exact .inr (.inr (hout hsettles h (by omega)))
      refine ⟨⟨fun htorn _ h hh => ?_, fun hout => (htidy hout).tornDown⟩, htidy⟩
      have hlt : h < (s.handle env t e).hops.length := by omega
      have hhop := List.getElem?_eq_getElem hlt
      have hresolved : ∃ r, (s.handle env t e).promise = .resolved r := by
        rw [heq]
        refine ⟨_, promise_finish (hsame.settled.trans hsettled) ?_ verdict⟩
        rw [hsame.promise, hpending (List.ne_nil_of_length_pos (by omega))]
      obtain ⟨hd, hb⟩ := (hhops h _ hhop).2 hh
      rcases htorn hresolved h _ hhop with h | h | h
      · rw [hd] at h
        cases h
      · rw [hb] at h
        cases h
      · exact h
    · have htidy : Tidy (es ++ [(t, e)]) (s.handle env t e) :=
        ⟨hchained, by simp [hset, hsettled], by simp [hset, hsettled]⟩
      exact ⟨iff_of_true htidy.tornDown fun hsettles => (hnot hsettles).elim, fun _ => htidy⟩

/-- A new probe is tidy. -/
lemma tidy_probeOnce (env : ProbeEnv) (t : ℕ) : Tidy [] (probeOnce env t) := by
  have hchained := chained_probeOnce env t
  rcases request_cases env (fresh env t) t env.rawUrl with
    ⟨-, verdict, h⟩ | ⟨-, ⟨err, h⟩ | h⟩ <;> simp only [probeOnce, h] at hchained ⊢
  · have hnil : ((fresh env t).finish t verdict).hops = [] := rfl
    exact ⟨hchained, by simp [hnil], by simp [hnil]⟩
  · exact ⟨hchained, by simp [fresh], by simp [fresh]⟩
  · exact ⟨hchained, by simp [issue, fresh], by simp [issue, fresh]⟩

end Probe

open Probe

/-- **No connection survives a settled probe, throughout a run, exactly when the probe settles after
its earlier hops have ended.** A hop that was followed and whose body is still coming in is neither
destroyed nor referred to any more. -/
theorem tornDown_iff (env : ProbeEnv) (t : ℕ) (es : List TimedEvent) :
    (TornDown [] (probeOnce env t) ∧
        AllStepsAfter (NodeStep env) (fun pre _ e s => TornDown (pre ++ [e]) s)
          (probeOnce env t) es) ↔
      AllStepsAfter (NodeStep env) (OutlivesHops env) (probeOnce env t) es := by
  have hstart := tidy_probeOnce env t
  have hiff : ∀ pre a e b, Run (NodeStep env) (probeOnce env t) pre a → Tidy pre a →
      NodeStep env a e b → (TornDown (pre ++ [e]) b ↔ OutlivesHops env pre a e b) :=
    fun _ _ _ _ _ hs hstep => (tornDown_step_iff hs hstep).1
  have hinv : ∀ pre a e b, Run (NodeStep env) (probeOnce env t) pre a → Tidy pre a →
      NodeStep env a e b → OutlivesHops env pre a e b → Tidy (pre ++ [e]) b :=
    fun _ _ _ _ _ hs hstep => (tornDown_step_iff hs hstep).2
  rw [allStepsAfter_iff hiff hinv hstart es]
  exact and_iff_right hstart.tornDown

/-- While nothing is destroyed, Node may emit anything. -/
lemma silentOnceDestroyed_of_all {s : Probe} (h : s.hops.all (fun hop => !hop.destroyed) = true)
    (e : ProbeEvent) : s.SilentOnceDestroyed e := by
  intro i statusCode location hop _ hhop
  simpa using List.all_eq_true.1 h hop (List.mem_of_getElem? hhop)

/-- A redirect whose body never ends: the probe follows it, the second response ends, and the first
connection is still open. -/
theorem tornDown_fails_on_endless_redirect :
    ¬AllStepsAfter (NodeStep (sampleProbe [])) (fun pre _ e s => TornDown (pre ++ [e]) s)
      (probeOnce (sampleProbe []) 0)
      [(1, .response 0 302 (some "/next")), (2, .response 1 200 none), (3, .bodyEnd 1)] := by
  intro h
  have hrun : Run (NodeStep (sampleProbe [])) (probeOnce (sampleProbe []) 0)
      [(1, .response 0 302 (some "/next")), (2, .response 1 200 none)] _ :=
    .cons ⟨⟨by decide +kernel, rfl⟩, silentOnceDestroyed_of_all (by decide +kernel) _⟩
      (.cons ⟨⟨by decide +kernel, rfl⟩, silentOnceDestroyed_of_all (by decide +kernel) _⟩ (.nil _))
  have htorn := h [(1, .response 0 302 (some "/next")), (2, .response 1 200 none)] (3, .bodyEnd 1)
    [] _ _ rfl hrun
    ⟨⟨by decide +kernel, rfl⟩, silentOnceDestroyed_of_all (by decide +kernel) _⟩
  have hopen : (((((probeOnce (sampleProbe []) 0).handle (sampleProbe []) 1
      (.response 0 302 (some "/next"))).handle (sampleProbe []) 2 (.response 1 200 none)).handle
      (sampleProbe []) 3 (.bodyEnd 1)).hops[0]?.map fun hop => (hop.destroyed, hop.bodyDestroyed)) =
      some (false, false) := by decide +kernel
  obtain ⟨hop, hhop, hmarks⟩ := Option.map_eq_some_iff.1 hopen
  simp only [Prod.mk.injEq] at hmarks
  rcases htorn ⟨⟨⟨.up, some 200, none, none, false⟩, 1, 0⟩, by decide +kernel⟩ 0 hop hhop with
    h | h | ⟨e, he, hends⟩
  · rw [hmarks.1] at h
    cases h
  · rw [hmarks.2] at h
    cases h
  · simp only [List.cons_append, List.nil_append, List.mem_cons, List.not_mem_nil, or_false] at he
    rcases he with rfl | rfl | rfl <;> simp [EndsHop] at hends

end WatchTower

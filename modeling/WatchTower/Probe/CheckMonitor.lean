import Mathlib.Algebra.Order.Floor.Defs
import Mathlib.Data.Rat.Floor
import WatchTower.Probe.Totality
import WatchTower.Scheduler.Config

set_option relaxedAutoImplicit false
set_option autoImplicit false

/-!
# The retry ladder

`checkMonitor` of `services/monitor.service.js`: probes one after the other, with a jittered
sleep in between, until one is up, or not worth retrying, or the retries are used up. While it
awaits a probe or sleeps, the events of all its probes keep coming, also of those that have
settled.

## Main definitions

* `WatchTower.backoffDelay` — the delay before a retry.
* `WatchTower.Ladder`, `WatchTower.checkMonitor`, `WatchTower.LadderStep` — a call of
  `checkMonitor`.
* `WatchTower.Ladder.Total` — what is asked of it in every state.

## Main results

* `WatchTower.Ladder.total_iff` — a check is total throughout a run exactly when the monitored
  URL is accepted and every redirect that one of its probes follows is too.
* `WatchTower.probe_and_check_total_iff` — this, with the same for a single probe.
-/

namespace WatchTower

open Transition

/-- `floor(random() * min(base * 2 ** attempt, cap))`, for the number drawn. -/
def backoffDelay (cfg : SchedulerConfig) (attempt : ℕ) (draw : ℚ) : ℤ :=
  ⌊draw * (min (cfg.retryBaseMs * 2 ^ attempt) cfg.retryCapMs : ℕ)⌋

/-- The arguments of `checkMonitor`, with the Node it runs on. -/
structure LadderEnv where
  /-- The tunables. -/
  config : SchedulerConfig
  /-- The runtime. -/
  node : Node
  /-- `url`. -/
  url : String
  /-- `opts`. -/
  options : CheckOptions

/-- The arguments of its probes. -/
def LadderEnv.probe (env : LadderEnv) : ProbeEnv where
  node := env.node
  rawUrl := env.url
  timeoutMs := env.options.timeoutMs
  ignoreTlsErrors := env.options.ignoreTlsErrors
  maxRedirects := 5
  headers := env.options.headers

/-- Where `checkMonitor` is. -/
inductive LadderPhase
  /-- Awaiting the last probe. -/
  | awaiting
  /-- Awaiting the sleep before a retry. -/
  | sleeping (delay : ℤ)
  /-- It has returned. -/
  | returned (result : CheckResult)
  /-- It has thrown. -/
  | threw (err : JsError)

/-- The variables of one call of `checkMonitor`. -/
structure Ladder where
  /-- `attempt`. -/
  attempt : ℕ
  /-- The probes started, in order. -/
  probes : List Probe
  /-- Where it is. -/
  phase : LadderPhase

/-- `checkMonitor` is called. -/
def checkMonitor (env : LadderEnv) (t : ℕ) : Ladder := ⟨0, [probeOnce env.probe t], .awaiting⟩

/-- What happens. -/
inductive LadderEvent
  /-- An event of one of the probes. -/
  | probe (k : ℕ) (e : TimedEvent)
  /-- The await of the last probe continues, drawing a random number if it needs one. -/
  | resume (draw : ℚ)
  /-- The sleep ends. -/
  | wake (t : ℕ)

/-- The rest of the loop body after `await probeOnce(…)`. -/
def Ladder.afterProbe (env : LadderEnv) (s : Ladder) (r : ProbeResult) (draw : ℚ) :
    LadderPhase :=
  let result : CheckResult := { r with attempts := s.attempt + 1 }
  if r.status = .up ∨ r.retryable = false then .returned result
  else if s.attempt < env.options.maxRetries then
    .sleeping (backoffDelay env.config s.attempt draw)
  else .returned result

/-- The steps of a check, while no exception has escaped from a callback. -/
inductive LadderStep (env : LadderEnv) : Ladder → LadderEvent → Ladder → Prop
  | probe {s : Ladder} {k : ℕ} {e : TimedEvent} :
      (∀ p ∈ s.probes, p.escaped = none) →
      LadderStep env s (.probe k e)
        { s with probes := s.probes.modify k fun p => p.handle env.probe e.1 e.2 }
  | resume {s : Ladder} {p : Probe} {r : ProbeResult} {draw : ℚ} :
      (∀ p ∈ s.probes, p.escaped = none) → s.phase = .awaiting → s.probes.getLast? = some p →
      p.result = some r → 0 ≤ draw → draw < 1 →
      LadderStep env s (.resume draw) { s with phase := s.afterProbe env r draw }
  | rejected {s : Ladder} {p : Probe} {err : JsError} {draw : ℚ} :
      (∀ p ∈ s.probes, p.escaped = none) → s.phase = .awaiting → s.probes.getLast? = some p →
      p.promise = .rejected err →
      LadderStep env s (.resume draw) { s with phase := .threw err }
  | wake {s : Ladder} {delay : ℤ} {t : ℕ} :
      (∀ p ∈ s.probes, p.escaped = none) → s.phase = .sleeping delay →
      LadderStep env s (.wake t)
        ⟨s.attempt + 1, s.probes ++ [probeOnce env.probe t], .awaiting⟩

namespace Ladder

/-- What is asked of a check: its probes are total, it has not thrown, it has made no more
attempts than it may, and when it awaits a probe, the deadline of that probe is still to come or
its promise is resolved. -/
structure Total (env : LadderEnv) (s : Ladder) : Prop where
  probes : ∀ p ∈ s.probes, p.Total
  notThrown : ∀ err, s.phase ≠ .threw err
  bounded : s.probes.length ≤ env.options.maxRetries + 1
  progress : s.phase = .awaiting → ∃ p, s.probes.getLast? = some p ∧
    (p.deadline = true ∨ ∃ r, p.promise = .resolved r)

/-- The invariant of a check whose URL is accepted and whose redirects were safe. -/
structure Sound (env : LadderEnv) (s : Ladder) : Prop where
  accepts : ∀ t, (Probe.fresh env.probe t).Accepts env.probe env.url
  probes : ∀ p ∈ s.probes, p.Sound
  notThrown : ∀ err, s.phase ≠ .threw err
  length : s.probes.length = s.attempt + 1
  attempt_le : s.attempt ≤ env.options.maxRetries
  sleeping : ∀ delay, s.phase = .sleeping delay → s.attempt < env.options.maxRetries

variable {env : LadderEnv} {s s' : Ladder} {e : LadderEvent} {t : ℕ}

/-- The last probe of a sound check exists. -/
lemma Sound.exists_last (h : Sound env s) : ∃ p, s.probes.getLast? = some p ∧ p ∈ s.probes := by
  have hne : s.probes ≠ [] := by
    intro hnil
    have := h.length
    simp [hnil] at this
  exact ⟨_, List.getLast?_eq_getLast_of_ne_nil hne, List.getLast_mem hne⟩

/-- A sound check is total. -/
lemma Sound.total (h : Sound env s) : Total env s where
  probes p hp := (h.probes p hp).total
  notThrown := h.notThrown
  bounded := by
    have := h.length
    have := h.attempt_le
    omega
  progress _ := by
    obtain ⟨p, hlast, hmem⟩ := h.exists_last
    refine ⟨p, hlast, ?_⟩
    rcases (h.probes p hmem).settling with ⟨-, hd, -⟩ | ⟨-, -, hr, -⟩
    · exact .inl hd
    · exact .inr hr

/-- Whether the URL is accepted does not depend on when the probe starts. -/
lemma accepts_fresh (h : (Probe.fresh env.probe t).Accepts env.probe env.url) (t' : ℕ) :
    (Probe.fresh env.probe t').Accepts env.probe env.url := h

/-- The start of a check whose URL is accepted is sound. -/
lemma sound_checkMonitor (h : (Probe.fresh env.probe t).Accepts env.probe env.url) :
    Sound env (checkMonitor env t) where
  accepts := accepts_fresh h
  probes p hp := by
    obtain rfl := List.mem_singleton.1 hp
    exact Probe.sound_probeOnce h
  notThrown := by simp [checkMonitor]
  length := rfl
  attempt_le := Nat.zero_le _
  sleeping := by simp [checkMonitor]

/-- **The start of a check** is total exactly when the monitored URL is accepted. -/
theorem total_checkMonitor_iff :
    Total env (checkMonitor env t) ↔ (Probe.fresh env.probe t).Accepts env.probe env.url := by
  refine ⟨fun h => ?_, fun h => (sound_checkMonitor h).total⟩
  have hprobe : (probeOnce env.probe t).Total := h.probes _ (List.mem_singleton.2 rfl)
  exact Probe.total_probeOnce_iff.1 hprobe

/-- If the event is one of a probe, that probe follows safely. -/
def FollowsSafely (env : LadderEnv) (s : Ladder) (e : LadderEvent) : Prop :=
  match e with
  | .probe k e => ∀ p, s.probes[k]? = some p → p.FollowsSafely env.probe e.2
  | _ => True

/-- **Every step is sound**, if a probe's event follows safely. -/
theorem Sound.step (h : Sound env s) (hstep : LadderStep env s e s')
    (hsafe : FollowsSafely env s e) : Sound env s' := by
  cases hstep with
  | @probe k e halive =>
    refine ⟨h.accepts, fun p hp => ?_, h.notThrown, ?_, h.attempt_le, h.sleeping⟩
    · rw [List.mem_iff_getElem?] at hp
      obtain ⟨i, hi⟩ := hp
      rw [List.getElem?_modify] at hi
      obtain ⟨q, hq, rfl⟩ := Option.map_eq_some_iff.1 hi
      have hsound := h.probes q (List.mem_of_getElem? hq)
      by_cases hik : k = i
      · subst hik
        simpa using hsound.handle (hsafe q hq)
      · simpa [hik] using hsound
    · simpa using h.length
  | @resume p r draw halive hphase hlast hr hdraw₀ hdraw₁ =>
    refine ⟨h.accepts, h.probes, fun err => ?_, h.length, h.attempt_le, fun delay hd => ?_⟩
    · simp only [afterProbe]
      split_ifs <;> simp
    · simp only [afterProbe] at hd
      split_ifs at hd with h₁ h₂
      exact h₂
  | @rejected p err draw halive hphase hlast hrej =>
    have hsound := h.probes p (List.mem_of_getLast? hlast)
    exact absurd hrej (hsound.total.notRejected err)
  | @wake delay t halive hphase =>
    refine ⟨h.accepts, fun p hp => ?_, by simp, by simp [h.length], h.sleeping delay hphase,
      by simp⟩
    rcases List.mem_append.1 hp with hp | hp
    · exact h.probes p hp
    · obtain rfl := List.mem_singleton.1 hp
      exact Probe.sound_probeOnce (h.accepts t)

/-- **At one step**, a sound check stays total exactly when a probe's event follows safely. -/
theorem total_step_iff (h : Sound env s) (hstep : LadderStep env s e s') :
    Total env s' ↔ FollowsSafely env s e := by
  refine ⟨fun htotal => ?_, fun hsafe => (h.step hstep hsafe).total⟩
  cases hstep with
  | @probe k e halive =>
    intro p hp
    have hmem : p.handle env.probe e.1 e.2 ∈
        s.probes.modify k fun p => p.handle env.probe e.1 e.2 := by
      refine List.mem_of_getElem? (i := k) ?_
      rw [List.getElem?_modify, hp]
      simp
    exact (Probe.total_handle_iff (h.probes p (List.mem_of_getElem? hp)) e.2).1
      (htotal.probes _ hmem)
  | resume => trivial
  | rejected => trivial
  | wake => trivial

/-! ## Runs -/

/-- What is asked of a check throughout a run. -/
def TotalThroughout (env : LadderEnv) (t : ℕ) (es : List LadderEvent) : Prop :=
  Total env (checkMonitor env t) ∧
    AllSteps (LadderStep env) (fun _ _ s => Total env s) (checkMonitor env t) es

/-- When it is: the monitored URL is accepted, and so is every redirect that a probe follows. -/
def SafeThroughout (env : LadderEnv) (t : ℕ) (es : List LadderEvent) : Prop :=
  (Probe.fresh env.probe t).Accepts env.probe env.url ∧
    AllSteps (LadderStep env) (fun s e _ => FollowsSafely env s e) (checkMonitor env t) es

/-- **A check is total throughout a run exactly when the run is safe.** -/
theorem total_iff (env : LadderEnv) (t : ℕ) (es : List LadderEvent) :
    TotalThroughout env t es ↔ SafeThroughout env t es := by
  have hiff : ∀ s e s', Sound env s → LadderStep env s e s' →
      (Total env s' ↔ FollowsSafely env s e) := fun _ _ _ => total_step_iff
  have hinv : ∀ s e s', Sound env s → LadderStep env s e s' → FollowsSafely env s e →
      Sound env s' := fun _ _ _ => Sound.step
  rw [TotalThroughout, SafeThroughout, total_checkMonitor_iff]
  exact and_congr_right fun hacc => allSteps_iff hiff hinv (sound_checkMonitor hacc) es

end Ladder

/-! ## Both functions -/

/-- **A probe and a check are total exactly along safe runs.** For every URL, every headers map,
every timeout and every sequence of events, `probeOnce` and `checkMonitor` resolve, once, with an
UP or a DOWN, and no callback throws, if and only if `http(s).request` accepts the monitored URL
with its headers and every redirect that is followed leads to a URL that it accepts. -/
theorem probe_and_check_total_iff (probe : ProbeEnv) (check : LadderEnv) (t : ℕ)
    (es : List TimedEvent) (fs : List LadderEvent) :
    (Probe.TotalThroughout probe t es ↔ Probe.SafeThroughout probe t es) ∧
      (Ladder.TotalThroughout check t fs ↔ Ladder.SafeThroughout check t fs) :=
  ⟨Probe.total_iff probe t es, Ladder.total_iff check t fs⟩

/-! ## A redirect and a header that throw -/

/-- Node at four strings: one absolute URL, one reference that `new URL` rejects, a header value
with a line break, which `http(s).request` rejects, and a `Trailer` header, which `end()`
rejects. -/
def sampleNode : Node where
  parse text := if text = "http://a.test/" then some ⟨"http:", "http://a.test"⟩ else none
  resolve reference base :=
    if reference = "http://[" then .error ⟨"Invalid URL", some (.str "ERR_INVALID_URL")⟩
    else .ok base
  requestThrows _ headers :=
    if headers.any fun h => h.2.toList.contains '\n' then
      some ⟨"Invalid character in header content", some (.str "ERR_INVALID_CHAR")⟩
    else none
  endThrows _ headers :=
    if headers.any fun h => h.1 = "Trailer" then
      some ⟨"Trailers are invalid with this transfer encoding",
        some (.str "ERR_HTTP_TRAILER_INVALID")⟩
    else none
  numberToString _ := "10000"

/-- A probe of the sample URL. -/
def sampleProbe (headers : Headers) : ProbeEnv where
  node := sampleNode
  rawUrl := "http://a.test/"
  timeoutMs := 10000
  ignoreTlsErrors := false
  maxRedirects := 5
  headers := headers

/-- The same URL, checked with the default tunables. -/
def sampleCheck (headers : Headers) : LadderEnv where
  config := schedulerConfig
  node := sampleNode
  url := "http://a.test/"
  options := ⟨10000, 2, false, headers⟩

/-- **A probe is not total on every input**: a redirect to `http://[` makes the response callback
throw, and a header value with a line break, or a `Trailer` header, makes the promise reject, also
the one that `checkMonitor` awaits. -/
theorem probe_not_total_on_bad_redirect :
    ¬Probe.TotalThroughout (sampleProbe []) 0
        [(1000000, .response 0 302 (some "http://["))] ∧
      ¬Probe.TotalThroughout (sampleProbe [("X-Note", "a\nb")]) 0 [] ∧
      ¬Probe.TotalThroughout (sampleProbe [("Trailer", "X-Foo")]) 0 [] ∧
      ¬Ladder.TotalThroughout (sampleCheck [("X-Note", "a\nb")]) 0 [] := by
  refine ⟨fun h => ?_, fun h => ?_, fun h => ?_, fun h => ?_⟩
  · have hstep : ProbeStep (sampleProbe []) (probeOnce (sampleProbe []) 0)
        (1000000, .response 0 302 (some "http://["))
        ((probeOnce (sampleProbe []) 0).handle (sampleProbe []) 1000000
          (.response 0 302 (some "http://["))) := ⟨by decide +kernel, rfl⟩
    have htotal := h.2 [] _ [] _ _ rfl (.nil _) hstep
    have hescaped : ((probeOnce (sampleProbe []) 0).handle (sampleProbe []) 1000000
        (.response 0 302 (some "http://["))).escaped ≠ none := by decide +kernel
    exact hescaped htotal.noEscape
  · exact h.1.notRejected
      ⟨"Invalid character in header content", some (.str "ERR_INVALID_CHAR")⟩ (by decide +kernel)
  · exact h.1.notRejected ⟨"Trailers are invalid with this transfer encoding",
      some (.str "ERR_HTTP_TRAILER_INVALID")⟩ (by decide +kernel)
  · exact (h.1.probes _ (List.mem_singleton.2 rfl)).notRejected
      ⟨"Invalid character in header content", some (.str "ERR_INVALID_CHAR")⟩ (by decide +kernel)

end WatchTower

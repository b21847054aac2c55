import Mathlib.Tactic.Linarith
import WatchTower.Scheduler.BreakerRuns

set_option relaxedAutoImplicit false
set_option autoImplicit false

/-!
# The escalation of the cooldown

A breaker's fields after any sequence of its transitions: `evaluateBreaker`, `onCheckSuccess` and
`onCheckFailure` are called in any order, and each patch is folded into the monitor before the next
call. The documentation has the cooldown double with each open in a row. The code takes the
exponent from the counter before the first open and after it from the incremented counter, so the
second open already has four times the first cooldown.

## Main definitions

* `WatchTower.BreakerCall`, `WatchTower.BreakerHistory` — a transition, and a monitor with the
  number of its opens since the breaker was last closed.
* `WatchTower.documentedCooldown` — the cooldown of the `k`-th open in a row.
* `WatchTower.EscalationLaw` — what an open and a success are to set.
* `WatchTower.EscalatesAsDocumented` — the opens at which the code's cooldown is the documented one.

## Main results

* `WatchTower.BreakerHistory.Counted.patch_of_opens` — what an open sets.
* `WatchTower.escalationLaw_iff` — the law holds along a sequence of transitions exactly when every
  open in it is of that kind.
* `WatchTower.withBreaker_outcomePatch` — a check of the scheduler is such a sequence.
-/

namespace WatchTower

open Transition

/-! ## Folding patches into a monitor -/

/-- Whether the database accepts the dates of a patch. -/
def BreakerPatch.casts (p : BreakerPatch) : Bool :=
  castsToDate p.breakerOpenedAt && castsToDate p.breakerRetryAt

/-- The document after a breaker patch has been persisted. The database rejects a patch with an
Invalid Date as a whole. -/
def Monitor.withBreaker (m : Monitor) (p : BreakerPatch) : Monitor :=
  if p.casts then
    { m with
      breakerState := p.breakerState <|> m.breakerState
      breakerOpenedAt := (p.breakerOpenedAt.map Option.join).getD m.breakerOpenedAt
      breakerRetryAt := (p.breakerRetryAt.map Option.join).getD m.breakerRetryAt
      breakerConsecutiveOpens := p.breakerConsecutiveOpens <|> m.breakerConsecutiveOpens }
  else m

section Fold

variable {m : Monitor} {p : BreakerPatch}

/-- The empty patch changes nothing. -/
@[simp] lemma withBreaker_empty : m.withBreaker {} = m := by
  simp [Monitor.withBreaker, BreakerPatch.casts, castsToDate]

/-- The breaker state after an accepted patch. -/
lemma breakerStateOf_withBreaker (h : p.casts) :
    breakerStateOf (m.withBreaker p) = p.breakerState.getD (breakerStateOf m) := by
  rw [Monitor.withBreaker, if_pos h, breakerStateOf, breakerStateOf]
  cases p.breakerState <;> rfl

/-- The counter after an accepted patch. -/
lemma withBreaker_consecutiveOpens (h : p.casts) :
    (m.withBreaker p).breakerConsecutiveOpens =
      (p.breakerConsecutiveOpens <|> m.breakerConsecutiveOpens) := by
  rw [Monitor.withBreaker, if_pos h]

end Fold

/-- A call of one of the three functions of the breaker. -/
inductive BreakerCall
  /-- `evaluateBreaker`, at a time. -/
  | evaluate (nowMs : Time)
  /-- `onCheckSuccess`. -/
  | success
  /-- `onCheckFailure`, with the run of failures including the failed check, at a time. -/
  | failure (consecutiveFailures : ℕ) (nowMs : Time)

/-- The patch a call returns for a monitor. -/
def BreakerCall.patch (cfg : SchedulerConfig) (m : Monitor) : BreakerCall → BreakerPatch
  | .evaluate nowMs => (evaluateBreaker m nowMs).patch.getD {}
  | .success => onCheckSuccess m
  | .failure consecutiveFailures nowMs => onCheckFailure cfg m consecutiveFailures nowMs

/-- A monitor, and how often its breaker opened since it was last closed. -/
structure BreakerHistory where
  /-- The document. -/
  monitor : Monitor
  /-- The opens in a row. -/
  opens : ℕ

/-- Whether a failed check opens the breaker: from half-open always, from closed at the
threshold. -/
def OpensBreaker (cfg : SchedulerConfig) (m : Monitor) (consecutiveFailures : ℕ) : Prop :=
  breakerStateOf m = .halfOpen ∨
    breakerStateOf m = .closed ∧ cfg.breakerFailureThreshold ≤ consecutiveFailures

instance (cfg : SchedulerConfig) (m : Monitor) (consecutiveFailures : ℕ) :
    Decidable (OpensBreaker cfg m consecutiveFailures) :=
  inferInstanceAs (Decidable (_ ∨ _))

/-- The opens in a row after a call: a success ends the row, a failure that opens the breaker makes
it longer. -/
def BreakerHistory.opensAfter (cfg : SchedulerConfig) (s : BreakerHistory) : BreakerCall → ℕ
  | .evaluate _ => s.opens
  | .success => 0
  | .failure consecutiveFailures _ =>
    if OpensBreaker cfg s.monitor consecutiveFailures then s.opens + 1 else s.opens

/-- The history after a call whose patch is folded into the monitor. -/
def BreakerHistory.next (cfg : SchedulerConfig) (s : BreakerHistory) (c : BreakerCall) :
    BreakerHistory where
  monitor := s.monitor.withBreaker (c.patch cfg s.monitor)
  opens := s.opensAfter cfg c

@[simp] lemma BreakerHistory.next_monitor (cfg : SchedulerConfig) (s : BreakerHistory)
    (c : BreakerCall) :
    (s.next cfg c).monitor = s.monitor.withBreaker (c.patch cfg s.monitor) := rfl

/-- One transition of the breaker. -/
def BreakerStep (cfg : SchedulerConfig) (s : BreakerHistory) (c : BreakerCall)
    (t : BreakerHistory) : Prop := t = s.next cfg c

/-- The transitions along a sequence of calls, one after the other. -/
lemma allSteps_breakerStep_cons {cfg : SchedulerConfig}
    {P : BreakerHistory → BreakerCall → BreakerHistory → Prop} {s : BreakerHistory}
    {c : BreakerCall} {calls : List BreakerCall} :
    AllSteps (BreakerStep cfg) P s (c :: calls) ↔
      P s c (s.next cfg c) ∧ AllSteps (BreakerStep cfg) P (s.next cfg c) calls := by
  rw [allSteps_cons]
  exact forall_eq

/-! ## The documented law -/

/-- The documented cooldown of the `k`-th open in a row: the base doubled with each open after the
first, capped. -/
def documentedCooldown (cfg : SchedulerConfig) (k : ℕ) : ℚ :=
  min ((cfg.breakerCooldownMs : ℚ) * 2 ^ (k - 1)) cfg.breakerMaxCooldownMs

/-- What a transition is to set. The `k`-th open in a row sets the count `k` and two dates which are
the documented cooldown apart; after a success the breaker is closed and nothing is counted. -/
def EscalationLaw (cfg : SchedulerConfig) (s : BreakerHistory) (c : BreakerCall)
    (t : BreakerHistory) : Prop :=
  match c with
  | .evaluate _ => True
  | .success =>
    breakerStateOf t.monitor = .closed ∧ t.monitor.breakerConsecutiveOpens.getD 0 = 0
  | .failure consecutiveFailures _ => OpensBreaker cfg s.monitor consecutiveFailures →
      ∃ openedAt retryAt : Time,
        (c.patch cfg s.monitor).breakerOpenedAt = some (some (some openedAt)) ∧
        (c.patch cfg s.monitor).breakerRetryAt = some (some (some retryAt)) ∧
        (retryAt - openedAt : ℚ) = documentedCooldown cfg (s.opens + 1) ∧
        (c.patch cfg s.monitor).breakerConsecutiveOpens = some (s.opens + 1)

/-- Whether a time passes for a whole one: what lies between is the fraction of a millisecond that
a `Date` after the epoch drops. -/
def DropsTo (time : ℚ) (whole : ℤ) : Prop := time = whole ∨ 0 ≤ whole ∧ time < whole + 1

/-- The opens that escalate as documented. The cooldown is a whole number of milliseconds and both
dates are representable; and the open is the first of its row, or the documented cooldown has
reached the cap, or the cap lets the next doubling add so little that a `Date` drops it, after the
sum has been rounded to a double. -/
def EscalatesAsDocumented (cfg : SchedulerConfig) (opens : ℕ) (nowMs : Time) : Prop :=
  ∃ ms : ℤ, (ms : ℚ) = documentedCooldown cfg (opens + 1) ∧
    (newDate nowMs).isSome ∧ (newDate (nowMs + ms)).isSome ∧
    (opens = 0 ∨ (cfg.breakerMaxCooldownMs : ℚ) ≤ cfg.breakerCooldownMs * 2 ^ opens ∨
      DropsTo (Binary64.round (nowMs + documentedCooldown cfg (opens + 2))) (nowMs + ms))

/-- The transitions that keep the law: every open among them escalates as documented. -/
def OpensAsDocumented (cfg : SchedulerConfig) (s : BreakerHistory) (c : BreakerCall)
    (_ : BreakerHistory) : Prop :=
  match c with
  | .failure consecutiveFailures nowMs =>
    OpensBreaker cfg s.monitor consecutiveFailures → EscalatesAsDocumented cfg s.opens nowMs
  | _ => True

/-! ## The cooldown the code takes -/

section Cooldown

variable {cfg : SchedulerConfig} {opens : ℕ}

/-- The cooldown of an open after so many in a row: the exponent is the counter before the first
open and the incremented counter from then on. -/
def takenCooldown (cfg : SchedulerConfig) (opens : ℕ) : ℚ :=
  cooldownFor cfg (if opens = 0 then 0 else opens + 1)

/-- The exponents are those of the documented cooldown, one less. -/
lemma cooldownFor_eq (cfg : SchedulerConfig) (k : ℕ) :
    cooldownFor cfg k = documentedCooldown cfg (k + 1) := rfl

/-- Another doubling does not shorten the cooldown. -/
lemma documentedCooldown_le_succ (cfg : SchedulerConfig) (k : ℕ) :
    documentedCooldown cfg (k + 1) ≤ documentedCooldown cfg (k + 2) := by
  have hpow : (0 : ℚ) ≤ cfg.breakerCooldownMs * 2 ^ k :=
    mul_nonneg cfg.breakerCooldownMs_nonneg (by positivity)
  have hdouble : (cfg.breakerCooldownMs : ℚ) * 2 ^ k ≤ cfg.breakerCooldownMs * 2 ^ (k + 1) := by
    rw [pow_succ]
    linarith
  exact min_le_min_right _ hdouble

/-- Another doubling leaves the cooldown alone exactly when it has reached its cap. -/
lemma documentedCooldown_succ_eq_iff (hpos : (0 : ℚ) < cfg.breakerCooldownMs) (k : ℕ) :
    documentedCooldown cfg (k + 2) = documentedCooldown cfg (k + 1) ↔
      (cfg.breakerMaxCooldownMs : ℚ) ≤ cfg.breakerCooldownMs * 2 ^ k := by
  have hpow : (0 : ℚ) < cfg.breakerCooldownMs * 2 ^ k := mul_pos hpos (by positivity)
  have hdouble : (cfg.breakerCooldownMs : ℚ) * 2 ^ (k + 1) =
      2 * (cfg.breakerCooldownMs * 2 ^ k) := by
    ring
  unfold documentedCooldown
  rw [show k + 2 - 1 = k + 1 from rfl, show k + 1 - 1 = k from rfl, hdouble]
  constructor
  · intro h
    by_contra hlt
    rw [min_eq_left (not_le.1 hlt).le, min_eq_iff] at h
    rcases h with ⟨h, -⟩ | ⟨h, -⟩
    · linarith
    · linarith [not_le.1 hlt]
  · intro h
    rw [min_eq_right h, min_eq_right (by linarith)]

/-- The code's cooldown is no shorter than the documented one. -/
lemma documentedCooldown_le_takenCooldown :
    documentedCooldown cfg (opens + 1) ≤ takenCooldown cfg opens := by
  unfold takenCooldown
  split_ifs with h
  · rw [h, cooldownFor_eq]
  · rw [cooldownFor_eq]
    exact documentedCooldown_le_succ cfg opens

/-- When the code's cooldown is the documented one. -/
lemma takenCooldown_eq_iff (hpos : (0 : ℚ) < cfg.breakerCooldownMs) :
    takenCooldown cfg opens = documentedCooldown cfg (opens + 1) ↔
      opens = 0 ∨ (cfg.breakerMaxCooldownMs : ℚ) ≤ cfg.breakerCooldownMs * 2 ^ opens := by
  by_cases h : opens = 0
  · simp [takenCooldown, h, cooldownFor_eq]
  · rw [takenCooldown, if_neg h, cooldownFor_eq, documentedCooldown_succ_eq_iff hpos]
    simp [h]

/-- **When the retry date is the documented cooldown away**: the code's cooldown is the documented
one, or the sum passes for the documented date. -/
lemma afterMs_takenCooldown_iff (hpos : (0 : ℚ) < cfg.breakerCooldownMs) {nowMs : Time} {ms : ℤ}
    (hms : (ms : ℚ) = documentedCooldown cfg (opens + 1))
    (hdate : (newDate (nowMs + ms)).isSome) :
    afterMs nowMs (takenCooldown cfg opens) = nowMs + ms ↔
      opens = 0 ∨ (cfg.breakerMaxCooldownMs : ℚ) ≤ cfg.breakerCooldownMs * 2 ^ opens ∨
        DropsTo (Binary64.round (nowMs + documentedCooldown cfg (opens + 2))) (nowMs + ms) := by
  obtain ⟨date, hdate⟩ := Option.isSome_iff_exists.1 hdate
  have habs : |nowMs + ms| ≤ 2 ^ 53 := (abs_le_of_newDate hdate).trans (by decide)
  rw [← or_assoc, ← takenCooldown_eq_iff hpos]
  by_cases h : takenCooldown cfg opens = documentedCooldown cfg (opens + 1)
  · have hsum : nowMs + takenCooldown cfg opens = ((nowMs + ms : ℤ) : ℚ) := by
      rw [h, ← hms, Int.cast_add]
    exact iff_of_true (afterMs_of_eq habs hsum) (.inl h)
  · have hopens : opens ≠ 0 := fun h0 => h ((takenCooldown_eq_iff hpos).2 (.inl h0))
    have htaken : takenCooldown cfg opens = documentedCooldown cfg (opens + 2) := by
      rw [takenCooldown, if_neg hopens, cooldownFor_eq]
    -- The code's cooldown is the longer one, and rounding does not pass the documented date.
    have hle : ((nowMs + ms : ℤ) : ℚ) ≤ nowMs + documentedCooldown cfg (opens + 2) := by
      rw [Int.cast_add, hms]
      exact add_le_add_right (documentedCooldown_le_succ cfg opens) _
    have hround := Binary64.le_round (Binary64.isDouble_intCast habs) hle
    rw [htaken, afterMs, toInteger_eq_iff hround, DropsTo, ← htaken]
    simp [h]

/-- **When the two dates of an open are the documented cooldown apart.** -/
theorem retryAt_sub_iff (hpos : (0 : ℚ) < cfg.breakerCooldownMs) (nowMs : Time) :
    (∃ openedAt retryAt : Time, newDate nowMs = some openedAt ∧
      newDate (afterMs nowMs (takenCooldown cfg opens)) = some retryAt ∧
      (retryAt - openedAt : ℚ) = documentedCooldown cfg (opens + 1)) ↔
    EscalatesAsDocumented cfg opens nowMs := by
  constructor
  · rintro ⟨openedAt, retryAt, hopened, hretry, hsub⟩
    obtain rfl := eq_of_newDate_eq_some hopened
    have hround := (eq_of_newDate_eq_some hretry).symm
    have hms : ((retryAt - openedAt : ℤ) : ℚ) = documentedCooldown cfg (opens + 1) := by
      rw [← hsub, Int.cast_sub]
    have hdate : (newDate (openedAt + (retryAt - openedAt))).isSome := by
      rw [add_sub_cancel, ← hround, hretry]
      rfl
    refine ⟨retryAt - openedAt, hms, by simp [hopened], hdate, ?_⟩
    rw [← afterMs_takenCooldown_iff hpos hms hdate, hround, add_sub_cancel]
  · rintro ⟨ms, hms, hopened, hdate, hcases⟩
    have hround := (afterMs_takenCooldown_iff hpos hms hdate).2 hcases
    obtain ⟨openedAt, hopened⟩ := Option.isSome_iff_exists.1 hopened
    obtain ⟨retryAt, hretry⟩ := Option.isSome_iff_exists.1 hdate
    obtain rfl := eq_of_newDate_eq_some hopened
    refine ⟨openedAt, retryAt, hopened, by rw [hround, hretry], ?_⟩
    rw [eq_of_newDate_eq_some hretry, Int.cast_add, hms]
    ring

end Cooldown

/-! ## Histories of a breaker -/

section History

variable {cfg : SchedulerConfig} {m : Monitor} {s t : BreakerHistory} {c : BreakerCall}
  {consecutiveFailures : ℕ} {nowMs : Time}

/-- The persisted counter is the number of opens in a row, which is zero exactly when the breaker is
closed. -/
structure BreakerHistory.Counted (s : BreakerHistory) : Prop where
  counter : s.monitor.breakerConsecutiveOpens.getD 0 = s.opens
  closed : breakerStateOf s.monitor = .closed ↔ s.opens = 0

/-- **What an open sets**: the code's cooldown for the opens so far, and one open more. -/
lemma BreakerHistory.Counted.patch_of_opens (hs : s.Counted)
    (h : OpensBreaker cfg s.monitor consecutiveFailures) :
    onCheckFailure cfg s.monitor consecutiveFailures nowMs =
      { breakerState := some .opened
        breakerOpenedAt := some (some (newDate nowMs))
        breakerRetryAt :=
          some (some (newDate (afterMs nowMs (takenCooldown cfg s.opens))))
        breakerConsecutiveOpens := some (s.opens + 1) } := by
  rcases h with h | h
  · have hopens : s.opens ≠ 0 := fun h0 => by simpa [h] using hs.closed.2 h0
    simp [onCheckFailure, h, takenCooldown, hopens, hs.counter]
  · have hopens : s.opens = 0 := hs.closed.1 h.1
    simp [onCheckFailure, h, takenCooldown, hopens]

/-- A failed check that does not open the breaker changes nothing. -/
lemma onCheckFailure_of_not_opens (h : ¬OpensBreaker cfg m consecutiveFailures) :
    onCheckFailure cfg m consecutiveFailures nowMs = {} := by
  rw [OpensBreaker, not_or] at h
  simp only [onCheckFailure, h.1, h.2, if_false]

/-- What `evaluateBreaker` has persisted: an open breaker may become half-open. -/
lemma withBreaker_evaluate (m : Monitor) (nowMs : Time) :
    m.withBreaker ((evaluateBreaker m nowMs).patch.getD {}) = m ∨
    breakerStateOf m = .opened ∧ m.withBreaker ((evaluateBreaker m nowMs).patch.getD {}) =
      { m with breakerState := some .halfOpen } := by
  cases h : breakerStateOf m with
  | closed => simp [evaluateBreaker_closed h]
  | halfOpen => simp [evaluateBreaker_halfOpen h]
  | opened =>
    by_cases hretry : m.breakerRetryAt.getD 0 ≤ nowMs
    · right
      simp [evaluateBreaker, h, hretry, Monitor.withBreaker, BreakerPatch.casts, castsToDate]
    · left
      simp [evaluateBreaker, h, hretry]

/-- What a success leaves of the breaker. -/
lemma BreakerHistory.Counted.success (hs : s.Counted) :
    breakerStateOf (s.monitor.withBreaker (onCheckSuccess s.monitor)) = .closed ∧
      (s.monitor.withBreaker (onCheckSuccess s.monitor)).breakerConsecutiveOpens.getD 0 = 0 := by
  by_cases h : breakerStateOf s.monitor = .closed
  · simp [onCheckSuccess, h, hs.counter, hs.closed.1 h]
  · have hcasts : (onCheckSuccess s.monitor).casts := by
      simp [onCheckSuccess, h, BreakerPatch.casts, castsToDate]
    rw [breakerStateOf_withBreaker hcasts, withBreaker_consecutiveOpens hcasts]
    simp [onCheckSuccess, h]

/-- **At one transition**, the law holds exactly when an open escalates as documented. -/
theorem escalationLaw_step_iff (hpos : (0 : ℚ) < cfg.breakerCooldownMs) (hs : s.Counted)
    (h : BreakerStep cfg s c t) : EscalationLaw cfg s c t ↔ OpensAsDocumented cfg s c t := by
  subst h
  cases c with
  | evaluate nowMs => simp [EscalationLaw, OpensAsDocumented]
  | success =>
    simp only [EscalationLaw, OpensAsDocumented, iff_true]
    exact hs.success
  | failure consecutiveFailures nowMs =>
    refine forall_congr' fun hopens => ?_
    rw [← retryAt_sub_iff hpos]
    simp only [BreakerCall.patch, hs.patch_of_opens hopens, Option.some.injEq, and_true]

/-- A transition that keeps the law keeps the count. -/
lemma BreakerHistory.Counted.step (hpos : (0 : ℚ) < cfg.breakerCooldownMs) (hs : s.Counted)
    (h : BreakerStep cfg s c t) (hok : OpensAsDocumented cfg s c t) : t.Counted := by
  have hlaw : EscalationLaw cfg s c t := (escalationLaw_step_iff hpos hs h).2 hok
  subst h
  cases c with
  | evaluate nowMs =>
    rcases withBreaker_evaluate s.monitor nowMs with h | ⟨hopened, h⟩
    · have hmonitor : (s.next cfg (.evaluate nowMs)).monitor = s.monitor := h
      exact ⟨by rw [hmonitor]; exact hs.counter, by rw [hmonitor]; exact hs.closed⟩
    · have hmonitor : (s.next cfg (.evaluate nowMs)).monitor =
        { s.monitor with breakerState := some .halfOpen } := h
      have hne : s.opens ≠ 0 := fun h0 => by simpa [hopened] using hs.closed.2 h0
      refine ⟨by rw [hmonitor]; exact hs.counter, ?_⟩
      rw [hmonitor]
      exact iff_of_false (by simp [breakerStateOf]) hne
  | success => exact ⟨hlaw.2, iff_of_true hlaw.1 rfl⟩
  | failure consecutiveFailures nowMs =>
    by_cases hopens : OpensBreaker cfg s.monitor consecutiveFailures
    · -- Both dates are valid, so the database takes the patch.
      obtain ⟨openedAt, retryAt, hopened, hretry, -, hcount⟩ := hlaw hopens
      have hcasts :
          ((BreakerCall.failure consecutiveFailures nowMs).patch cfg s.monitor).casts := by
        rw [BreakerPatch.casts, hopened, hretry]
        rfl
      have hstate : ((BreakerCall.failure consecutiveFailures nowMs).patch cfg
          s.monitor).breakerState = some .opened := by
        rw [BreakerCall.patch, hs.patch_of_opens hopens]
      have hopens' : (s.next cfg (.failure consecutiveFailures nowMs)).opens = s.opens + 1 :=
        if_pos hopens
      constructor
      · rw [hopens', next_monitor, withBreaker_consecutiveOpens hcasts, hcount]
        rfl
      · rw [hopens', next_monitor, breakerStateOf_withBreaker hcasts, hstate]
        simp
    · have hmonitor : (s.next cfg (.failure consecutiveFailures nowMs)).monitor = s.monitor := by
        rw [next, BreakerCall.patch, onCheckFailure_of_not_opens hopens, withBreaker_empty]
      have hopens' : (s.next cfg (.failure consecutiveFailures nowMs)).opens = s.opens :=
        if_neg hopens
      exact ⟨by rw [hmonitor, hopens', hs.counter], by rw [hmonitor, hopens', hs.closed]⟩

/-- **The escalation law holds along a sequence of transitions exactly when every open in it
escalates as documented.** From the second open in a row on, the code's cooldown is that of the next
open, until the cap is reached. -/
theorem escalationLaw_iff (cfg : SchedulerConfig) (hcooldown : (0 : ℚ) < cfg.breakerCooldownMs)
    (m : Monitor) (hclosed : breakerStateOf m = .closed)
    (hcount : m.breakerConsecutiveOpens.getD 0 = 0) (calls : List BreakerCall) :
    AllSteps (BreakerStep cfg) (EscalationLaw cfg) ⟨m, 0⟩ calls ↔
      AllSteps (BreakerStep cfg) (OpensAsDocumented cfg) ⟨m, 0⟩ calls := by
  have hiff : ∀ s c t, s.Counted → BreakerStep cfg s c t →
      (EscalationLaw cfg s c t ↔ OpensAsDocumented cfg s c t) :=
    fun _ _ _ => escalationLaw_step_iff hcooldown
  have hinv : ∀ s c t, s.Counted → BreakerStep cfg s c t → OpensAsDocumented cfg s c t →
      t.Counted :=
    fun _ _ _ hs => hs.step hcooldown
  have hstart : BreakerHistory.Counted ⟨m, 0⟩ := ⟨hcount, by simp [hclosed]⟩
  exact allSteps_iff hiff hinv hstart calls

/-- Default configuration, whole cooldowns: a breaker that opens, probes, closes and opens again. -/
theorem escalationLaw_iff_reopened :
    AllSteps (BreakerStep schedulerConfig) (EscalationLaw schedulerConfig)
        ⟨.fresh 0 none "http://a" 0, 0⟩
        [.failure 5 0, .evaluate 60000, .success, .failure 5 70000] ↔
      AllSteps (BreakerStep schedulerConfig) (OpensAsDocumented schedulerConfig)
        ⟨.fresh 0 none "http://a" 0, 0⟩
        [.failure 5 0, .evaluate 60000, .success, .failure 5 70000] :=
  escalationLaw_iff schedulerConfig (by decide +kernel) (.fresh 0 none "http://a" 0) rfl rfl _

/-- With the default configuration, the second open in a row is retried after four times the first
cooldown, not twice. -/
theorem escalationLaw_fails_at_second_open :
    ¬AllSteps (BreakerStep schedulerConfig) (EscalationLaw schedulerConfig)
      ⟨.fresh 0 none "http://a" 0, 0⟩ [.failure 5 0, .evaluate 60000, .failure 6 60000] := by
  intro h
  rw [allSteps_breakerStep_cons, allSteps_breakerStep_cons, allSteps_breakerStep_cons] at h
  obtain ⟨-, -, hlaw, -⟩ := h
  obtain ⟨openedAt, retryAt, hopened, hretry, hsub, -⟩ := hlaw (by decide +kernel)
  have hopened' : some (some (some openedAt)) = some (some (some (60000 : Time))) :=
    hopened.symm.trans (by decide +kernel)
  have hretry' : some (some (some retryAt)) = some (some (some (300000 : Time))) :=
    hretry.symm.trans (by decide +kernel)
  simp only [Option.some.injEq] at hopened' hretry'
  rw [hopened', hretry'] at hsub
  exact absurd hsub (by decide +kernel)

end History

/-! ## The checks of the scheduler -/

section Checks

variable {cfg : SchedulerConfig} {m : Monitor} {tickMs nowMs : Time} {up : Bool}
  {consecutiveFailures : ℕ}

/-- The calls of a check. A failed probe of an open breaker has no second call: the outcome is
computed from the loaded document, for which `onCheckFailure` has no branch. -/
def checkCalls (m : Monitor) (tickMs : Time) (up : Bool) (consecutiveFailures : ℕ)
    (nowMs : Time) : List BreakerCall :=
  if up then [.evaluate tickMs, .success]
  else if breakerStateOf m = .opened then [.evaluate tickMs]
  else [.evaluate tickMs, .failure consecutiveFailures nowMs]

/-- The breaker fields of a document. -/
def Monitor.breaker (m : Monitor) : Option BreakerState × Option Time × Option Time × Option ℕ :=
  (m.breakerState, m.breakerOpenedAt, m.breakerRetryAt, m.breakerConsecutiveOpens)

/-- Spreading a patch over the empty one. -/
lemma empty_spread (p : BreakerPatch) : BreakerPatch.spread {} p = p := by
  simp [BreakerPatch.spread]

/-- **The breaker patch of a check is that of its calls**, folded one after the other. -/
theorem withBreaker_outcomePatch (hallowed : (evaluateBreaker m tickMs).allowed = true)
    (cfg : SchedulerConfig) (up : Bool) (consecutiveFailures : ℕ) (nowMs : Time) (opens : ℕ) :
    ∃ s, Run (BreakerStep cfg) ⟨m, opens⟩
      (checkCalls m tickMs up consecutiveFailures nowMs) s ∧
    s.monitor = m.withBreaker
      (outcomePatch cfg m (evaluateBreaker m tickMs) up consecutiveFailures nowMs) := by
  by_cases hstate : breakerStateOf m = .opened
  · -- The probe of an open breaker: `evaluateBreaker` makes it half-open first.
    have hverdict := (evaluateBreaker_opened hstate hallowed).2
    cases up with
    | true =>
      refine ⟨_, .cons rfl (.cons rfl (.nil _)), ?_⟩
      have hprobe :
          breakerStateOf (m.withBreaker { breakerState := some .halfOpen }) ≠ .closed := by
        rw [breakerStateOf_withBreaker rfl]
        simp
      simp only [BreakerHistory.next_monitor, BreakerCall.patch, hverdict, outcomePatch,
        Option.getD_some, if_true]
      rw [onCheckSuccess, if_neg hprobe, onCheckSuccess, if_neg (by simp [hstate])]
      rfl
    | false =>
      rw [checkCalls, if_neg (by simp), if_pos hstate]
      refine ⟨_, .cons rfl (.nil _), ?_⟩
      rw [outcomePatch_down_opened hstate hallowed]
      simp [BreakerCall.patch, hverdict]
  · have hnone : (evaluateBreaker m tickMs).patch = none := by
      cases h : breakerStateOf m with
      | closed => simp [evaluateBreaker_closed h]
      | halfOpen => simp [evaluateBreaker_halfOpen h]
      | opened => exact absurd h hstate
    cases up with
    | true =>
      refine ⟨_, .cons rfl (.cons rfl (.nil _)), ?_⟩
      simp [BreakerCall.patch, hnone, outcomePatch, empty_spread]
    | false =>
      rw [checkCalls, if_neg (by simp), if_neg hstate]
      refine ⟨_, .cons rfl (.cons rfl (.nil _)), ?_⟩
      simp [BreakerCall.patch, hnone, outcomePatch, empty_spread]

/-- The breaker fields after a check's whole update are those after its breaker patch. -/
lemma set_breaker_eq {u : MonitorUpdate} (h : u.casts = true) :
    (m.set u).breaker = (m.withBreaker u.breaker).breaker := by
  simp only [MonitorUpdate.casts, Bool.and_eq_true] at h
  rw [Monitor.withBreaker, if_pos (by simp [BreakerPatch.casts, h.1.2, h.2])]
  rfl

/-- **A check of the scheduler** does to the breaker fields of its monitor what its calls do. -/
theorem Checked.breaker_eq {env : CheckEnv} {w w' : World} {c : Check} {r : CheckResult}
    {a : Option IncidentEvent} (h : Checked env w c m r a w') (opens : ℕ) :
    ∃ s m', Run (BreakerStep env.config) ⟨m, opens⟩
        (checkCalls m c.tickAt r.up (failuresAfter m r.up) c.clock.now) s ∧
      w'.db.monitors c.id = some m' ∧ m'.breaker = s.monitor.breaker := by
  obtain ⟨s, hrun, hs⟩ := withBreaker_outcomePatch h.admitted env.config r.up
    (failuresAfter m r.up) c.clock.now opens
  exact ⟨s, _, hrun, h.monitor, by rw [hs, set_breaker_eq h.casts]; rfl⟩

end Checks

end WatchTower

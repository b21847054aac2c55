import Mathlib.Algebra.Order.BigOperators.Group.Finset
import WatchTower.Probe.CheckMonitor

set_option relaxedAutoImplicit false
set_option autoImplicit false

/-!
# What the retry ladder does

The loop of `checkMonitor` on the results of its attempts alone, whatever they are, and the
probes and sleeps of a call, in order. The call with its probes is this loop on the results that
its awaits get.

## Main definitions

* `WatchTower.ProbeResult.Final` — a result after which the loop is left.
* `WatchTower.LadderAction`, `WatchTower.rungs` — a probe or a sleep, and those of a loop.
* `WatchTower.retryLoop` — the loop, on a sequence of results and of random numbers.
* `WatchTower.ClimbsLadder` — what the loop is to return and to do.
* `WatchTower.LadderLog`, `WatchTower.LoggedStep` — a call, with what it has awaited and done.

## Main results

* `WatchTower.climbsLadder_retryLoop` — the loop does so, for every sequence.
* `WatchTower.Climbing.step` — a call follows the loop at every step.
* `WatchTower.Climbing.retryLoop_eq` — a call that has returned has done what the loop does.
* `WatchTower.exists_logged_run` — every run of a call can be logged.
-/

namespace WatchTower

open Transition

/-- A result that is returned without a retry: `status === 'UP' || !retryable`. -/
def ProbeResult.Final (r : ProbeResult) : Prop := r.status = .up ∨ r.retryable = false

instance (r : ProbeResult) : Decidable r.Final := inferInstanceAs (Decidable (_ ∨ _))

/-- Something that `checkMonitor` awaits. -/
inductive LadderAction
  /-- `probeOnce(…)`. -/
  | probe
  /-- `sleep(delay)`. -/
  | sleep (delay : ℤ)
  deriving DecidableEq

/-- The delay of a sleep. -/
def LadderAction.delay : LadderAction → Option ℤ
  | probe => none
  | sleep delay => some delay

@[simp] lemma LadderAction.delay_probe : probe.delay = none := rfl

@[simp] lemma LadderAction.delay_sleep (delay : ℤ) : (sleep delay).delay = some delay := rfl

variable (cfg : SchedulerConfig) (results : ℕ → ProbeResult) (draws : ℕ → ℚ)

/-- The result of a check that ends with the given attempt. -/
def checkResultOf (attempt : ℕ) : CheckResult := { results attempt with attempts := attempt + 1 }

/-- The loop of `checkMonitor` from an attempt on, with the given number of retries left: what it
returns, and what it awaits. -/
def retryLoop (attempt : ℕ) : ℕ → CheckResult × List LadderAction
  | 0 => (checkResultOf results attempt, [.probe])
  | n + 1 =>
    if (results attempt).Final then (checkResultOf results attempt, [.probe])
    else
      let rest := retryLoop (attempt + 1) n
      (rest.1, .probe :: .sleep (backoffDelay cfg attempt (draws attempt)) :: rest.2)

/-- The probes and sleeps of a loop that begins with the given attempt and makes `k` retries. -/
def rungs (attempt : ℕ) : ℕ → List LadderAction
  | 0 => [.probe]
  | k + 1 => .probe :: .sleep (backoffDelay cfg attempt (draws attempt)) :: rungs (attempt + 1) k

/-- **What a check is to return and to do.** It returns the first result that is final, or the last
one if there is none; it counts its probes and makes no more than it may; it sleeps once between
two probes, and no longer than the backoff allows. -/
structure ClimbsLadder (maxRetries : ℕ) (r : CheckResult) (actions : List LadderAction) :
    Prop where
  returns : ∃ k ≤ maxRetries, r = checkResultOf results k ∧ (∀ j < k, ¬(results j).Final) ∧
    ((results k).Final ∨ k = maxRetries)
  counts : r.attempts = actions.count .probe
  bounded : r.attempts ≤ maxRetries + 1
  alternates : ∃ delays : List ℤ, actions = .probe :: delays.flatMap fun d => [.sleep d, .probe]
  delay_le : (actions.filterMap LadderAction.delay).sum ≤
    ∑ k ∈ Finset.range (r.attempts - 1), (min (cfg.retryBaseMs * 2 ^ k) cfg.retryCapMs : ℤ)

/-! ## The loop -/

section Loop

variable {cfg results draws} {attempt k : ℕ}

/-- One more retry is a sleep and a probe at the end. -/
lemma rungs_succ : rungs cfg draws attempt (k + 1) = rungs cfg draws attempt k ++
    [.sleep (backoffDelay cfg (attempt + k) (draws (attempt + k))), .probe] := by
  induction k generalizing attempt with
  | zero => rfl
  | succ k ih =>
    rw [rungs, ih, rungs, show attempt + 1 + k = attempt + (k + 1) by omega]
    rfl

/-- The number of its probes. -/
lemma count_rungs : (rungs cfg draws attempt k).count .probe = k + 1 := by
  induction k generalizing attempt with
  | zero => rfl
  | succ k ih => simp [rungs, ih]

/-- A sleep follows every probe but the last. -/
lemma exists_delays_rungs : ∃ delays : List ℤ, rungs cfg draws attempt k =
    .probe :: delays.flatMap fun d => [.sleep d, .probe] := by
  induction k generalizing attempt with
  | zero => exact ⟨[], rfl⟩
  | succ k ih =>
    obtain ⟨delays, hdelays⟩ := @ih (attempt + 1)
    exact ⟨backoffDelay cfg attempt (draws attempt) :: delays, by
      rw [rungs, hdelays, List.flatMap_cons]; rfl⟩

/-- A delay is at most the ceiling it is drawn below. -/
lemma backoffDelay_le (cfg : SchedulerConfig) (attempt : ℕ) {draw : ℚ} (hdraw : draw < 1) :
    backoffDelay cfg attempt draw ≤ (min (cfg.retryBaseMs * 2 ^ attempt) cfg.retryCapMs : ℤ) := by
  have hceiling : draw * (min (cfg.retryBaseMs * 2 ^ attempt) cfg.retryCapMs : ℕ) ≤
      (min (cfg.retryBaseMs * 2 ^ attempt) cfg.retryCapMs : ℕ) :=
    mul_le_of_le_one_left (Nat.cast_nonneg _) hdraw.le
  have hfloor := Int.floor_mono hceiling
  rw [Int.floor_natCast] at hfloor
  exact_mod_cast hfloor

/-- The sleeps of a loop are no longer than the backoff allows. -/
lemma sum_delays_rungs (hdraws : ∀ k, draws k < 1) :
    ((rungs cfg draws 0 k).filterMap LadderAction.delay).sum ≤
      ∑ j ∈ Finset.range k, (min (cfg.retryBaseMs * 2 ^ j) cfg.retryCapMs : ℤ) := by
  induction k with
  | zero => simp [rungs, List.filterMap_cons]
  | succ k ih =>
    rw [rungs_succ, List.filterMap_append, List.sum_append, Finset.sum_range_succ, Nat.zero_add]
    have hlast := backoffDelay_le cfg k (hdraws k)
    simpa [List.filterMap_cons] using add_le_add ih hlast

/-- The loop ends with the first attempt that is final or the last. -/
lemma retryLoop_eq (cfg : SchedulerConfig) (draws : ℕ → ℚ) {attempt n : ℕ} (hle : k ≤ n)
    (hfailed : ∀ j < k, ¬(results (attempt + j)).Final)
    (hlast : (results (attempt + k)).Final ∨ k = n) :
    retryLoop cfg results draws attempt n =
      (checkResultOf results (attempt + k), rungs cfg draws attempt k) := by
  induction k generalizing attempt n with
  | zero =>
    cases n with
    | zero => rfl
    | succ n =>
      have hfinal : (results attempt).Final := hlast.resolve_right (Nat.succ_ne_zero n).symm
      rw [retryLoop, if_pos hfinal]
      rfl
  | succ k ih =>
    obtain ⟨n, rfl⟩ : ∃ m, n = m + 1 := ⟨n - 1, by omega⟩
    have hnot : ¬(results attempt).Final := hfailed 0 (Nat.succ_pos k)
    have hshift : ∀ j, attempt + 1 + j = attempt + (j + 1) := fun j => by omega
    have hrest := @ih (attempt + 1) n (Nat.succ_le_succ_iff.1 hle)
      (fun j hj => by rw [hshift]; exact hfailed (j + 1) (Nat.succ_lt_succ hj))
      (by rw [hshift]; exact hlast.imp_right Nat.succ.inj)
    rw [retryLoop, if_neg hnot, hrest, rungs, hshift]

/-- Among the attempts up to the last there is a first one that is final or the last. -/
lemma exists_first_final (results : ℕ → ProbeResult) (n : ℕ) :
    ∃ k ≤ n, (∀ j < k, ¬(results j).Final) ∧ ((results k).Final ∨ k = n) := by
  have hex : ∃ k, (results k).Final ∨ k = n := ⟨n, .inr rfl⟩
  refine ⟨Nat.find hex, Nat.find_min' hex (.inr rfl), fun j hj => ?_, Nat.find_spec hex⟩
  exact fun hfinal => Nat.find_min hex hj (.inl hfinal)

/-- **The loop climbs the ladder**, whatever the attempts result in. -/
theorem climbsLadder_retryLoop (cfg : SchedulerConfig) (results : ℕ → ProbeResult)
    (hdraws : ∀ k, draws k < 1) (maxRetries : ℕ) :
    ClimbsLadder cfg results maxRetries (retryLoop cfg results draws 0 maxRetries).1
      (retryLoop cfg results draws 0 maxRetries).2 := by
  obtain ⟨k, hle, hfailed, hlast⟩ := exists_first_final results maxRetries
  have hloop : retryLoop cfg results draws 0 maxRetries =
      (checkResultOf results (0 + k), rungs cfg draws 0 k) :=
    retryLoop_eq cfg draws hle (by simpa using hfailed) (by simpa using hlast)
  rw [Nat.zero_add] at hloop
  rw [hloop]
  exact
    { returns := ⟨k, hle, rfl, hfailed, hlast⟩
      counts := count_rungs.symm
      bounded := Nat.succ_le_succ hle
      alternates := exists_delays_rungs
      delay_le := sum_delays_rungs hdraws }

end Loop

/-! ## The call -/

/-- A call of `checkMonitor` with what its awaits got, the numbers drawn, and what it has done. -/
structure LadderLog where
  /-- The call. -/
  ladder : Ladder
  /-- The results of the probes awaited. -/
  results : List ProbeResult
  /-- The numbers drawn. -/
  draws : List ℚ
  /-- The probes and sleeps so far. -/
  actions : List LadderAction

/-- A call just made. -/
def LadderLog.start (env : LadderEnv) (t : ℕ) : LadderLog := ⟨checkMonitor env t, [], [], [.probe]⟩

/-- The result that an await gets. -/
def Ladder.awaited (s : Ladder) : LadderEvent → List ProbeResult
  | .resume _ => (s.probes.getLast?.bind (·.result)).toList
  | _ => []

/-- The number drawn when an await gets a result. -/
def Ladder.drawn (s : Ladder) : LadderEvent → List ℚ
  | .resume draw => (s.awaited (.resume draw)).map fun _ => draw
  | _ => []

/-- What a call does between two states. -/
def Ladder.performed (s s' : Ladder) : List LadderAction :=
  match s.phase, s'.phase with
  | .awaiting, .sleeping delay => [.sleep delay]
  | .sleeping _, .awaiting => [.probe]
  | _, _ => []

/-- The steps of a call, logged. -/
def LoggedStep (env : LadderEnv) (l : LadderLog) (e : LadderEvent) (l' : LadderLog) : Prop :=
  LadderStep env l.ladder e l'.ladder ∧ l'.results = l.results ++ l.ladder.awaited e ∧
    l'.draws = l.draws ++ l.ladder.drawn e ∧ l'.actions = l.actions ++ l.ladder.performed l'.ladder

/-- **Every run of a call can be logged.** -/
theorem exists_logged_run {env : LadderEnv} {s s' : Ladder} {es : List LadderEvent}
    (h : Run (LadderStep env) s es s') (l : LadderLog) (hl : l.ladder = s) :
    ∃ l', Run (LoggedStep env) l es l' ∧ l'.ladder = s' := by
  induction h generalizing l with
  | nil s => exact ⟨l, .nil l, hl⟩
  | @cons s t u e es hstep _ ih =>
    subst hl
    obtain ⟨l', hrun, hl'⟩ := ih ⟨t, l.results ++ l.ladder.awaited e, l.draws ++ l.ladder.drawn e,
      l.actions ++ l.ladder.performed t⟩ rfl
    exact ⟨l', .cons ⟨hstep, rfl, rfl, rfl⟩ hrun, hl'⟩

/-- A sequence that begins with the elements of a list. -/
def BeginsWith {α : Type} (f : ℕ → α) (l : List α) : Prop := ∀ k a, l[k]? = some a → f k = a

/-- A sequence that begins with a longer list begins with a shorter one. -/
lemma BeginsWith.of_append {α : Type} {f : ℕ → α} {l l' : List α} (h : BeginsWith f (l ++ l')) :
    BeginsWith f l := by
  intro k a hk
  exact h k a (by rw [List.getElem?_append_left (List.getElem?_eq_some_iff.1 hk).1, hk])

/-- And the shorter one is followed by the element after it. -/
lemma BeginsWith.of_append_singleton {α : Type} {f : ℕ → α} {l : List α} {a : α}
    (h : BeginsWith f (l ++ [a])) : f l.length = a := h _ _ (by simp)

/-- Where the loop is, for sequences that begin with what a call has awaited and drawn. -/
def Climbing.At (env : LadderEnv) (results : ℕ → ProbeResult) (draws : ℕ → ℚ) (l : LadderLog) :
    Prop :=
  match l.ladder.phase with
  | .awaiting => l.results.length = l.ladder.attempt ∧ l.draws.length = l.ladder.attempt ∧
      l.actions = rungs env.config draws 0 l.ladder.attempt
  | .sleeping delay => l.results.length = l.ladder.attempt + 1 ∧
      l.draws.length = l.ladder.attempt + 1 ∧
      ¬(results l.ladder.attempt).Final ∧
      delay = backoffDelay env.config l.ladder.attempt (draws l.ladder.attempt) ∧
      l.actions = rungs env.config draws 0 l.ladder.attempt ++ [.sleep delay]
  | .returned r => ((results l.ladder.attempt).Final ∨
      l.ladder.attempt = env.options.maxRetries) ∧ r = checkResultOf results l.ladder.attempt ∧
      l.actions = rungs env.config draws 0 l.ladder.attempt
  | .threw _ => l.actions = rungs env.config draws 0 l.ladder.attempt

/-- **The invariant of a call**: it has done what the loop does up to here. -/
structure Climbing (env : LadderEnv) (l : LadderLog) : Prop where
  length : l.ladder.probes.length = l.ladder.attempt + 1
  draws_lt : ∀ draw ∈ l.draws, draw < 1
  attempt_le : l.ladder.attempt ≤ env.options.maxRetries
  sleeping : ∀ delay, l.ladder.phase = .sleeping delay →
    l.ladder.attempt < env.options.maxRetries
  failed : ∀ results draws, BeginsWith results l.results → BeginsWith draws l.draws →
    ∀ j < l.ladder.attempt, ¬(results j).Final
  place : ∀ results draws, BeginsWith results l.results → BeginsWith draws l.draws →
    Climbing.At env results draws l

/-- A call just made is at the start of the loop. -/
lemma climbing_start (env : LadderEnv) (t : ℕ) : Climbing env (.start env t) where
  length := rfl
  draws_lt _ hdraw := by cases hdraw
  attempt_le := Nat.zero_le _
  sleeping _ hphase := by cases hphase
  failed _ _ _ _ j hj := absurd hj (Nat.not_lt_zero j)
  place _ _ _ _ := ⟨rfl, rfl, rfl⟩

/-- A call does nothing while it waits. -/
lemma Ladder.performed_of_phase_eq {s s' : Ladder} (h : s'.phase = s.phase) :
    s.performed s' = [] := by
  rw [Ladder.performed, h]
  cases s.phase <;> rfl

/-- The rest of the loop body, on a sequence of results. -/
lemma Ladder.afterProbe_eq (env : LadderEnv) (s : Ladder) (results : ℕ → ProbeResult) (draw : ℚ) :
    s.afterProbe env (results s.attempt) draw =
      if (results s.attempt).Final then .returned (checkResultOf results s.attempt)
      else if s.attempt < env.options.maxRetries then
        .sleeping (backoffDelay env.config s.attempt draw)
      else .returned (checkResultOf results s.attempt) := rfl

/-- **A call follows the loop at every step.** -/
theorem Climbing.step {env : LadderEnv} {l l' : LadderLog} {e : LadderEvent} (h : Climbing env l)
    (hstep : LoggedStep env l e l') : Climbing env l' := by
  obtain ⟨s, rs, ds, acts⟩ := l
  obtain ⟨s', rs', ds', acts'⟩ := l'
  obtain ⟨hstep, hresults, hdraws, hactions⟩ := hstep
  dsimp only at hstep hresults hdraws hactions
  subst hresults hdraws hactions
  cases hstep with
  | @probe k e halive =>
    have hnone : ∀ probes, s.performed { s with probes } = [] :=
      fun probes => Ladder.performed_of_phase_eq rfl
    simp only [hnone, Ladder.awaited, Ladder.drawn, List.append_nil]
    exact ⟨by simpa using h.length, h.draws_lt, h.attempt_le, h.sleeping, h.failed, h.place⟩
  | @resume p r draw halive hphase hlast hr hdraw₀ hdraw₁ =>
    have hawaited : s.awaited (.resume draw) = [r] := by simp [Ladder.awaited, hlast, hr]
    simp only [Ladder.drawn, hawaited, List.map_cons, List.map_nil]
    have hdraws_lt : ∀ d ∈ ds ++ [draw], d < 1 := by
      intro d hd
      rcases List.mem_append.1 hd with hd | hd
      · exact h.draws_lt d hd
      · exact (List.mem_singleton.1 hd) ▸ hdraw₁
    refine ⟨h.length, hdraws_lt, h.attempt_le, fun delay hsleeping => ?_,
      fun results draws hresults hdraws => ?_, fun results draws hresults hdraws => ?_⟩
    · simp only [Ladder.afterProbe] at hsleeping
      split_ifs at hsleeping with hfinal hmore
      exact hmore
    · exact h.failed results draws hresults.of_append hdraws.of_append
    · have hplace := h.place results draws hresults.of_append hdraws.of_append
      simp only [Climbing.At, hphase] at hplace
      obtain ⟨hrs, hds, rfl⟩ := hplace
      have hresult : results s.attempt = r := hrs ▸ hresults.of_append_singleton
      have hdraw : draws s.attempt = draw := hds ▸ hdraws.of_append_singleton
      have hafter := Ladder.afterProbe_eq env s results draw
      rw [hresult] at hafter
      by_cases hfinal : r.Final
      · rw [if_pos hfinal] at hafter
        simp only [Climbing.At, hafter, Ladder.performed, hphase, List.append_nil, and_self,
          and_true]
        exact .inl (hresult ▸ hfinal)
      · rw [if_neg hfinal] at hafter
        by_cases hmore : s.attempt < env.options.maxRetries
        · rw [if_pos hmore] at hafter
          simp only [Climbing.At, hafter, Ladder.performed, hphase, hdraw, and_self, and_true]
          exact ⟨by simp [hrs], by simp [hds], hresult ▸ hfinal⟩
        · rw [if_neg hmore] at hafter
          simp only [Climbing.At, hafter, Ladder.performed, hphase, List.append_nil, and_self,
            and_true]
          exact .inr (le_antisymm h.attempt_le (not_lt.1 hmore))
  | @rejected p err draw halive hphase hlast hrej =>
    have hawaited : s.awaited (.resume draw) = [] := by
      simp [Ladder.awaited, hlast, Probe.result, hrej]
    simp only [Ladder.drawn, hawaited, List.map_nil, List.append_nil]
    refine ⟨h.length, h.draws_lt, h.attempt_le, ?_, h.failed,
      fun results draws hresults hdraws => ?_⟩
    · intro delay hsleeping
      cases hsleeping
    · have hplace := h.place results draws hresults hdraws
      simp only [Climbing.At, hphase] at hplace
      simpa only [Climbing.At, Ladder.performed, hphase, List.append_nil] using hplace.2.2
  | @wake delay t halive hphase =>
    simp only [Ladder.awaited, Ladder.drawn, List.append_nil]
    refine ⟨by simp [h.length], h.draws_lt, h.sleeping delay hphase, ?_,
      fun results draws hresults hdraws j hj => ?_, fun results draws hresults hdraws => ?_⟩
    · intro delay' hsleeping
      cases hsleeping
    · have hplace := h.place results draws hresults hdraws
      simp only [Climbing.At, hphase] at hplace
      rcases Nat.lt_succ_iff_lt_or_eq.1 hj with hj | rfl
      · exact h.failed results draws hresults hdraws j hj
      · exact hplace.2.2.1
    · have hplace := h.place results draws hresults hdraws
      simp only [Climbing.At, hphase] at hplace
      obtain ⟨hrs, hds, -, hdelay, hacts⟩ := hplace
      simp only [Climbing.At, Ladder.performed, hphase]
      refine ⟨hrs, hds, ?_⟩
      rw [hacts, rungs_succ, Nat.zero_add, hdelay, List.append_assoc]
      rfl

/-- What holds of a call throughout a run. -/
lemma climbing_of_run {env : LadderEnv} {t : ℕ} {es : List LadderEvent} {l : LadderLog}
    (hrun : Run (LoggedStep env) (.start env t) es l) : Climbing env l := by
  have hstep : ∀ l e l', Climbing env l → LoggedStep env l e l' → Climbing env l' :=
    fun _ _ _ => Climbing.step
  exact hrun.invariant hstep (climbing_start env t)

/-- **A call that has returned has done what the loop does** on the results it has awaited. -/
theorem Climbing.retryLoop_eq {env : LadderEnv} {l : LadderLog} (h : Climbing env l)
    {r : CheckResult} (hreturned : l.ladder.phase = .returned r) {results : ℕ → ProbeResult}
    {draws : ℕ → ℚ} (hresults : BeginsWith results l.results) (hdraws : BeginsWith draws l.draws) :
    retryLoop env.config results draws 0 env.options.maxRetries = (r, l.actions) := by
  have hplace := h.place results draws hresults hdraws
  simp only [Climbing.At, hreturned] at hplace
  obtain ⟨hlast, rfl, hactions⟩ := hplace
  have hloop : retryLoop env.config results draws 0 env.options.maxRetries =
      (checkResultOf results (0 + l.ladder.attempt), rungs env.config draws 0 l.ladder.attempt) :=
    WatchTower.retryLoop_eq env.config draws h.attempt_le
      (by simpa using h.failed results draws hresults hdraws) (by simpa using hlast)
  rw [hloop, hactions, Nat.zero_add]

/-- Some sequence begins with a list. -/
lemma beginsWith_getD {α : Type} (l : List α) (a : α) : BeginsWith (fun k => l.getD k a) l := by
  intro k b hk
  simp [List.getD_eq_getElem?_getD, hk]

/-- **A call climbs the ladder**: what it returns and what it has done when it returns. -/
theorem Climbing.climbsLadder {env : LadderEnv} {l : LadderLog} (h : Climbing env l)
    {r : CheckResult} (hreturned : l.ladder.phase = .returned r) :
    ∃ results, BeginsWith results l.results ∧
      ClimbsLadder env.config results env.options.maxRetries r l.actions ∧
      l.ladder.probes.length = r.attempts := by
  have hresults := beginsWith_getD l.results r.toProbeResult
  have hdraws := beginsWith_getD l.draws 0
  have hdraws_lt : ∀ k, l.draws.getD k 0 < 1 := by
    intro k
    rw [List.getD_eq_getElem?_getD]
    cases hk : l.draws[k]? with
    | none => exact zero_lt_one
    | some draw => exact h.draws_lt draw (List.mem_of_getElem? hk)
  have hclimbs := climbsLadder_retryLoop env.config (fun k => l.results.getD k r.toProbeResult)
    hdraws_lt env.options.maxRetries
  have hplace := h.place _ _ hresults hdraws
  simp only [Climbing.At, hreturned] at hplace
  rw [h.retryLoop_eq hreturned hresults hdraws] at hclimbs
  refine ⟨_, hresults, hclimbs, ?_⟩
  rw [h.length, hplace.2.1, checkResultOf]

/-- Without retries a call makes one probe and does nothing else. -/
lemma Climbing.actions_of_maxRetries_eq_zero {env : LadderEnv} {l : LadderLog}
    (h : Climbing env l) (hzero : env.options.maxRetries = 0) :
    l.actions = [.probe] ∧ l.ladder.probes.length = 1 := by
  have hattempt : l.ladder.attempt = 0 := Nat.le_zero.1 (hzero ▸ h.attempt_le)
  let failed : ProbeResult := ⟨.down, none, none, none, false, 0, 0, {}⟩
  have hplace := h.place _ _ (beginsWith_getD l.results failed) (beginsWith_getD l.draws 0)
  refine ⟨?_, by rw [h.length, hattempt]⟩
  unfold Climbing.At at hplace
  split at hplace
  · rw [hplace.2.2, hattempt]
    rfl
  · rename_i delay hphase
    exact absurd (h.sleeping delay hphase) (by omega)
  · rw [hplace.2.2, hattempt]
    rfl
  · rw [hplace, hattempt]
    rfl

end WatchTower

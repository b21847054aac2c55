import WatchTower.Probe.TimedCheck

set_option relaxedAutoImplicit false
set_option autoImplicit false

/-!
# Readiness

`controllers/health.controller.js`: an instance is ready if the database answers and the loop of
the scheduler has ended a tick lately. The loop is the one that `start()` sets going in
`jobs/scheduler.js`: each tick is followed by a pause, and a tick that ends, in whatever way, notes
the time. Ticks do not overlap, but there may be several loops: `stop()` does not wait for the tick
in progress, and `start()` does not ask for it. Time is the wall clock, which is taken to be steady
here. What follows a tick at once, in the same turn of the event loop, is one step with its end.

The uptime of the process and the time stamp of the answer are left out.

## Main definitions

* `WatchTower.checkMongo`, `WatchTower.checkScheduler`, `WatchTower.checkMail`,
  `WatchTower.readinessController` — the functions of the source.
* `WatchTower.TickLoop`, `WatchTower.LoopStep` — the loop, with the time.
* `WatchTower.TimelyStep` — the loop, when timers are not late and ticks do not last for long.

## Main results

* `WatchTower.notReady_iff_of_run` — when an instance is not ready, after every run of the loop.
* `WatchTower.alwaysReady_iff` — which delays of the loop are tolerated.
-/

namespace WatchTower

open Transition

/-! ## The checks -/

/-- The status of the database. -/
inductive MongoStatus
  | up
  | down
  deriving DecidableEq

/-- What a readiness check finds out about the database. -/
structure MongoProbe where
  /-- `mongoose.connection.readyState`. -/
  readyState : ℕ
  /-- What the `ping` answers. -/
  ping : Except JsError Unit
  /-- How long it takes, in milliseconds. -/
  pingMs : ℤ

/-- The answer of `checkMongo`. -/
structure MongoCheck where
  /-- `status`. -/
  status : MongoStatus
  /-- `detail`, if there is one. -/
  detail : Option String
  /-- `latencyMs`, if there is one. -/
  latencyMs : Option ℤ
  deriving DecidableEq

/-- The names of the connection states. -/
def connectionStates : List String := ["disconnected", "connected", "connecting", "disconnecting"]

/-- `checkMongo`. -/
def checkMongo (probe : MongoProbe) : MongoCheck :=
  if probe.readyState ≠ 1 then
    ⟨.down, some ("connection is " ++ (connectionStates[probe.readyState]?).getD "unknown"), none⟩
  else
    match probe.ping with
    | .ok _ => ⟨.up, none, some probe.pingMs⟩
    | .error err => ⟨.down, some err.message, some probe.pingMs⟩

/-- The status of the scheduler. -/
inductive SchedulerStatus
  | disabled
  | starting
  | stale
  | up
  deriving DecidableEq

/-- The fields of `getSchedulerStats()` that a readiness check reads. -/
structure SchedulerStats where
  /-- `lastTickAt`. -/
  lastTickAt : Option Time
  /-- `isLeader`. -/
  isLeader : Bool
  /-- `inFlight`. -/
  inFlight : ℕ

/-- The answer of `checkScheduler`. -/
structure SchedulerCheck where
  /-- `status`. -/
  status : SchedulerStatus
  /-- `detail`, if there is one. -/
  detail : Option String
  /-- `lastTickAgeSeconds`, if a tick has ended. -/
  lastTickAgeSeconds : Option ℤ
  /-- `staleAfterSeconds`, if a tick has ended. -/
  staleAfterSeconds : Option ℤ
  /-- `isLeader`, if a tick has ended. -/
  isLeader : Option Bool
  /-- `inFlight`, if a tick has ended. -/
  inFlight : Option ℕ
  deriving DecidableEq

/-- `Math.round`. -/
def mathRound (q : ℚ) : ℤ := ⌊q + 1 / 2⌋

/-- `staleAfterMs`: five ticks, and a minute at least. -/
def staleAfterMs (tickMs : ℚ) : ℚ := max (tickMs * 5) 60000

/-- The settings of the scheduler that a readiness check reads. -/
structure LoopConfig where
  /-- `ENABLED`. -/
  enabled : Bool
  /-- `TICK_MS`. -/
  tickMs : ℚ

/-- `checkScheduler`, at a time. -/
def checkScheduler (cfg : LoopConfig) (stats : SchedulerStats) (now : Time) : SchedulerCheck :=
  if cfg.enabled = false then
    ⟨.disabled, some "SCHEDULER_ENABLED=false", none, none, none, none⟩
  else
    match stats.lastTickAt with
    | none => ⟨.starting, some "no tick completed yet", none, none, none, none⟩
    | some lastTickAt =>
      let ageMs : ℚ := (now - lastTickAt : ℤ)
      { status := if staleAfterMs cfg.tickMs < ageMs then .stale else .up
        detail := none
        lastTickAgeSeconds := some (mathRound (ageMs / 1000))
        staleAfterSeconds := some (mathRound (staleAfterMs cfg.tickMs / 1000))
        isLeader := some stats.isLeader
        inFlight := some stats.inFlight }

/-- The settings of the outgoing mail. -/
structure MailConfig where
  /-- `BREVO_API_KEY`. -/
  brevoApiKey : String
  /-- `SMTP_HOST`. -/
  smtpHost : String
  /-- `SMTP_USER`. -/
  smtpUser : String
  /-- `SMTP_PASS`. -/
  smtpPass : String

/-- `isBrevoConfigured`. -/
def isBrevoConfigured (cfg : MailConfig) : Bool := cfg.brevoApiKey ≠ ""

/-- The answer of `checkMail`. -/
structure MailCheck where
  /-- `status`. -/
  status : String
  /-- `provider`. -/
  provider : String
  /-- `transport`. -/
  transport : String
  /-- `note`, if there is one. -/
  note : Option String
  deriving DecidableEq

/-- `checkMail`. -/
def checkMail (cfg : MailConfig) : MailCheck :=
  if isBrevoConfigured cfg then ⟨"configured", "brevo", "https", none⟩
  else if cfg.smtpHost = "" ∨ cfg.smtpUser = "" ∨ cfg.smtpPass = "" then
    ⟨"unconfigured", "smtp", "smtp", none⟩
  else
    ⟨"configured", "smtp", "smtp",
      some "SMTP requires outbound 587; set BREVO_API_KEY where that is blocked"⟩

/-- An answer to `GET /api/health/ready`. -/
structure ReadinessAnswer where
  /-- The status code. -/
  statusCode : ℕ
  /-- `data.status`. -/
  status : String
  /-- `data.checks.mongodb`. -/
  mongodb : MongoCheck
  /-- `data.checks.scheduler`. -/
  scheduler : SchedulerCheck
  /-- `data.checks.mail`. -/
  mail : MailCheck
  /-- `message`. -/
  message : String
  deriving DecidableEq

/-- `GET /api/health/ready`. -/
def readinessController (cfg : LoopConfig) (mail : MailConfig) (probe : MongoProbe)
    (stats : SchedulerStats) (now : Time) : ReadinessAnswer :=
  let mongodb := checkMongo probe
  let scheduler := checkScheduler cfg stats now
  let ready : Bool := mongodb.status = .up && scheduler.status ≠ .stale
  { statusCode := if ready then 200 else 503
    status := if ready then "ready" else "not_ready"
    mongodb := mongodb
    scheduler := scheduler
    mail := checkMail mail
    message := if ready then "Ready to serve traffic" else "Not ready" }

/-! ## The loop -/

/-- A timer that is set for the loop. -/
structure LoopTimer where
  /-- What `setTimeout` returned. -/
  handle : ℕ
  /-- When it fires, at the earliest. -/
  due : Time
  deriving DecidableEq

/-- The loop of the scheduler. -/
structure TickLoop where
  /-- The time. -/
  clock : Time
  /-- `running`. -/
  running : Bool
  /-- `timer`: the timer that was set last, unless `stop()` has dropped it. -/
  timer : Option ℕ
  /-- The timers that are set. -/
  timers : List LoopTimer
  /-- How many have been set. -/
  made : ℕ
  /-- `ticking`, with the time since when. -/
  ticking : Option Time
  /-- `stats.lastTickAt`. -/
  lastTickAt : Option Time

/-- A loop that has not been started. -/
def TickLoop.initial (now : Time) : TickLoop := ⟨now, false, none, [], 0, none, none⟩

/-- `this.timer = setTimeout(loop, …)`. -/
def TickLoop.setTimeout (s : TickLoop) (delay : ℚ) : TickLoop :=
  { s with
    timer := some s.made
    timers := s.timers ++ [⟨s.made, s.clock + timerMs delay⟩]
    made := s.made + 1 }

/-- `start`. -/
def TickLoop.start (cfg : LoopConfig) (s : TickLoop) : TickLoop :=
  if cfg.enabled = false then s
  else if s.running = true then s
  else { s with running := true }.setTimeout 0

/-- What `loop` does once its tick is over. -/
def TickLoop.again (cfg : LoopConfig) (s : TickLoop) : TickLoop :=
  if s.running = true then s.setTimeout cfg.tickMs else s

/-- `loop`, until it awaits its tick. A tick that finds another one in progress returns at once. -/
def TickLoop.loop (cfg : LoopConfig) (s : TickLoop) : TickLoop :=
  if s.running = false then s
  else if s.ticking.isSome then s.again cfg
  else { s with ticking := some s.clock }

/-- The tick in progress resolves or rejects. -/
def TickLoop.ended (cfg : LoopConfig) (s : TickLoop) : TickLoop :=
  { s with ticking := none, lastTickAt := some s.clock }.again cfg

/-- `stop`, as far as the loop goes: `clearTimeout(this.timer)` clears one timer at most. -/
def TickLoop.stop (s : TickLoop) : TickLoop :=
  if s.running = false then s
  else
    { s with
      running := false
      timer := none
      timers := s.timers.filter fun t => some t.handle ≠ s.timer }

/-- What happens. -/
inductive LoopEvent
  /-- Time passes. -/
  | elapse (now : Time)
  /-- `start()` is called. -/
  | start
  /-- A timer fires. -/
  | fire (t : LoopTimer)
  /-- The tick in progress resolves or rejects. -/
  | ended (now : Time)
  /-- `stop()` is called. -/
  | stop

/-- The steps of the loop. Started again while the tick of an earlier start lasts, there are two
loops from then on: the tick that ends sets a timer although there is one. -/
inductive LoopStep (cfg : LoopConfig) : TickLoop → LoopEvent → TickLoop → Prop
  | elapse {s : TickLoop} {now : Time} :
      s.clock ≤ now → LoopStep cfg s (.elapse now) { s with clock := now }
  | start {s : TickLoop} : LoopStep cfg s .start (s.start cfg)
  | fire {s : TickLoop} {t : LoopTimer} :
      t ∈ s.timers → t.due ≤ s.clock →
      LoopStep cfg s (.fire t) ({ s with timers := s.timers.erase t }.loop cfg)
  | ended {s : TickLoop} {since : Time} :
      s.ticking = some since → LoopStep cfg s (.ended s.clock) (s.ended cfg)
  | stop {s : TickLoop} : LoopStep cfg s .stop s.stop

variable {cfg : LoopConfig} {mail : MailConfig} {probe : MongoProbe} {isLeader : Bool}
  {inFlight : ℕ} {now : Time} {es : List LoopEvent} {s s' : TickLoop}

/-- The readiness of an instance, for what its loop has noted. -/
def TickLoop.readiness (s : TickLoop) (cfg : LoopConfig) (mail : MailConfig) (probe : MongoProbe)
    (isLeader : Bool) (inFlight : ℕ) : ReadinessAnswer :=
  readinessController cfg mail probe ⟨s.lastTickAt, isLeader, inFlight⟩ s.clock

/-- When an instance is not ready. -/
lemma statusCode_readiness : (s.readiness cfg mail probe isLeader inFlight).statusCode = 503 ↔
    (checkMongo probe).status ≠ .up ∨ cfg.enabled = true ∧
      ∃ t, s.lastTickAt = some t ∧ staleAfterMs cfg.tickMs < ((s.clock - t : ℤ) : ℚ) := by
  unfold TickLoop.readiness readinessController checkScheduler
  cases cfg.enabled with
  | false => simp
  | true =>
    cases s.lastTickAt with
    | none => simp
    | some t => simp [imp_iff_not_or, lt_sub_iff_add_lt]

/-- An instance is ready, or it is not. -/
lemma statusCode_readiness_eq_or : (s.readiness cfg mail probe isLeader inFlight).statusCode = 200 ∨
    (s.readiness cfg mail probe isLeader inFlight).statusCode = 503 := by
  unfold TickLoop.readiness readinessController
  simp only
  split_ifs
  · exact .inl rfl
  · exact .inr rfl

/-! ## What the loop has noted -/

/-- A loop that has never run. -/
structure TickLoop.Idle (s : TickLoop) : Prop where
  /-- It does not run. -/
  running : s.running = false
  /-- No timer is set. -/
  timers : s.timers = []
  /-- No tick is in progress. -/
  ticking : s.ticking = none
  /-- None has ended. -/
  lastTickAt : s.lastTickAt = none

@[simp] lemma TickLoop.lastTickAt_start : (s.start cfg).lastTickAt = s.lastTickAt := by
  unfold TickLoop.start
  split_ifs <;> rfl

@[simp] lemma TickLoop.clock_start : (s.start cfg).clock = s.clock := by
  unfold TickLoop.start
  split_ifs <;> rfl

@[simp] lemma TickLoop.lastTickAt_again : (s.again cfg).lastTickAt = s.lastTickAt := by
  unfold TickLoop.again
  split_ifs <;> rfl

@[simp] lemma TickLoop.clock_again : (s.again cfg).clock = s.clock := by
  unfold TickLoop.again
  split_ifs <;> rfl

@[simp] lemma TickLoop.lastTickAt_loop : (s.loop cfg).lastTickAt = s.lastTickAt := by
  unfold TickLoop.loop
  split_ifs
  · rfl
  · exact lastTickAt_again
  · rfl

@[simp] lemma TickLoop.clock_loop : (s.loop cfg).clock = s.clock := by
  unfold TickLoop.loop
  split_ifs
  · rfl
  · exact clock_again
  · rfl

@[simp] lemma TickLoop.lastTickAt_stop : s.stop.lastTickAt = s.lastTickAt := by
  unfold TickLoop.stop
  split_ifs <;> rfl

@[simp] lemma TickLoop.clock_stop : s.stop.clock = s.clock := by
  unfold TickLoop.stop
  split_ifs <;> rfl

/-- A scheduler that is disabled stays idle. -/
lemma TickLoop.Idle.step (hs : s.Idle) (hdisabled : cfg.enabled = false) {e : LoopEvent}
    (h : LoopStep cfg s e s') : s'.Idle := by
  cases h with
  | elapse => exact ⟨hs.running, hs.timers, hs.ticking, hs.lastTickAt⟩
  | start =>
    rw [TickLoop.start, if_pos hdisabled]
    exact hs
  | fire ht =>
    rw [hs.timers] at ht
    cases ht
  | ended hticking =>
    rw [hs.ticking] at hticking
    cases hticking
  | stop =>
    rw [TickLoop.stop, if_pos hs.running]
    exact hs

/-- The ticks that have ended, and what the loop has noted of them. -/
structure TicksNoted (cfg : LoopConfig) (es : List LoopEvent) (s : TickLoop) : Prop where
  /-- Where nothing is noted, none has ended. -/
  none_ended : s.lastTickAt = none → ∀ t, .ended t ∉ es
  /-- What is noted is the end of one. -/
  noted : ∀ t, s.lastTickAt = some t → .ended t ∈ es
  /-- It is the last one. -/
  last : ∀ t, s.lastTickAt = some t → ∀ t', .ended t' ∈ es → t' ≤ t
  /-- It is in the past. -/
  past : ∀ t, s.lastTickAt = some t → t ≤ s.clock
  /-- A scheduler that is disabled does not tick. -/
  disabled : cfg.enabled = false → s.Idle

/-- A loop that has not been started has noted nothing. -/
lemma ticksNoted_initial (start : Time) : TicksNoted cfg [] (.initial start) where
  none_ended _ _ := List.not_mem_nil
  noted _ h := by cases h
  last _ h := by cases h
  past _ h := by cases h
  disabled _ := ⟨rfl, rfl, rfl, rfl⟩

/-- An event that ends no tick leaves what is noted. -/
lemma TicksNoted.quiet (hs : TicksNoted cfg es s) {e : LoopEvent} (he : ∀ t, e ≠ .ended t)
    (hlast : s'.lastTickAt = s.lastTickAt) (hclock : s.clock ≤ s'.clock)
    (hidle : cfg.enabled = false → s'.Idle) : TicksNoted cfg (es ++ [e]) s' := by
  have hmem : ∀ t, .ended t ∈ es ++ [e] ↔ .ended t ∈ es := by
    intro t
    simp [(he t).symm]
  refine ⟨?_, ?_, ?_, ?_, hidle⟩
  · intro hnone t
    rw [hmem]
    exact hs.none_ended (hlast ▸ hnone) t
  · intro t ht
    rw [hmem]
    exact hs.noted t (hlast ▸ ht)
  · intro t ht t' ht'
    exact hs.last t (hlast ▸ ht) t' ((hmem t').1 ht')
  · exact fun t ht => (hs.past t (hlast ▸ ht)).trans hclock

/-- The end of a tick is noted. -/
lemma TicksNoted.tick (hs : TicksNoted cfg es s) (hlast : s'.lastTickAt = some s.clock)
    (hclock : s'.clock = s.clock) (hidle : cfg.enabled = false → s'.Idle) :
    TicksNoted cfg (es ++ [.ended s.clock]) s' := by
  refine ⟨?_, ?_, ?_, ?_, hidle⟩
  · intro hnone
    rw [hlast] at hnone
    cases hnone
  · intro t ht
    obtain rfl := Option.some.inj (hlast.symm.trans ht)
    simp
  · intro t ht t' ht'
    obtain rfl := Option.some.inj (hlast.symm.trans ht)
    rcases List.mem_append.1 ht' with ht' | ht'
    · cases hbefore : s.lastTickAt with
      | none => exact absurd ht' (hs.none_ended hbefore t')
      | some t => exact (hs.last t hbefore t' ht').trans (hs.past t hbefore)
    · obtain ⟨⟩ := List.mem_singleton.1 ht'
      exact le_rfl
  · intro t ht
    obtain rfl := Option.some.inj (hlast.symm.trans ht)
    exact hclock.ge

/-- **One step** keeps the notes right. -/
theorem TicksNoted.step (hs : TicksNoted cfg es s) {e : LoopEvent} (h : LoopStep cfg s e s') :
    TicksNoted cfg (es ++ [e]) s' := by
  have hidle : cfg.enabled = false → s'.Idle := fun hdisabled =>
    (hs.disabled hdisabled).step hdisabled h
  cases h with
  | elapse hle => exact hs.quiet (by simp) rfl hle hidle
  | start => exact hs.quiet (by simp) (by simp) (by simp) hidle
  | fire => exact hs.quiet (by simp) (by simp) (by simp) hidle
  | ended => exact hs.tick (by simp [TickLoop.ended]) (by simp [TickLoop.ended]) hidle
  | stop => exact hs.quiet (by simp) (by simp) (by simp) hidle

/-- **When an instance is not ready**, after every run of the loop: the database does not answer, or
a tick has ended, but none within the last `staleAfterMs`. -/
theorem notReady_iff_of_run {start : Time} (hrun : Run (LoopStep cfg) (.initial start) es s) :
    (s.readiness cfg mail probe isLeader inFlight).statusCode = 503 ↔
      (checkMongo probe).status ≠ .up ∨ (∃ t : Time, .ended t ∈ es) ∧
        ∀ t : Time, .ended t ∈ es → t + staleAfterMs cfg.tickMs < s.clock := by
  have hs : TicksNoted cfg es s := hrun.induction_from (P := fun es s => TicksNoted cfg es s)
    (ticksNoted_initial start) fun _ _ _ _ _ hs hstep => hs.step hstep
  rw [statusCode_readiness]
  refine or_congr_right ⟨?_, ?_⟩
  · rintro ⟨-, t, ht, hage⟩
    refine ⟨⟨t, hs.noted t ht⟩, fun t' ht' => ?_⟩
    have hle : (t' : ℚ) ≤ t := by exact_mod_cast hs.last t ht t' ht'
    push_cast at hage
    linarith
  · rintro ⟨⟨t, ht⟩, hold⟩
    cases hlast : s.lastTickAt with
    | none => exact absurd ht (hs.none_ended hlast t)
    | some t' =>
      have hage := hold t' (hs.noted t' hlast)
      refine ⟨?_, t', rfl, ?_⟩
      · cases henabled : cfg.enabled with
        | true => rfl
        | false => rw [(hs.disabled henabled).lastTickAt] at hlast; cases hlast
      · push_cast
        linarith

/-- A timer that is due at once fires after a millisecond. -/
lemma timerMs_zero : timerMs 0 = 1 := by simp [timerMs]

/-- The first start of a loop. -/
lemma loopStep_start_initial (henabled : cfg.enabled = true) :
    LoopStep cfg (.initial 0) .start ⟨0, true, some 0, [⟨0, 1⟩], 1, none, none⟩ := by
  have hstart : (TickLoop.initial 0).start cfg = ⟨0, true, some 0, [⟨0, 1⟩], 1, none, none⟩ := by
    simp [TickLoop.start, TickLoop.initial, TickLoop.setTimeout, henabled, timerMs_zero]
  exact hstart ▸ .start

/-- The law, a minute after the only tick of a loop that was stopped and started again while that
tick lasted: the tick, when it ends, sets a timer beside the one of the new loop. -/
theorem notReady_iff_of_run_restarted :
    (TickLoop.readiness ⟨60003, true, some 2, [⟨1, 2⟩, ⟨2, 5001⟩], 3, none, some 1⟩ ⟨true, 5000⟩
      ⟨"", "", "", ""⟩ ⟨1, .ok (), 3⟩ false 0).statusCode = 503 := by
  have hpause : timerMs 5000 = 5000 := by norm_num [timerMs, timeoutMax]; rfl
  let cfg : LoopConfig := ⟨true, 5000⟩
  let s₁ : TickLoop := ⟨0, true, some 0, [⟨0, 1⟩], 1, none, none⟩
  let s₂ : TickLoop := ⟨1, true, some 0, [], 1, some 1, none⟩
  let s₃ : TickLoop := ⟨1, false, none, [], 1, some 1, none⟩
  let s₄ : TickLoop := ⟨1, true, some 1, [⟨1, 2⟩], 2, some 1, none⟩
  let s₅ : TickLoop := ⟨1, true, some 2, [⟨1, 2⟩, ⟨2, 5001⟩], 3, none, some 1⟩
  have h₁ : LoopStep cfg (.initial 0) .start s₁ := loopStep_start_initial rfl
  have h₂ : LoopStep cfg { s₁ with clock := 1 } (.fire ⟨0, 1⟩) s₂ := .fire List.mem_cons_self le_rfl
  have h₃ : LoopStep cfg s₂ .stop s₃ := .stop
  have h₄ : LoopStep cfg s₃ .start s₄ := by
    have hstart : s₃.start cfg = s₄ := by
      simp [TickLoop.start, TickLoop.setTimeout, cfg, s₃, s₄, timerMs_zero]
    exact hstart ▸ .start
  have h₅ : LoopStep cfg s₄ (.ended 1) s₅ := by
    have hended : s₄.ended cfg = s₅ := by
      simp [TickLoop.ended, TickLoop.again, TickLoop.setTimeout, cfg, s₄, s₅, hpause]
    exact hended ▸ .ended rfl
  have hrun : Run (LoopStep cfg) (.initial 0)
      [.start, .elapse 1, .fire ⟨0, 1⟩, .stop, .start, .ended 1, .elapse 60003]
      { s₅ with clock := 60003 } :=
    .cons h₁ (.cons (.elapse (by decide)) (.cons h₂ (.cons h₃ (.cons h₄ (.cons h₅
      (.cons (.elapse (by decide)) (.nil _)))))))
  refine (notReady_iff_of_run hrun).2 (.inr ⟨⟨1, by simp⟩, fun t ht => ?_⟩)
  obtain rfl : t = 1 := by simpa using ht
  norm_num [staleAfterMs, cfg, s₅]

/-! ## A loop that keeps time -/

/-- No timer is late by more than `late`, and no tick lasts for longer than `lasts`. -/
structure TickLoop.OnTime (late lasts : ℕ) (s : TickLoop) : Prop where
  /-- No timer is late. -/
  timers : ∀ t ∈ s.timers, s.clock ≤ t.due + late
  /-- No tick lasts too long. -/
  ticking : ∀ since, s.ticking = some since → s.clock ≤ since + lasts

/-- A step of a loop that keeps time and is not stopped. -/
def TimelyStep (cfg : LoopConfig) (late lasts : ℕ) (s : TickLoop) (e : LoopEvent) (s' : TickLoop) :
    Prop :=
  LoopStep cfg s e s' ∧ e ≠ .stop ∧ s'.OnTime late lasts

/-- **These delays are tolerated**: while the database answers, an instance whose loop keeps time is
always ready. -/
def AlwaysReady (cfg : LoopConfig) (late lasts : ℕ) : Prop :=
  ∀ start es s mail probe isLeader inFlight,
    Run (TimelyStep cfg late lasts) (.initial start) es s → (checkMongo probe).status = .up →
      (s.readiness cfg mail probe isLeader inFlight).statusCode = 200

/-- Where a loop is that is not stopped. -/
inductive TickedLately (cfg : LoopConfig) (late : ℕ) (s : TickLoop) : Prop
  /-- It has never run. -/
  | idle : s.Idle → TickedLately cfg late s
  /-- Its timer is set, since the last tick has ended. -/
  | waiting (t : LoopTimer) : s.running = true → s.timers = [t] → s.ticking = none →
      (∀ last, s.lastTickAt = some last → t.due = last + timerMs cfg.tickMs) →
      TickedLately cfg late s
  /-- A tick is in progress, from when the timer has fired. -/
  | ticking (since : Time) : s.running = true → s.timers = [] → s.ticking = some since →
      (∀ last, s.lastTickAt = some last → since ≤ last + timerMs cfg.tickMs + late) →
      TickedLately cfg late s

/-- **One step** of a loop that keeps time. -/
theorem TickedLately.step {late lasts : ℕ} (hs : TickedLately cfg late s)
    (htime : s.OnTime late lasts) {e : LoopEvent} (h : TimelyStep cfg late lasts s e s') :
    TickedLately cfg late s' := by
  obtain ⟨hstep, hstop, -⟩ := h
  cases hstep with
  | elapse =>
    cases hs with
    | idle hidle => exact .idle ⟨hidle.running, hidle.timers, hidle.ticking, hidle.lastTickAt⟩
    | waiting t hrunning htimers hticking hdue => exact .waiting t hrunning htimers hticking hdue
    | ticking since hrunning htimers hticking hsince =>
      exact .ticking since hrunning htimers hticking hsince
  | start =>
    unfold TickLoop.start
    split_ifs with hdisabled hrunning
    · exact hs
    · exact hs
    · cases hs with
      | idle hidle =>
        refine .waiting ⟨s.made, s.clock + timerMs 0⟩ rfl ?_ hidle.ticking fun last hlast => ?_
        · simp [TickLoop.setTimeout, hidle.timers]
        · cases hidle.lastTickAt.symm.trans hlast
      | waiting t hrunning' => exact absurd hrunning' hrunning
      | ticking since hrunning' => exact absurd hrunning' hrunning
  | @fire t ht hdue =>
    cases hs with
    | idle hidle =>
      rw [hidle.timers] at ht
      cases ht
    | waiting t' hrunning htimers hticking hdue' =>
      obtain rfl : t = t' := by simpa [htimers] using ht
      have hlate := htime.timers t ht
      have hloop : { s with timers := s.timers.erase t }.loop cfg =
          { s with timers := [], ticking := some s.clock } := by
        simp [TickLoop.loop, hrunning, hticking, htimers]
      rw [hloop]
      refine .ticking s.clock hrunning rfl rfl fun last hlast => ?_
      rw [hdue' last hlast] at hlate
      exact hlate
    | ticking since hrunning htimers =>
      rw [htimers] at ht
      cases ht
  | @ended since hsince =>
    cases hs with
    | idle hidle => cases hidle.ticking.symm.trans hsince
    | waiting t hrunning htimers hticking => cases hticking.symm.trans hsince
    | ticking since' hrunning htimers =>
      refine .waiting ⟨s.made, s.clock + timerMs cfg.tickMs⟩ ?_ ?_ ?_ fun last hlast => ?_
      · simp [TickLoop.ended, TickLoop.again, TickLoop.setTimeout, hrunning]
      · simp [TickLoop.ended, TickLoop.again, TickLoop.setTimeout, hrunning, htimers]
      · simp [TickLoop.ended, TickLoop.again, TickLoop.setTimeout, hrunning]
      · obtain rfl : s.clock = last := by simpa [TickLoop.ended] using hlast
        rfl
  | stop => exact absurd rfl hstop

/-- While a loop keeps time, the last tick has ended within the pause and the two delays. -/
lemma TickedLately.clock_le {late lasts : ℕ} (hs : TickedLately cfg late s)
    (htime : s.OnTime late lasts) {last : Time} (hlast : s.lastTickAt = some last) :
    s.clock ≤ last + timerMs cfg.tickMs + late + lasts := by
  cases hs with
  | idle hidle => cases hidle.lastTickAt.symm.trans hlast
  | waiting t _ htimers _ hdue =>
    have hclock := htime.timers t (by simp [htimers])
    rw [hdue last hlast] at hclock
    linarith [Int.natCast_nonneg lasts]
  | ticking since _ _ hticking hsince =>
    have hclock := htime.ticking since hticking
    linarith [hsince last hlast]

/-- A loop that keeps time, after a run. -/
lemma tickedLately_of_run {late lasts : ℕ} {start : Time}
    (hrun : Run (TimelyStep cfg late lasts) (.initial start) es s) :
    TickedLately cfg late s ∧ s.OnTime late lasts := by
  have hstep : ∀ s e s', TickedLately cfg late s ∧ s.OnTime late lasts →
      TimelyStep cfg late lasts s e s' → TickedLately cfg late s' ∧ s'.OnTime late lasts :=
    fun _ _ _ hs h => ⟨hs.1.step hs.2 h, h.2.2⟩
  have htime : (TickLoop.initial start).OnTime late lasts :=
    ⟨by simp [TickLoop.initial], by simp [TickLoop.initial]⟩
  exact hrun.invariant hstep ⟨.idle ⟨rfl, rfl, rfl, rfl⟩, htime⟩

/-- The slowest loop that keeps time, seen while its second tick lasts. -/
lemma run_slowest (henabled : cfg.enabled = true) (late lasts : ℕ) :
    ∃ es, Run (TimelyStep cfg late lasts) (.initial 0) es
      ⟨1 + timerMs cfg.tickMs + late + lasts, true, some 1, [], 2,
        some (1 + timerMs cfg.tickMs + late), some 1⟩ := by
  let pause : ℤ := timerMs cfg.tickMs
  have hpause : 0 ≤ pause := Int.natCast_nonneg _
  have hlate : (0 : ℤ) ≤ late := Int.natCast_nonneg _
  have hlasts : (0 : ℤ) ≤ lasts := Int.natCast_nonneg _
  let s₁ : TickLoop := ⟨0, true, some 0, [⟨0, 1⟩], 1, none, none⟩
  let s₂ : TickLoop := ⟨1, true, some 0, [⟨0, 1⟩], 1, none, none⟩
  let s₃ : TickLoop := ⟨1, true, some 0, [], 1, some 1, none⟩
  let s₄ : TickLoop := ⟨1, true, some 1, [⟨1, 1 + pause⟩], 2, none, some 1⟩
  let s₅ : TickLoop := ⟨1 + pause + late, true, some 1, [⟨1, 1 + pause⟩], 2, none, some 1⟩
  let s₆ : TickLoop :=
    ⟨1 + pause + late, true, some 1, [], 2, some (1 + pause + late), some 1⟩
  let s₇ : TickLoop :=
    ⟨1 + pause + late + lasts, true, some 1, [], 2, some (1 + pause + late), some 1⟩
  have h₁ : LoopStep cfg (.initial 0) .start s₁ := loopStep_start_initial henabled
  have h₂ : LoopStep cfg s₁ (.elapse 1) s₂ := .elapse (by decide)
  have h₃ : LoopStep cfg s₂ (.fire ⟨0, 1⟩) s₃ := .fire List.mem_cons_self le_rfl
  have h₄ : LoopStep cfg s₃ (.ended 1) s₄ := .ended rfl
  have h₅ : LoopStep cfg s₄ (.elapse (1 + pause + late)) s₅ := .elapse (by change 1 ≤ _; linarith)
  have h₆ : LoopStep cfg s₅ (.fire ⟨1, 1 + pause⟩) s₆ := by
    have hfire : { s₅ with timers := s₅.timers.erase ⟨1, 1 + pause⟩ }.loop cfg = s₆ := by
      simp [TickLoop.loop, s₅, s₆]
    exact hfire ▸ .fire List.mem_cons_self (by simp [s₅])
  have h₇ : LoopStep cfg s₆ (.elapse (1 + pause + late + lasts)) s₇ := .elapse (by simp [s₆])
  refine ⟨_, .cons ⟨h₁, by simp, ?_⟩ (.cons ⟨h₂, by simp, ?_⟩ (.cons ⟨h₃, by simp, ?_⟩
    (.cons ⟨h₄, by simp, ?_⟩ (.cons ⟨h₅, by simp, ?_⟩ (.cons ⟨h₆, by simp, ?_⟩
      (.cons ⟨h₇, by simp, ?_⟩ (.nil _)))))))⟩
  all_goals constructor
  all_goals simp [s₁, s₂, s₃, s₄, s₅, s₆, s₇]
  all_goals linarith

/-- **Which delays are tolerated**: exactly those that add up, with the pause between two ticks, to
no more than `staleAfterMs`. -/
theorem alwaysReady_iff (cfg : LoopConfig) (late lasts : ℕ) : AlwaysReady cfg late lasts ↔
    (cfg.enabled = true → (timerMs cfg.tickMs + late + lasts : ℚ) ≤ staleAfterMs cfg.tickMs) := by
  constructor
  · intro h henabled
    by_contra hlong
    obtain ⟨es, hrun⟩ := run_slowest henabled late lasts
    have hready := h 0 es _ ⟨"", "", "", ""⟩ ⟨1, .ok (), 0⟩ false 0 hrun rfl
    have hstale : (TickLoop.readiness ⟨1 + timerMs cfg.tickMs + late + lasts, true, some 1, [], 2,
        some (1 + timerMs cfg.tickMs + late), some 1⟩ cfg ⟨"", "", "", ""⟩ ⟨1, .ok (), 0⟩
        false 0).statusCode = 503 := by
      refine statusCode_readiness.2 (.inr ⟨henabled, 1, rfl, ?_⟩)
      push_cast
      linarith
    rw [hready] at hstale
    cases hstale
  · intro hdelays start es s mail probe isLeader inFlight hrun hup
    refine statusCode_readiness_eq_or.resolve_right fun hdown => ?_
    rcases statusCode_readiness.1 hdown with hmongo | ⟨henabled, t, ht, hstale⟩
    · exact hmongo hup
    · obtain ⟨hs, htime⟩ := tickedLately_of_run hrun
      have hclock : (s.clock : ℚ) ≤ t + timerMs cfg.tickMs + late + lasts := by
        exact_mod_cast hs.clock_le htime ht
      have hbound := hdelays henabled
      push_cast at hstale
      linarith

end WatchTower

import WatchTower.Scheduler.Shutdown

set_option relaxedAutoImplicit false
set_option autoImplicit false

/-!
# The order of a shutdown

`server.js` awaits the end of all connections first, and only then stops the scheduler, which
releases the lease. A timer that it sets at the signal ends the process after thirty seconds all the
same. A connection that was upgraded to a WebSocket ends when its client goes away.

What is assumed of Node is that `server.close` ends the idle connections and calls back once no
connection is left.

## Main definitions

* `WatchTower.ServerState`, `WatchTower.ServerEvent`, `WatchTower.ServerStep` — the process, with
  its connections and its scheduler.
* `WatchTower.Leads` — the instance leads, or its lease is still to be deleted.
* `WatchTower.ReleasesFirst` — the law: an instance that leads does not exit before its scheduler
  has stopped.
* `WatchTower.DrainsInTime` — the condition: the failsafe does not find it leading.

## Main results

* `WatchTower.notCalled_of_connections` — as long as a connection is open, the scheduler goes on.
* `WatchTower.releasesFirst_iff` — the law along a run, exactly under the condition.
* `WatchTower.releasesFirst_of_drained` — when clients leave and checks end in time.
-/

namespace WatchTower

open Transition Lease

/-! ## The process -/

/-- An open connection. -/
inductive Connection
  /-- Kept alive between two requests. -/
  | idle
  /-- A request is being answered. -/
  | active
  /-- A WebSocket. -/
  | upgraded
  deriving DecidableEq

/-- What a connection may turn into. -/
def Connection.turnsInto : Connection → Connection → Bool
  | .idle, .active => true
  | .active, .idle | .active, .upgraded => true
  | _, _ => false

/-- Where the process is. -/
inductive ProcessPhase
  /-- No signal has arrived. -/
  | serving
  /-- `shutdown` awaits `server.close`, since a signal. -/
  | closing (since : Time)
  /-- `shutdown` awaits `scheduler.stop()`. -/
  | stopping (since : Time)
  /-- `process.exit` has been called. -/
  | exited (code : ℕ)
  deriving DecidableEq

/-- `30_000`, the time that the failsafe waits. -/
def failsafeMs : ℕ := 30000

/-- The process. -/
structure ServerState (ι : Type) where
  /-- The scheduler, with the lock. -/
  scheduler : Lifecycle ι
  /-- The open connections. -/
  connections : List Connection
  /-- Where it is. -/
  phase : ProcessPhase

/-- A process that has just started to listen. -/
def ServerState.init {ι : Type} (clock : Time) (doc : Option (LockDoc ι)) : ServerState ι :=
  ⟨.init clock doc, [], .serving⟩

/-- What happens. -/
inductive ServerEvent (ι : Type)
  /-- A step of the scheduler or of the lock. -/
  | scheduler (e : LifecycleEvent ι)
  /-- The database rejects the deletion of `release()`. -/
  | deleteFailed (i : ι)
  /-- A client connects. -/
  | connect
  /-- A connection turns into another kind. -/
  | turn (c c' : Connection)
  /-- A connection ends. -/
  | ended (c : Connection)
  /-- `SIGTERM` or `SIGINT` arrives. -/
  | signal
  /-- The callback of `server.close`. -/
  | closed
  /-- `shutdown` goes on after `scheduler.stop()`; closing the mail transport may throw. -/
  | exit (mailThrows : Bool)
  /-- The failsafe fires. -/
  | failsafe

variable {ι : Type}

/-- `stop()` has returned: it has resolved, or did not find the loop running. -/
def Lifecycle.StopReturned (s : Lifecycle ι) : Prop :=
  (∃ warned, s.stopping = .resolved warned) ∨ s.running = false ∧ s.stopping = .notCalled

variable [DecidableEq ι]

/-- A deletion less is under way, and the document is left as it is. -/
def LockState.deleteFailed (l : LockState ι) (i : ι) (n : ℕ) : LockState ι :=
  { l with releasing := Function.update l.releasing i n }

/-- The steps of the process. -/
inductive ServerStep (opts : SchedulerOptions) (self : ι) :
    ServerState ι → ServerEvent ι → ServerState ι → Prop
  | scheduler {s : ServerState ι} {e : LifecycleEvent ι} {scheduler : Lifecycle ι} :
      (∀ code, s.phase ≠ .exited code) → e ≠ .stop → (e = .start → s.phase = .serving) →
      LifecycleStep opts self s.scheduler e scheduler →
      ServerStep opts self s (.scheduler e) { s with scheduler := scheduler }
  | deleteFailed {s : ServerState ι} {i : ι} {n : ℕ} :
      (∀ code, s.phase ≠ .exited code) → s.scheduler.lock.releasing i = n + 1 →
      ServerStep opts self s (.deleteFailed i)
        { s with scheduler := { s.scheduler with lock := s.scheduler.lock.deleteFailed i n } }
  | connect {s : ServerState ι} :
      s.phase = .serving →
      ServerStep opts self s .connect { s with connections := .idle :: s.connections }
  | turn {s : ServerState ι} {c c' : Connection} :
      (∀ code, s.phase ≠ .exited code) → c ∈ s.connections → c.turnsInto c' = true →
      ServerStep opts self s (.turn c c') { s with connections := c' :: s.connections.erase c }
  | ended {s : ServerState ι} {c : Connection} :
      (∀ code, s.phase ≠ .exited code) → c ∈ s.connections →
      ServerStep opts self s (.ended c) { s with connections := s.connections.erase c }
  | signal {s : ServerState ι} :
      s.phase = .serving →
      ServerStep opts self s .signal
        { s with
          connections := s.connections.filter (· ≠ .idle)
          phase := .closing s.scheduler.lock.clock }
  -- `if (shuttingDown) return;`
  | signalAgain {s : ServerState ι} :
      (∀ code, s.phase ≠ .exited code) → s.phase ≠ .serving → ServerStep opts self s .signal s
  | closed {s : ServerState ι} {since : Time} {scheduler : Lifecycle ι} :
      s.phase = .closing since → s.connections = [] →
      LifecycleStep opts self s.scheduler .stop scheduler →
      ServerStep opts self s .closed { s with scheduler := scheduler, phase := .stopping since }
  | closedIdle {s : ServerState ι} {since : Time} :
      s.phase = .closing since → s.connections = [] → s.scheduler.running = false →
      ServerStep opts self s .closed { s with phase := .stopping since }
  | exit {s : ServerState ι} {since : Time} {mailThrows : Bool} :
      s.phase = .stopping since → s.scheduler.StopReturned →
      ServerStep opts self s (.exit mailThrows)
        { s with phase := .exited (if mailThrows then 1 else 0) }
  -- Once `stop()` has returned, `shutdown` goes on before any timer fires.
  | failsafe {s : ServerState ι} {since : Time} :
      s.phase = .closing since ∨ s.phase = .stopping since ∧ ¬s.scheduler.StopReturned →
      since + failsafeMs ≤ s.scheduler.lock.clock →
      ServerStep opts self s .failsafe { s with phase := .exited 1 }

/-! ## The law -/

/-- The instance leads, or a deletion of its lease is under way. -/
def Leads (self : ι) (l : LockState ι) : Prop := l.isLeader self = true ∨ l.releasing self ≠ 0

/-- **The law**: when an instance that leads exits, `scheduler.stop()` has resolved, so that its
release is over. -/
def ReleasesFirst (self : ι) (s : ServerState ι) (_ : ServerEvent ι) (s' : ServerState ι) : Prop :=
  ∀ code, s'.phase = .exited code → Leads self s.scheduler.lock →
    ∃ warned, s.scheduler.stopping = .resolved warned

/-- **The condition**: an instance that the failsafe ends does not lead. -/
def DrainsInTime (self : ι) (s : ServerState ι) (e : ServerEvent ι) (_ : ServerState ι) : Prop :=
  e = .failsafe → ¬Leads self s.scheduler.lock

/-! ## A scheduler that is not running -/

variable {opts : SchedulerOptions} {self : ι} {s s' : ServerState ι} {e : ServerEvent ι}

/-- The instance leads only by a call of its own. -/
lemma Leads.of_lockStep {ttlMs : ℕ} {l l' : LockState ι} {le : LockEvent ι}
    (h : LockStep ttlMs l le l') (hcall : ¬le.isCallOf self) (hl : Leads self l') :
    Leads self l := by
  cases h with
  | @acquired i now answer hi =>
    have hne : self ≠ i := fun heq => hcall heq.symm
    simpa [Leads, Function.update_of_ne hne] using hl
  | @release i =>
    have hne : self ≠ i := fun heq => hcall heq.symm
    split_ifs at hl
    · simpa [Leads, Function.update_of_ne hne] using hl
    · exact hl
  | @delete i n hn =>
    rcases hl with hleader | hreleasing
    · exact .inl hleader
    · right
      intro hzero
      by_cases hself : self = i
      · subst hself
        rw [hzero] at hn
        cases hn
      · have hsame : Function.update l.releasing i n self = l.releasing self :=
          Function.update_of_ne hself _ _
        exact hreleasing (hsame.trans hzero)
  | _ => exact hl

/-- The loop has been started. -/
def Lifecycle.Begun (s : Lifecycle ι) : Prop := s.running = true ∨ s.stopping ≠ .notCalled

/-- A scheduler whose loop has not been started does nothing and does not lead. -/
structure Lifecycle.Dormant (i : ι) (s : Lifecycle ι) : Prop where
  timer : s.timer = false
  work : s.work = .idle
  follows : ¬Leads i s.lock

/-- Once begun, always begun. -/
lemma Lifecycle.Begun.step {l l' : Lifecycle ι} {le : LifecycleEvent ι} (hl : l.Begun)
    (h : LifecycleStep opts self l le l') : l'.Begun := by
  cases h with
  | start =>
    unfold Lifecycle.start
    split_ifs
    · exact .inl rfl
    · exact hl
  | acquired =>
    split_ifs
    · exact hl
    · exact hl
  | found | finish => simpa [Lifecycle.Begun] using hl
  | stop _ _ hpolls | poll _ hpolls =>
    cases hpolls
    · exact .inr (by simp)
    · exact .inr (by simp)
  | resolve => exact .inr (by simp)
  | _ => exact hl

/-- **Every step** leaves the scheduler dormant, if it does not begin. -/
lemma Lifecycle.begun_or_dormant {l l' : Lifecycle ι} {le : LifecycleEvent ι}
    (h : LifecycleStep opts self l le l') (hl : l.Begun ∨ l.Dormant self) :
    l'.Begun ∨ l'.Dormant self := by
  rcases hl with hbegun | ⟨htimer, hwork, hfollows⟩
  · exact .inl (hbegun.step h)
  · have hstep := h
    cases h with
    | lock hcall hlock =>
      exact .inr ⟨htimer, hwork, fun hl => hfollows (hl.of_lockStep hlock hcall)⟩
    | start =>
      unfold Lifecycle.start
      split_ifs
      · exact .inl (.inl rfl)
      · exact .inr ⟨htimer, hwork, hfollows⟩
    | fire hfires => simp [htimer] at hfires
    | acquired hbusy | found hbusy | findFailed hbusy | finish hbusy => simp [hwork] at hbusy
    | stop hrunning =>
      have hbegun : l.Begun := .inl hrunning
      exact .inl (hbegun.step hstep)
    | poll hstopping | resolve hstopping =>
      have hbegun : l.Begun := .inr (by simp [hstopping])
      exact .inl (hbegun.step hstep)

/-! ## The invariant -/

/-- What holds of the process: the scheduler is begun or dormant, `stop()` is called when the
connections have ended, and there are none from then on. -/
structure ServerState.Tame (i : ι) (s : ServerState ι) : Prop where
  begun : s.scheduler.Begun ∨ s.scheduler.Dormant i
  serving : s.phase = .serving → s.scheduler.stopping = .notCalled
  closing : ∀ since, s.phase = .closing since → s.scheduler.stopping = .notCalled
  stopping : ∀ since, s.phase = .stopping since → s.connections = []

omit [DecidableEq ι] in
/-- It holds when the process starts to listen. -/
lemma tame_init (clock : Time) (doc : Option (LockDoc ι)) :
    ServerState.Tame self (.init clock doc) where
  begun := .inr ⟨rfl, rfl, by simp [Leads, ServerState.init, Lifecycle.init, LockState.init]⟩
  serving _ := rfl
  closing _ _ := rfl
  stopping since hphase := by cases hphase

/-- Only `stop()` is a call of `stop()`. -/
lemma LifecycleStep.notCalled {l l' : Lifecycle ι} {le : LifecycleEvent ι}
    (h : LifecycleStep opts self l le l') (hstop : le ≠ .stop) (hl : l.stopping = .notCalled) :
    l'.stopping = .notCalled := by
  cases h with
  | start =>
    unfold Lifecycle.start
    split_ifs
    · exact hl
    · exact hl
  | acquired =>
    split_ifs
    · exact hl
    · exact hl
  | found | finish => simpa using hl
  | stop => exact absurd rfl hstop
  | poll hwaiting | resolve hwaiting => simp [hl] at hwaiting
  | _ => exact hl

/-- A deletion that fails gives no lease. -/
lemma Leads.of_deleteFailed {l : LockState ι} {i : ι} {n : ℕ} (hn : l.releasing i = n + 1)
    (hl : Leads self (l.deleteFailed i n)) : Leads self l := by
  rcases hl with hleader | hreleasing
  · exact .inl hleader
  · by_cases hself : self = i
    · subst hself
      exact .inr (by simp [hn])
    · exact .inr fun hzero => hreleasing ((Function.update_of_ne hself _ _).trans hzero)

/-- **Every step keeps it.** -/
lemma ServerState.Tame.step (hs : s.Tame self) (h : ServerStep opts self s e s') :
    s'.Tame self := by
  obtain ⟨hbegun, hserving, hclosing, hstopping⟩ := hs
  cases h with
  | scheduler _ hstop _ hstep =>
    exact ⟨Lifecycle.begun_or_dormant hstep hbegun,
      fun hphase => hstep.notCalled hstop (hserving hphase),
      fun since hphase => hstep.notCalled hstop (hclosing since hphase), hstopping⟩
  | deleteFailed _ hn =>
    refine ⟨?_, hserving, hclosing, hstopping⟩
    rcases hbegun with hbegun | ⟨htimer, hwork, hfollows⟩
    · exact .inl hbegun
    · exact .inr ⟨htimer, hwork, fun hl => hfollows (hl.of_deleteFailed hn)⟩
  | connect hphase =>
    exact ⟨hbegun, hserving, hclosing, fun since hlater => by simp [hphase] at hlater⟩
  | turn _ hmem | ended _ hmem =>
    refine ⟨hbegun, hserving, hclosing, fun since hphase => ?_⟩
    rw [hstopping since hphase] at hmem
    cases hmem
  | signal hphase =>
    exact ⟨hbegun, fun _ => hserving hphase, fun _ _ => hserving hphase, by simp⟩
  | signalAgain => exact ⟨hbegun, hserving, hclosing, hstopping⟩
  | closed _ hnone hstep =>
    exact ⟨Lifecycle.begun_or_dormant hstep hbegun, by simp, by simp, fun _ _ => hnone⟩
  | closedIdle _ hnone => exact ⟨hbegun, by simp, by simp, fun _ _ => hnone⟩
  | exit | failsafe => exact ⟨hbegun, by simp, by simp, by simp⟩

/-- **As long as a connection is open**, `stop()` is not called: a WebSocket that stays open leaves
the end of the process to the failsafe. -/
theorem notCalled_of_connections (opts : SchedulerOptions) (self : ι) (clock : Time)
    (doc : Option (LockDoc ι)) {es : List (ServerEvent ι)}
    (hrun : Run (ServerStep opts self) (.init clock doc) es s) (hopen : s.connections ≠ [])
    (hgoing : ∀ code, s.phase ≠ .exited code) : s.scheduler.stopping = .notCalled := by
  have htame : s.Tame self := hrun.invariant (fun _ _ _ hs h => hs.step h) (tame_init clock doc)
  cases hphase : s.phase with
  | serving => exact htame.serving hphase
  | closing since => exact htame.closing since hphase
  | stopping since => exact absurd (htame.stopping since hphase) hopen
  | exited code => exact absurd hphase (hgoing code)

/-! ## The law along a run -/

omit [DecidableEq ι] in
/-- If `stop()` has returned on an instance that leads, it has resolved. -/
lemma ServerState.Tame.resolved (hs : s.Tame self) (hreturned : s.scheduler.StopReturned)
    (hleads : Leads self s.scheduler.lock) : ∃ warned, s.scheduler.stopping = .resolved warned := by
  rcases hreturned with hresolved | ⟨hrunning, hnotCalled⟩
  · exact hresolved
  · rcases hs.begun with (hbegun | hbegun) | hdormant
    · rw [hrunning] at hbegun
      cases hbegun
    · exact absurd hnotCalled hbegun
    · exact (hdormant.follows hleads).elim

/-- The failsafe does not fire when `stop()` has resolved. -/
lemma ServerState.Tame.not_resolved (hs : s.Tame self) (h : ServerStep opts self s .failsafe s')
    (warned : Bool) : s.scheduler.stopping ≠ .resolved warned := by
  intro hresolved
  cases h with
  | failsafe hphase =>
    rcases hphase with hclosing | ⟨-, hgoing⟩
    · rw [hs.closing _ hclosing] at hresolved
      cases hresolved
    · exact hgoing (.inl ⟨warned, hresolved⟩)

/-- The process exits when `shutdown` has stopped the scheduler, or by the failsafe. -/
lemma ServerStep.exit_or_failsafe (h : ServerStep opts self s e s') {code : ℕ}
    (hcode : s'.phase = .exited code) : s.scheduler.StopReturned ∨ e = .failsafe := by
  cases h with
  | scheduler halive | deleteFailed halive | turn halive | ended halive | signalAgain halive =>
    exact absurd hcode (halive code)
  | connect hphase => simp [hphase] at hcode
  | signal | closed | closedIdle => cases hcode
  | exit _ hreturned => exact .inl hreturned
  | failsafe => exact .inr rfl

/-- **A step** respects the law exactly under the condition. -/
lemma releasesFirst_step_iff (hs : s.Tame self) (h : ServerStep opts self s e s') :
    ReleasesFirst self s e s' ↔ DrainsInTime self s e s' := by
  constructor
  · rintro hlaw rfl hleads
    obtain ⟨code, hcode⟩ : ∃ code, s'.phase = .exited code := by
      cases h with
      | failsafe => exact ⟨1, rfl⟩
    obtain ⟨warned, hresolved⟩ := hlaw code hcode hleads
    exact hs.not_resolved h warned hresolved
  · intro hcond code hcode hleads
    rcases h.exit_or_failsafe hcode with hreturned | hfailsafe
    · exact hs.resolved hreturned hleads
    · exact absurd hleads (hcond hfailsafe)

/-- When the failsafe is due, the connections have ended and `stop()` has returned. -/
def ServerState.Drained (s : ServerState ι) : Prop :=
  ∀ since, s.phase = .closing since ∨ s.phase = .stopping since →
    since + failsafeMs ≤ s.scheduler.lock.clock →
    s.connections = [] ∧ s.scheduler.StopReturned

/-- **Clients that leave and checks that end within the 30 s are enough** for the lease to be
released first. -/
theorem releasesFirst_of_drained (opts : SchedulerOptions) (self : ι) (clock : Time)
    (doc : Option (LockDoc ι)) {es : List (ServerEvent ι)}
    (h : AllSteps (ServerStep opts self) (fun s _ _ => s.Drained) (.init clock doc) es) :
    AllSteps (ServerStep opts self) (ReleasesFirst self) (.init clock doc) es := by
  have hlaw : ∀ s e s', s.Tame self → ServerStep opts self s e s' → s.Drained →
      ReleasesFirst self s e s' := by
    intro s e s' hs hstep hdrained
    refine (releasesFirst_step_iff hs hstep).2 ?_
    rintro rfl hleads
    obtain ⟨warned, hresolved⟩ : ∃ warned, s.scheduler.stopping = .resolved warned := by
      cases hstep with
      | failsafe hphase hdue =>
        exact hs.resolved (hdrained _ (hphase.imp_right And.left) hdue).2 hleads
    exact hs.not_resolved hstep warned hresolved
  exact AllSteps.imp hlaw (fun _ _ _ hs hstep _ => hs.step hstep) h (tame_init clock doc)

/-! ## A dashboard that stays open -/

/-- What a scheduler looks like that has nothing in flight and has not been stopped. -/
structure Lifecycle.Looks (i : ι) (clock : Time) (doc : Option (LockDoc ι)) (leader timer : Bool)
    (work : Work) (acquiring : Acquiring ι) (l : Lifecycle ι) : Prop where
  clock : l.lock.clock = clock
  doc : l.lock.doc = doc
  leader : l.lock.isLeader i = leader
  work : l.work = work
  acquiring : l.lock.acquiring i = acquiring
  timer : l.timer = timer
  running : l.running = true
  inFlight : l.inFlight = []
  stopping : l.stopping = .notCalled

/-- A tick that gets the lease and finds nothing due. -/
def idleTick (i : ι) : List (LifecycleEvent ι) :=
  [.fire, .lock (.write i), .acquired true, .found []]

/-- It leaves the scheduler waiting for its timer. -/
lemma exists_idle_tick (opts : SchedulerOptions) {l : Lifecycle ι} {clock : Time}
    {doc : Option (LockDoc ι)} {leader : Bool} (d : LockDoc ι)
    (hl : l.Looks self clock doc leader true .idle .idle)
    (hwrite : lockWrite opts.ttlMs doc self clock = (.ok d, some d)) (howner : d.owner = self) :
    ∃ l' : Lifecycle ι, Run (LifecycleStep opts self) l (idleTick self) l' ∧
      l'.Looks self clock (some d) true true .idle .idle := by
  obtain ⟨l₁, hfire, h₁⟩ : ∃ l₁, LifecycleStep opts self l .fire l₁ ∧
      l₁.Looks self clock doc leader false .acquiring (.pending clock) :=
    ⟨_, .fire hl.timer hl.running hl.work (.acquire hl.acquiring), hl.clock, hl.doc, hl.leader, rfl,
      (Function.update_self _ _ _).trans (by rw [hl.clock]), rfl, hl.running, hl.inFlight,
      hl.stopping⟩
  obtain ⟨l₂, hlock, h₂⟩ : ∃ l₂, LifecycleStep opts self l₁ (.lock (.write self)) l₂ ∧
      l₂.Looks self clock (some d) leader false .acquiring (.answered clock (.ok d)) := by
    refine ⟨_, .lock (by simp [LockEvent.isCallOf]) (.write h₁.acquiring), h₁.clock, ?_, h₁.leader,
      h₁.work, (Function.update_self _ _ _).trans ?_, h₁.timer, h₁.running, h₁.inFlight,
      h₁.stopping⟩
    · rw [h₁.doc, hwrite]
    · rw [h₁.doc, hwrite]
  have hheld : heldBy self (.ok d) = true := by simp [heldBy, howner]
  obtain ⟨l₃, hacquired, h₃⟩ : ∃ l₃, LifecycleStep opts self l₂ (.acquired true) l₃ ∧
      l₃.Looks self clock (some d) true false (.finding clock) .idle := by
    rw [← hheld]
    refine ⟨_, .acquired h₂.work h₂.acquiring (.acquired h₂.acquiring), ?_⟩
    rw [if_pos hheld]
    exact ⟨h₂.clock, h₂.doc, Function.update_self _ _ _, rfl, Function.update_self _ _ _, h₂.timer,
      h₂.running, h₂.inFlight, h₂.stopping⟩
  obtain ⟨l₄, hfound, h₄⟩ : ∃ l₄, LifecycleStep opts self l₃ (.found []) l₄ ∧
      l₄.Looks self clock (some d) true true .idle .idle := by
    refine ⟨_, .found h₃.work List.nodup_nil (Nat.zero_le _) (by simp), ?_⟩
    have hdone : (Pool.start opts.concurrency []).done = true := by simp [Pool.start, Pool.done]
    rw [Lifecycle.awaitPool, if_pos hdone]
    exact ⟨h₃.clock, h₃.doc, h₃.leader, rfl, h₃.acquiring, by simp [Lifecycle.endTick, h₃.running],
      h₃.running, by simp [Lifecycle.endTick, h₃.inFlight], h₃.stopping⟩
  exact ⟨l₄, .cons hfire (.cons hlock (.cons hacquired (.cons hfound (.nil _)))), h₄⟩

/-- A run of the scheduler while the process goes on. -/
lemma run_scheduler {l l' : Lifecycle ι} {es : List (LifecycleEvent ι)}
    (h : Run (LifecycleStep opts self) l es l') (hgoing : ∀ code, s.phase ≠ .exited code)
    (hstop : .stop ∉ es) (hstart : .start ∉ es) :
    Run (ServerStep opts self) { s with scheduler := l } (es.map .scheduler)
      { s with scheduler := l' } := by
  induction h with
  | nil l => exact .nil _
  | cons hstep _ ih =>
    rw [List.mem_cons, not_or] at hstop hstart
    refine .cons (.scheduler hgoing (Ne.symm hstop.1) (fun he => absurd he.symm hstart.1) hstep) ?_
    exact ih hstop.2 hstart.2

/-- A dashboard connects, and the signal arrives. -/
def signalWithDashboard : List (ServerEvent ℕ) :=
  [.connect, .turn .idle .active, .turn .active .upgraded, .signal,
    .scheduler (.lock (.advance 29000))]

/-- Instance `0` leads. A dashboard is connected when the signal arrives, and remains connected; the
instance renews its lease after twenty-nine seconds. -/
def dashboardRun : List (ServerEvent ℕ) :=
  .scheduler .start :: ((idleTick 0).map ServerEvent.scheduler ++ (signalWithDashboard ++
    ((idleTick 0).map ServerEvent.scheduler ++ [.scheduler (.lock (.advance 30000))])))

/-- The failsafe finds the instance leading, with a lease for another twenty-nine seconds. -/
lemma exists_dashboard_run : ∃ a b : ServerState ℕ,
    Run (ServerStep schedulerOptions 0) (.init 0 none) dashboardRun a ∧
      ServerStep schedulerOptions 0 a .failsafe b ∧ b.phase = .exited 1 ∧
      a.scheduler.Looks 0 30000 (some ⟨0, 59000, 0, 29000⟩) true true .idle .idle := by
  have hstarted : (Lifecycle.start (.init 0 none) schedulerOptions).Looks 0 0 none false true
      .idle .idle := ⟨rfl, rfl, rfl, rfl, rfl, rfl, rfl, rfl, rfl⟩
  obtain ⟨l, hfirst, hl⟩ := exists_idle_tick schedulerOptions ⟨0, 30000, 0, 0⟩ hstarted rfl rfl
  let l' : Lifecycle ℕ := { l with lock := { l.lock with clock := 29000 } }
  have hl' : l'.Looks 0 29000 (some ⟨0, 30000, 0, 0⟩) true true .idle .idle :=
    ⟨rfl, hl.doc, hl.leader, hl.work, hl.acquiring, hl.timer, hl.running, hl.inFlight, hl.stopping⟩
  obtain ⟨m, hsecond, hm⟩ := exists_idle_tick schedulerOptions ⟨0, 59000, 0, 29000⟩ hl' rfl rfl
  let m' : Lifecycle ℕ := { m with lock := { m.lock with clock := 30000 } }
  have hm' : m'.Looks 0 30000 (some ⟨0, 59000, 0, 29000⟩) true true .idle .idle :=
    ⟨rfl, hm.doc, hm.leader, hm.work, hm.acquiring, hm.timer, hm.running, hm.inFlight, hm.stopping⟩
  have hserving : ServerStep schedulerOptions 0 (.init 0 none) (.scheduler .start)
      ⟨Lifecycle.start (.init 0 none) schedulerOptions, [], .serving⟩ :=
    .scheduler (by simp [ServerState.init]) (by simp) (fun _ => rfl) (.start rfl)
  have hsignal : Run (ServerStep schedulerOptions 0) ⟨l, [], .serving⟩ signalWithDashboard
      ⟨l', [.upgraded], .closing l.lock.clock⟩ := by
    refine .cons (.connect rfl) (.cons (.turn (by simp) (by simp) rfl) ?_)
    refine .cons (.turn (by simp) (by simp) rfl) (.cons (.signal rfl) ?_)
    refine .cons (.scheduler (by simp) (by simp) (by simp) (.lock ?_ (.advance ?_))) (.nil _)
    · simp [LockEvent.isCallOf]
    · rw [hl.clock]
      decide
  have hlast : Run (ServerStep schedulerOptions 0) ⟨m, [.upgraded], .closing l.lock.clock⟩
      [.scheduler (.lock (.advance 30000))] ⟨m', [.upgraded], .closing l.lock.clock⟩ := by
    refine .cons (.scheduler (by simp) (by simp) (by simp) (.lock ?_ (.advance ?_))) (.nil _)
    · simp [LockEvent.isCallOf]
    · rw [hm.clock]
      decide
  refine ⟨⟨m', [.upgraded], .closing l.lock.clock⟩, ⟨m', [.upgraded], .exited 1⟩, ?_, ?_, rfl, hm'⟩
  · have htick : Run (ServerStep schedulerOptions 0) _ _ _ :=
      run_scheduler (s := ⟨l, [], .serving⟩) hfirst (by simp) (by simp [idleTick])
        (by simp [idleTick])
    have htick' : Run (ServerStep schedulerOptions 0) _ _ _ :=
      run_scheduler (s := ⟨l, [.upgraded], .closing l.lock.clock⟩) hsecond (by simp)
        (by simp [idleTick]) (by simp [idleTick])
    exact .cons hserving (htick.append (hsignal.append (htick'.append hlast)))
  · refine .failsafe (.inl rfl) ?_
    rw [hl.clock, hm'.clock]
    decide

end WatchTower

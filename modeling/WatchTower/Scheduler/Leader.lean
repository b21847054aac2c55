import WatchTower.Scheduler.Config
import WatchTower.Scheduler.Lock

set_option relaxedAutoImplicit false
set_option autoImplicit false

/-!
# Ticks of several instances

Any number of scheduler instances share the lease lock. A tick of an instance acquires the lease
once, at its beginning; if it holds it, it loads the due monitors and runs one check each through
the pool, however long that takes. There are no crashes and no database faults.

Every check started is recorded with the moment, the lease under which its tick runs, and the
lock document at that moment.

## Main definitions

* `WatchTower.Pool`, `WatchTower.Pool.start`, `WatchTower.Pool.finish` — `runPool`, as the tasks
  waiting and in progress.
* `WatchTower.Cluster`, `WatchTower.ClusterStep` — the instances.
* `WatchTower.OnlyLeaderChecks` — checks are started by the present leader only.

## Main results

* `WatchTower.ClusterInv.step` — what the instances' work and the recorded starts satisfy.
* `WatchTower.onlyLeaderChecks_iff` — only the leader checks, exactly when every check is started
  before the lease acquired at the beginning of its tick has expired.
-/

namespace WatchTower

open Transition Lease

/-! ## The pool -/

/-- A running pool: the tasks not yet started, in order, and those in progress. -/
structure Pool where
  /-- `tasks` from `cursor` on. -/
  waiting : List ℕ
  /-- The tasks some worker is awaiting. -/
  running : List ℕ
  deriving DecidableEq

/-- `runPool` begins: each of its `width` workers starts a task. -/
def Pool.start (limit : ℕ) (tasks : List ℕ) : Pool :=
  let width := max 1 (min limit tasks.length)
  ⟨tasks.drop width, tasks.take width⟩

/-- A task settles, and its worker starts the next one, if any. The second component is what was
started. -/
def Pool.finish (p : Pool) (task : ℕ) : Pool × List ℕ :=
  match p.waiting with
  | [] => (⟨[], p.running.erase task⟩, [])
  | next :: waiting => (⟨waiting, next :: p.running.erase task⟩, [next])

/-- All workers are done. -/
def Pool.done (p : Pool) : Bool := p.running.isEmpty

/-! ## The instances -/

/-- `MAX_BATCH`. -/
def maxBatch : ℕ := 500

/-- Where an instance is in `tick`. The lease of the tick is the time its acquire read. -/
inductive Work
  /-- Between two ticks. -/
  | idle
  /-- Awaiting `lock.acquire()`. -/
  | acquiring
  /-- Awaiting `findDueMonitors`. -/
  | finding (leaseFrom : Time)
  /-- Awaiting `runPool`. -/
  | checking (leaseFrom : Time) (pool : Pool)

/-- The lease under which an instance works. -/
def Work.lease : Work → Option Time
  | idle | acquiring => none
  | finding t | checking t _ => some t

/-- The start of one `runCheck`. -/
structure Start (ι : Type) where
  /-- Who starts it. -/
  inst : ι
  /-- Of which monitor. -/
  monitor : ℕ
  /-- When. -/
  time : Time
  /-- The lease of the tick. -/
  leaseFrom : Time
  /-- The lock document at that moment. -/
  doc : Option (LockDoc ι)
  deriving DecidableEq

/-- The instances, the lock, and every check started so far. -/
structure Cluster (ι : Type) where
  /-- The lock. -/
  lock : LockState ι
  /-- Where each instance is in `tick`. -/
  work : ι → Work
  /-- The checks started, oldest first. -/
  starts : List (Start ι)

/-- No instance has ticked yet. -/
def Cluster.init {ι : Type} (clock : Time) (doc : Option (LockDoc ι)) : Cluster ι where
  lock := .init clock doc
  work _ := .idle
  starts := []

/-- What happens. -/
inductive ClusterEvent (ι : Type)
  /-- Time passes. -/
  | advance (t : Time)
  /-- The database performs the upsert of an acquire. -/
  | write (i : ι)
  /-- The TTL monitor deletes the lock document. -/
  | sweep
  /-- A tick begins. -/
  | tick (i : ι)
  /-- The acquire of the tick returns. -/
  | acquired (i : ι) (held : Bool)
  /-- The due monitors have been loaded; these are not skipped. -/
  | found (i : ι) (due : List ℕ)
  /-- A check ends. -/
  | finish (i : ι) (monitor : ℕ)

variable {ι : Type} [DecidableEq ι]

/-- The record of checks started now by an instance. -/
def Cluster.started (s : Cluster ι) (i : ι) (leaseFrom : Time) (monitors : List ℕ) :
    List (Start ι) :=
  monitors.map fun m => ⟨i, m, s.lock.clock, leaseFrom, s.lock.doc⟩

/-- The instance awaits its pool, or ends its tick. -/
def Work.checkingOrIdle (leaseFrom : Time) (p : Pool) : Work :=
  if p.done then .idle else .checking leaseFrom p

/-- The steps of the instances. -/
inductive ClusterStep (cfg : SchedulerConfig) : Cluster ι → ClusterEvent ι → Cluster ι → Prop
  | advance {s : Cluster ι} {t : Time} {lock : LockState ι} :
      LockStep cfg.lockTtlMs s.lock (.advance t) lock →
      ClusterStep cfg s (.advance t) { s with lock := lock }
  | write {s : Cluster ι} {i : ι} {lock : LockState ι} :
      LockStep cfg.lockTtlMs s.lock (.write i) lock →
      ClusterStep cfg s (.write i) { s with lock := lock }
  | sweep {s : Cluster ι} {lock : LockState ι} :
      LockStep cfg.lockTtlMs s.lock .sweep lock →
      ClusterStep cfg s .sweep { s with lock := lock }
  | tick {s : Cluster ι} {i : ι} {lock : LockState ι} :
      s.work i = .idle → LockStep cfg.lockTtlMs s.lock (.acquire i) lock →
      ClusterStep cfg s (.tick i)
        { s with lock := lock, work := Function.update s.work i .acquiring }
  | acquired {s : Cluster ι} {i : ι} {held : Bool} {now : Time}
      {answer : Except JsError (LockDoc ι)} {lock : LockState ι} :
      s.work i = .acquiring → s.lock.acquiring i = .answered now answer →
      LockStep cfg.lockTtlMs s.lock (.acquired i held) lock →
      ClusterStep cfg s (.acquired i held)
        { s with
          lock := lock
          work := Function.update s.work i (if held then .finding now else .idle) }
  | found {s : Cluster ι} {i : ι} {leaseFrom : Time} {due : List ℕ} :
      s.work i = .finding leaseFrom → due.Nodup → due.length ≤ maxBatch →
      ClusterStep cfg s (.found i due)
        { s with
          work := Function.update s.work i
            (.checkingOrIdle leaseFrom (Pool.start cfg.concurrency due))
          starts := s.starts ++
            s.started i leaseFrom (Pool.start cfg.concurrency due).running }
  | finish {s : Cluster ι} {i : ι} {leaseFrom : Time} {pool : Pool} {monitor : ℕ} :
      s.work i = .checking leaseFrom pool → monitor ∈ pool.running →
      ClusterStep cfg s (.finish i monitor)
        { s with
          work := Function.update s.work i (.checkingOrIdle leaseFrom (pool.finish monitor).1)
          starts := s.starts ++ s.started i leaseFrom (pool.finish monitor).2 }

/-- When the lease ends under which a check was started. -/
def Start.leaseEnd (cfg : SchedulerConfig) (st : Start ι) : Time := st.leaseFrom + cfg.lockTtlMs

/-- **Only the leader checks.** Every check is started when the lock document names that instance
as owner and has not expired; and when an instance starts a check of a monitor of which another
instance started one before, the lease of that one has ended. -/
def OnlyLeaderChecks (cfg : SchedulerConfig) (s : Cluster ι) : Prop :=
  (∀ st ∈ s.starts, ∃ d, st.doc = some d ∧ d.owner = st.inst ∧ st.time < d.expiresAt) ∧
    s.starts.Pairwise fun a b =>
      a.inst ≠ b.inst → a.monitor = b.monitor → a.leaseEnd cfg ≤ b.time

/-- Every check is started before the lease acquired at the beginning of its tick has ended. -/
def StartsWithinLease (cfg : SchedulerConfig) (s : Cluster ι) : Prop :=
  ∀ st ∈ s.starts, st.time < st.leaseEnd cfg

/-! ## The invariant -/

/-- What the instances' work and the recorded starts satisfy: an instance that holds an answer or
works under a lease has taken no later one; every lease under which a check was started is in
force or over; and of every start it is recorded correctly whether its lease was in force. -/
structure ClusterInv (cfg : SchedulerConfig) (s : Cluster ι) : Prop where
  lock : LockInv cfg.lockTtlMs s.lock
  answered : ∀ i now d, s.lock.acquiring i = .answered now (.ok d) →
    LeaseOf cfg.lockTtlMs i now s.lock
  working : ∀ i t, (s.work i).lease = some t →
    LeaseOf cfg.lockTtlMs i t s.lock ∧ s.lock.acquiring i = .idle
  started : ∀ st ∈ s.starts, InForce cfg.lockTtlMs st.inst (st.leaseEnd cfg) s.lock
  recorded : ∀ st ∈ s.starts, st.time < st.leaseEnd cfg ↔
    ∃ d, st.doc = some d ∧ d.owner = st.inst ∧ st.time < d.expiresAt
  ordered : s.starts.Pairwise fun a b =>
    a.inst ≠ b.inst → b.time < b.leaseEnd cfg → a.leaseEnd cfg ≤ b.time

variable {cfg : SchedulerConfig} {s s' : Cluster ι} {e : ClusterEvent ι} {i : ι}

omit [DecidableEq ι] in
/-- It holds before any tick. -/
lemma clusterInv_init (clock : Time) (doc : Option (LockDoc ι)) :
    ClusterInv cfg (.init clock doc) where
  lock := lockInv_init clock doc
  answered := by simp [Cluster.init, LockState.init]
  working := by simp [Cluster.init, Work.lease]
  started := by simp [Cluster.init]
  recorded := by simp [Cluster.init]
  ordered := by simp [Cluster.init]

/-- A step of the lock keeps the invariant, if it deletes nothing and no working instance begins
an acquire. -/
lemma ClusterInv.lockStep (hs : ClusterInv cfg s) {le : LockEvent ι} {lock : LockState ι}
    (h : LockStep cfg.lockTtlMs s.lock le lock) (hdelete : ∀ i, le ≠ .delete i)
    (hacquire : ∀ i t, (s.work i).lease = some t → le ≠ .acquire i) :
    ClusterInv cfg { s with lock := lock } where
  lock := hs.lock.step h
  answered i now d hans := by
    by_cases hw : le = .write i
    · subst hw
      exact leaseOf_of_write hs.lock h hans
    · exact (hs.answered i now d (h.answered_before hw hans)).step hw (hdelete i) h
  working i t ht := by
    obtain ⟨hlease, hidle⟩ := hs.working i t ht
    obtain ⟨hidle', hw⟩ := h.idle_after (hacquire i t ht) hidle
    exact ⟨hlease.step hw (hdelete i) h, hidle'⟩
  started st hst := (hs.started st hst).step (hdelete st.inst) h
  recorded := hs.recorded
  ordered := hs.ordered

/-- An instance may change its work, if the lease it then works under is the last it has taken. -/
lemma ClusterInv.setWork (hs : ClusterInv cfg s) (w : Work)
    (hw : ∀ t, w.lease = some t →
      LeaseOf cfg.lockTtlMs i t s.lock ∧ s.lock.acquiring i = .idle) :
    ClusterInv cfg { s with work := Function.update s.work i w } where
  lock := hs.lock
  answered := hs.answered
  working j t ht := by
    by_cases hij : j = i
    · subst hij
      exact hw t (by simpa using ht)
    · exact hs.working j t (by simpa [hij] using ht)
  started := hs.started
  recorded := hs.recorded
  ordered := hs.ordered

omit [DecidableEq ι] in
/-- An instance that works under a lease may start checks. That it does so within its lease means
that no other lease is in force. -/
lemma ClusterInv.addStarts (hs : ClusterInv cfg s) {t : Time} (ht : (s.work i).lease = some t)
    (monitors : List ℕ) :
    ClusterInv cfg { s with starts := s.starts ++ s.started i t monitors } := by
  obtain ⟨hlease, -⟩ := hs.working i t ht
  have hmem : ∀ st ∈ s.started i t monitors, st.inst = i ∧ st.leaseFrom = t ∧
      st.time = s.lock.clock ∧ st.doc = s.lock.doc := by
    intro st hst
    obtain ⟨m, -, rfl⟩ := List.mem_map.1 hst
    exact ⟨rfl, rfl, rfl, rfl⟩
  -- Within the lease, the register holds it: the lease is in force and not over.
  have hheld : s.lock.clock < t + cfg.lockTtlMs →
      ∃ d, s.lock.doc = some d ∧ d.owner = i ∧ d.expiresAt = t + cfg.lockTtlMs := by
    intro hlt
    rcases hlease.inForce.covered with ⟨u, hcell, -⟩ | hover
    · simp only [LockState.register, Option.map_eq_some_iff, Prod.mk.injEq] at hcell
      obtain ⟨d, hd, howner, -⟩ := hcell
      exact ⟨d, hd, howner, hlease.last d hd howner⟩
    · exact absurd hover (not_le.2 hlt)
  refine ⟨hs.lock, hs.answered, hs.working, ?_, ?_, ?_⟩
  · intro st hst
    rcases List.mem_append.1 hst with hst | hst
    · exact hs.started st hst
    · obtain ⟨hinst, hfrom, -, -⟩ := hmem st hst
      simpa only [Start.leaseEnd, hinst, hfrom] using hlease.inForce
  · intro st hst
    rcases List.mem_append.1 hst with hst | hst
    · exact hs.recorded st hst
    · obtain ⟨hinst, hfrom, htime, hdoc⟩ := hmem st hst
      rw [Start.leaseEnd, hinst, hfrom, htime, hdoc]
      constructor
      · intro hlt
        obtain ⟨d, hd, howner, hexp⟩ := hheld hlt
        exact ⟨d, hd, howner, hexp ▸ hlt⟩
      · rintro ⟨d, hd, howner, hlive⟩
        rwa [← hlease.last d hd howner]
  · rw [List.pairwise_append]
    refine ⟨hs.ordered, ?_, fun a ha b hb hne hlt => ?_⟩
    · refine List.pairwise_of_forall_mem_list fun a ha b hb hne => ?_
      exact absurd ((hmem a ha).1.trans (hmem b hb).1.symm) hne
    · obtain ⟨hinst, hfrom, htime, -⟩ := hmem b hb
      rw [Start.leaseEnd, hfrom, htime] at hlt
      rw [htime]
      obtain ⟨d, hd, howner, -⟩ := hheld hlt
      rcases (hs.started a ha).covered with ⟨u, hcell, -⟩ | hover
      · simp only [LockState.register, hd, Option.map_some, Option.some.injEq,
          Prod.mk.injEq] at hcell
        exact absurd (by rw [hinst, ← howner, hcell.1]) hne
      · exact hover

omit [DecidableEq ι] in
/-- The lease of a pool that has been started or is done. -/
lemma lease_checkingOrIdle {t t' : Time} {p : Pool}
    (h : (Work.checkingOrIdle t p).lease = some t') : t' = t := by
  unfold Work.checkingOrIdle at h
  split_ifs at h
  · cases h
  · exact (Option.some.inj h).symm

/-- **Every step keeps the invariant.** -/
theorem ClusterInv.step (hs : ClusterInv cfg s) (h : ClusterStep cfg s e s') :
    ClusterInv cfg s' := by
  cases h with
  | advance h => exact hs.lockStep h (by simp) (by simp)
  | write h => exact hs.lockStep h (by simp) (by simp)
  | sweep h => exact hs.lockStep h (by simp) (by simp)
  | @tick i lock hidle h =>
    have hne : ∀ j t, (s.work j).lease = some t → LockEvent.acquire i ≠ .acquire j := by
      intro j t ht heq
      obtain rfl : i = j := by simpa using heq
      simp [hidle, Work.lease] at ht
    exact (hs.lockStep h (by simp) hne).setWork .acquiring (by simp [Work.lease])
  | @acquired i held now answer lock hacq hans h =>
    have hstep := h
    cases h with
    | @acquired _ now' answer' hans' =>
      refine (hs.lockStep hstep (by simp) (by simp)).setWork _ fun t ht => ?_
      cases answer' with
      | error err => simp [heldBy, Work.lease] at ht
      | ok d =>
        have hnow : now' = now := by
          rw [hans'] at hans
          exact (Acquiring.answered.inj hans).1
        have ht' : now = t := by
          split_ifs at ht
          · exact Option.some.inj ht
          · cases ht
        subst ht' hnow
        exact ⟨(hs.answered i now' d hans').step (by simp) (by simp) hstep, by simp⟩
  | @found i t due hfind hnodup hlen =>
    have hwork := hs.working i t (by rw [hfind]; rfl)
    refine (hs.addStarts (by rw [hfind]; rfl) _).setWork _ fun t' ht' => ?_
    obtain rfl := lease_checkingOrIdle ht'
    exact hwork
  | @finish i t pool monitor hcheck hmem =>
    have hwork := hs.working i t (by rw [hcheck]; rfl)
    refine (hs.addStarts (by rw [hcheck]; rfl) _).setWork _ fun t' ht' => ?_
    obtain rfl := lease_checkingOrIdle ht'
    exact hwork

/-- **Only the leader checks, exactly when every check is started within the lease of its tick.**
This is for every state reached from the start, by any instances and any interleaving. A tick
acquires the lease once and then runs its whole pool, so a check that is started later than
that finds the lease expired, or taken over.

**Proof sketch.** The recorded starts tell whether the lease was in force (`recorded`), which is
the first half. For the second, a start within its lease sees the register held by its own
instance, so any other lease is over (`ordered`). -/
theorem onlyLeaderChecks_iff (cfg : SchedulerConfig) (clock : Time) (doc : Option (LockDoc ι))
    {es : List (ClusterEvent ι)} {s : Cluster ι}
    (hrun : Run (ClusterStep cfg) (.init clock doc) es s) :
    OnlyLeaderChecks cfg s ↔ StartsWithinLease cfg s := by
  have hinv : ∀ s e s', ClusterInv (ι := ι) cfg s → ClusterStep cfg s e s' → ClusterInv cfg s' :=
    fun _ _ _ => ClusterInv.step
  have hs := hrun.invariant hinv (clusterInv_init clock doc)
  constructor
  · intro ⟨hleader, _⟩ st hst
    exact (hs.recorded st hst).2 (hleader st hst)
  · intro hwithin
    refine ⟨fun st hst => (hs.recorded st hst).1 (hwithin st hst), ?_⟩
    refine hs.ordered.imp_of_mem fun _ hb hab hne _ => hab hne (hwithin _ hb)

/-! ## A check started late -/

/-- With the default configuration, instance `0` finds eleven monitors due and starts ten checks.
One of them ends after `31` seconds, and the eleventh check is started. -/
lemma exists_late_start :
    ∃ (es : List (ClusterEvent ℕ)) (s : Cluster ℕ),
      Run (ClusterStep schedulerConfig) (.init 0 none) es s ∧
      ∃ st ∈ s.starts, st.inst = 0 ∧ st.monitor = 11 ∧ st.time = 31000 ∧
        st.doc = some ⟨0, 30000, 0, 0⟩ := by
  apply Exists.intro
  apply Exists.intro
  apply And.intro
  · apply Run.cons (ClusterStep.tick (i := 0) rfl (.acquire rfl))
    apply Run.cons (ClusterStep.write (i := 0) (.write rfl))
    apply Run.cons (ClusterStep.acquired (i := 0) rfl rfl (.acquired rfl))
    apply Run.cons (ClusterStep.found (i := 0) rfl
      (show [1, 2, 3, 4, 5, 6, 7, 8, 9, 10, 11].Nodup by decide) (by decide))
    apply Run.cons (ClusterStep.advance (t := 31000) (.advance (by decide)))
    apply Run.cons (ClusterStep.finish (i := 0) rfl
      (show 1 ∈ [1, 2, 3, 4, 5, 6, 7, 8, 9, 10] by decide))
    exact .nil _
  · exact ⟨⟨0, 11, 31000, 0, some ⟨0, 30000, 0, 0⟩⟩, by decide, rfl, rfl, rfl, rfl⟩

/-- With the default configuration, a check is started under a lease that has expired. -/
theorem onlyLeaderChecks_fails_for_late_start :
    ∃ (es : List (ClusterEvent ℕ)) (s : Cluster ℕ),
      Run (ClusterStep schedulerConfig) (.init 0 none) es s ∧
        ¬OnlyLeaderChecks schedulerConfig s := by
  obtain ⟨es, s, hrun, st, hst, -, -, htime, hdoc⟩ := exists_late_start
  refine ⟨es, s, hrun, fun h => ?_⟩
  obtain ⟨d, hd, -, hlive⟩ := h.1 st hst
  rw [hdoc, Option.some.injEq] at hd
  rw [← hd, htime] at hlive
  exact absurd hlive (by decide)

/-- The same run, under the condition that tells it apart. -/
theorem onlyLeaderChecks_iff_late_start :
    ∃ s : Cluster ℕ, s.starts ≠ [] ∧
      (OnlyLeaderChecks schedulerConfig s ↔ StartsWithinLease schedulerConfig s) := by
  obtain ⟨es, s, hrun, st, hst, -⟩ := exists_late_start
  exact ⟨s, List.ne_nil_of_mem hst, onlyLeaderChecks_iff schedulerConfig 0 none hrun⟩

end WatchTower

import WatchTower.Scheduler.Batch

set_option relaxedAutoImplicit false
set_option autoImplicit false

/-!
# The lag of the scheduler

A tick that leads reports how late the most overdue monitor was, which is exported as a gauge. It
returns before that when no monitor is due. Then the number of an earlier tick stays.

## Main definitions

* `WatchTower.LagStats`, `WatchTower.LagTick`, `WatchTower.LagStats.tick` — the statistic, and what
  a tick does to it.
* `WatchTower.syncSchedulerGauges` — the gauges.
* `WatchTower.IsLag`, `WatchTower.LagCurrent` — the largest lag of the due monitors, and the law.
* `WatchTower.ReportsLag` — when a tick meets the law.

## Main results

* `WatchTower.isLag_maxLag_iff` — when the number that a tick computes is the largest lag.
* `WatchTower.lagCurrent_iff` — every tick leaves the current lag exactly when none with a stale
  number finds nothing.
-/

namespace WatchTower

open Documents Transition

/-! ## Ticks -/

/-- How late a monitor is: `now - new Date(m.nextCheckAt ?? now)`. -/
def lagOf (now : Time) (m : Monitor) : ℤ := now - m.nextCheckAt.getD now

/-- The `reduce` of `tick`. -/
def maxLag (now : Time) (due : List Monitor) : ℤ :=
  due.foldl (fun max m => if max < lagOf now m then lagOf now m else max) 0

/-- The statistics that tell the lag. -/
structure LagStats where
  /-- `stats.isLeader`. -/
  isLeader : Bool
  /-- `stats.ticks`. -/
  ticks : ℕ
  /-- `stats.maxLagMs`. -/
  maxLagMs : ℤ

/-- The statistics of a new scheduler. -/
def LagStats.initial : LagStats := ⟨false, 0, 0⟩

/-- A call of `tick`. -/
inductive LagTick
  /-- Another tick is in progress. -/
  | reentrant
  /-- `lock.acquire` rejects. -/
  | unreachable
  /-- Another instance leads. -/
  | follower
  /-- This one leads; the monitors at that time, and what the query returns, `none` if it
  rejects. -/
  | leader (now : Time) (monitors : MonitorStore) (found : Option (List Monitor))

/-- The statistics after a tick. -/
def LagStats.tick (stats : LagStats) : LagTick → LagStats
  | .reentrant => stats
  | .unreachable => stats
  | .follower => { stats with isLeader := false }
  | .leader _ _ none => { stats with isLeader := true, ticks := stats.ticks + 1 }
  | .leader _ _ (some []) => { stats with isLeader := true, ticks := stats.ticks + 1 }
  | .leader now _ (some (m :: due)) => ⟨true, stats.ticks + 1, maxLag now (m :: due)⟩

/-- One tick. The query returns what is due. -/
def LagStep (stats : LagStats) (e : LagTick) (stats' : LagStats) : Prop :=
  (∀ now monitors due, e = .leader now monitors (some due) → FindsDue monitors now due) ∧
    stats' = stats.tick e

/-- The gauges that describe the ticks. -/
structure SchedulerGauges where
  /-- `watchtower_scheduler_is_leader`. -/
  schedulerIsLeader : ℚ
  /-- `watchtower_scheduler_lag_seconds`. -/
  schedulerLagSeconds : ℚ

/-- `syncSchedulerGauges`, at a scrape. -/
def syncSchedulerGauges (stats : LagStats) : SchedulerGauges where
  schedulerIsLeader := if stats.isLeader then 1 else 0
  schedulerLagSeconds := stats.maxLagMs / 1000

/-! ## The law -/

/-- The largest lag of the monitors that are due, and `0` if none is. -/
def IsLag (monitors : MonitorStore) (now : Time) (lag : ℤ) : Prop :=
  (lag = 0 ∧ ∀ m ∈ monitors, due m now = false) ∨
    (∃ m ∈ monitors, due m now = true ∧ lagOf now m = lag) ∧
      ∀ m ∈ monitors, due m now = true → lagOf now m ≤ lag

/-- **After a tick that leads**, the statistic and the gauge are the current lag. -/
def LagCurrent (e : LagTick) (stats : LagStats) : Prop :=
  ∀ now monitors found, e = .leader now monitors found → ∃ lag, IsLag monitors now lag ∧
    stats.maxLagMs = lag ∧ (syncSchedulerGauges stats).schedulerLagSeconds = lag / 1000

/-- A monitor that is due and has no `nextCheckAt`. -/
def lacksNextCheck (now : Time) (m : Monitor) : Bool := due m now && m.nextCheckAt.isNone

/-- **When a tick meets the law.** If it finds nothing, because nothing is due or because the query
rejects, the number before it has to be the current lag. If it finds monitors, one of those that are
due must be due already, and not just by a check in the future; and unless none is overdue, those
without a `nextCheckAt`, which come first, must not fill the batch. -/
def ReportsLag (stats : LagStats) : LagTick → Prop
  | .leader now monitors none => IsLag monitors now stats.maxLagMs
  | .leader _ _ (some []) => stats.maxLagMs = 0
  | .leader now monitors (some (_ :: _)) =>
    (∃ m ∈ monitors, due m now = true ∧ 0 ≤ lagOf now m) ∧
      (monitors.docs.countP (lacksNextCheck now) < maxBatch ∨
        ∀ m ∈ monitors, due m now = true → lagOf now m ≤ 0)
  | _ => True

/-! ## What a tick computes -/

variable {now : Time} {monitors : MonitorStore} {batch : List Monitor} {m : Monitor}

/-- The `reduce` from a start value: the largest of the lags and the start value. -/
lemma foldl_lag (now : Time) (l : List Monitor) (start : ℤ) :
    let result := l.foldl (fun max m => if max < lagOf now m then lagOf now m else max) start
    start ≤ result ∧ (∀ m ∈ l, lagOf now m ≤ result) ∧
      (result = start ∨ ∃ m ∈ l, lagOf now m = result) := by
  induction l generalizing start with
  | nil => exact ⟨le_rfl, List.forall_mem_nil _, .inl rfl⟩
  | cons m l ih =>
    obtain ⟨hstart, hall, hattained⟩ := ih (if start < lagOf now m then lagOf now m else start)
    rw [List.foldl_cons]
    split_ifs at hstart hall hattained ⊢ with hlater
    · refine ⟨hlater.le.trans hstart, List.forall_mem_cons.2 ⟨hstart, hall⟩, .inr ?_⟩
      rcases hattained with hsame | ⟨n, hn, hlag⟩
      · exact ⟨m, List.mem_cons_self, hsame.symm⟩
      · exact ⟨n, List.mem_cons_of_mem _ hn, hlag⟩
    · refine ⟨hstart, List.forall_mem_cons.2 ⟨(not_lt.1 hlater).trans hstart, hall⟩, ?_⟩
      rcases hattained with hsame | ⟨n, hn, hlag⟩
      · exact .inl hsame
      · exact .inr ⟨n, List.mem_cons_of_mem _ hn, hlag⟩

/-- What a tick computes is no less than any lag of the batch, nor than `0`, and one of them. -/
lemma maxLag_spec (now : Time) (batch : List Monitor) :
    0 ≤ maxLag now batch ∧ (∀ m ∈ batch, lagOf now m ≤ maxLag now batch) ∧
      (maxLag now batch = 0 ∨ ∃ m ∈ batch, lagOf now m = maxLag now batch) :=
  foldl_lag now batch 0

/-- Of two monitors with a `nextCheckAt`, the more overdue has the larger lag. -/
lemma lagOf_le_of_asOverdue {n : Monitor} (h : asOverdue n m = true)
    (hn : n.nextCheckAt.isSome = true) : lagOf now m ≤ lagOf now n := by
  obtain ⟨t, ht⟩ := Option.isSome_iff_exists.1 hn
  simp only [asOverdue, ht] at h
  obtain ⟨t', ht', hle⟩ := (Option.any_eq_true _ _).1 h
  rw [lagOf, lagOf, ht, ht', Option.getD_some, Option.getD_some]
  have hle : t ≤ t' := of_decide_eq_true hle
  exact sub_le_sub_left hle now

/-- A monitor without a `nextCheckAt` has no lag. -/
lemma lagOf_of_none (h : m.nextCheckAt = none) : lagOf now m = 0 := by
  rw [lagOf, h, Option.getD_none, sub_self]

/-- Those that lack the field, among the due ones. -/
lemma countP_lacksNextCheck (now : Time) (monitors : MonitorStore) :
    (monitors.docs.filter (due · now)).countP (·.nextCheckAt.isNone) =
      monitors.docs.countP (lacksNextCheck now) := by
  rw [List.countP_filter]
  exact List.countP_congr fun n _ => by simp [lacksNextCheck, and_comm]

/-- **A batch that leaves a due monitor out** holds one with a `nextCheckAt`, unless those without
one fill it. -/
lemma exists_isSome_of_notMem (h : FindsDue monitors now batch) (hm : m ∈ monitors)
    (hdue : due m now = true) (hnot : m ∉ batch)
    (hlacks : monitors.docs.countP (lacksNextCheck now) < maxBatch) :
    ∃ n ∈ batch, n.nextCheckAt.isSome = true := by
  by_contra hnone
  push Not at hnone
  have hmem : m ∈ monitors.docs.filter (due · now) := List.mem_filter.2 ⟨hm, hdue⟩
  obtain ⟨rest, hperm, -, hlength, -⟩ := h.exists_mem_rest hmem hnot
  have hall : batch.countP (·.nextCheckAt.isNone) = batch.length := by
    rw [List.countP_eq_length]
    intro n hn
    simpa using hnone n hn
  have hsplit := hperm.countP_eq (·.nextCheckAt.isNone)
  rw [List.countP_append, countP_lacksNextCheck] at hsplit
  omega

/-- If they fill it, the batch has no other: one of them would be left out for it. -/
lemma nextCheckAt_of_lacks (h : FindsDue monitors now batch)
    (hlacks : maxBatch ≤ monitors.docs.countP (lacksNextCheck now)) (hm : m ∈ batch) :
    m.nextCheckAt = none := by
  by_contra hsome
  obtain ⟨t, ht⟩ := Option.ne_none_iff_exists'.1 hsome
  obtain ⟨rest, hperm, hrank, -⟩ := h.exists_rest
  have hfew : batch.countP (·.nextCheckAt.isNone) < batch.length :=
    lt_of_le_of_ne List.countP_le_length fun heq => by
      have := List.countP_eq_length.1 heq m hm
      simp [ht] at this
  have hsplit := hperm.countP_eq (·.nextCheckAt.isNone)
  rw [List.countP_append, countP_lacksNextCheck] at hsplit
  have hpos : 0 < rest.countP (·.nextCheckAt.isNone) := by
    have := h.length_le
    omega
  obtain ⟨n, hn, hnone⟩ := List.countP_pos_iff.1 hpos
  have hoverdue := hrank m hm n hn
  simp [asOverdue, ht, Option.isNone_iff_eq_none.1 hnone] at hoverdue

/-- **When the number that a tick computes is the largest lag.** -/
theorem isLag_maxLag_iff (h : FindsDue monitors now batch) (hne : batch ≠ []) :
    IsLag monitors now (maxLag now batch) ↔
      (∃ m ∈ monitors, due m now = true ∧ 0 ≤ lagOf now m) ∧
        (monitors.docs.countP (lacksNextCheck now) < maxBatch ∨
          ∀ m ∈ monitors, due m now = true → lagOf now m ≤ 0) := by
  obtain ⟨hnonneg, hall, hattained⟩ := maxLag_spec now batch
  have hbatch := h.overdue.1
  constructor
  · rintro (⟨-, hnone⟩ | ⟨⟨m, hm, hdue, hlag⟩, hbound⟩)
    · obtain ⟨m, hm⟩ := List.exists_mem_of_ne_nil batch hne
      have hdue := (hbatch m hm).2
      rw [hnone m (hbatch m hm).1] at hdue
      cases hdue
    · refine ⟨⟨m, hm, hdue, hlag ▸ hnonneg⟩, or_iff_not_imp_left.2 fun hlacks => ?_⟩
      have hzero : maxLag now batch = 0 := by
        rcases hattained with hzero | ⟨n, hn, hlag⟩
        · exact hzero
        · rw [← hlag, lagOf_of_none (nextCheckAt_of_lacks h (not_lt.1 hlacks) hn)]
      rwa [hzero] at hbound
  · rintro ⟨⟨m₀, hm₀, hdue₀, hlag₀⟩, hlacks⟩
    have hbound : ∀ m ∈ monitors, due m now = true → lagOf now m ≤ maxLag now batch := by
      intro m hm hdue
      by_cases hmem : m ∈ batch
      · exact hall m hmem
      · rcases hlacks with hlacks | hnone
        · obtain ⟨n, hn, hsome⟩ := exists_isSome_of_notMem h hm hdue hmem hlacks
          have hrank := h.overdue.2 m hm hdue hmem n hn
          exact (lagOf_le_of_asOverdue hrank hsome).trans (hall n hn)
        · exact (hnone m hm hdue).trans hnonneg
    refine .inr ⟨?_, hbound⟩
    rcases hattained with hzero | ⟨m, hm, hlag⟩
    · exact ⟨m₀, hm₀, hdue₀, (hbound m₀ hm₀ hdue₀).antisymm (hzero ▸ hlag₀)⟩
    · exact ⟨m, (hbatch m hm).1, (hbatch m hm).2, hlag⟩

/-- **A query that returns nothing**: the largest lag is `0`. -/
lemma isLag_nil_iff (h : FindsDue monitors now []) (lag : ℤ) :
    IsLag monitors now lag ↔ lag = 0 := by
  have hnone : ∀ m ∈ monitors, due m now = false := by
    intro m hm
    by_contra hdue
    have hmem : m ∈ monitors.docs.filter (due · now) :=
      List.mem_filter.2 ⟨hm, Bool.of_not_eq_false hdue⟩
    obtain ⟨rest, -, -, hlength, -⟩ := h.exists_mem_rest hmem List.not_mem_nil
    cases hlength
  constructor
  · rintro (⟨hzero, -⟩ | ⟨⟨m, hm, hdue, -⟩, -⟩)
    · exact hzero
    · rw [hnone m hm] at hdue
      cases hdue
  · rintro rfl
    exact .inl ⟨rfl, hnone⟩

/-! ## Sequences of ticks -/

/-- The gauge adds nothing: what the law says of a tick is that the statistic is the lag. -/
lemma lagCurrent_leader_iff {found : Option (List Monitor)} (stats : LagStats) :
    LagCurrent (.leader now monitors found) stats ↔ IsLag monitors now stats.maxLagMs := by
  constructor
  · intro h
    obtain ⟨lag, hlag, hstat, -⟩ := h now monitors found rfl
    rwa [hstat]
  · rintro h now' monitors' found' heq
    cases heq
    exact ⟨_, h, rfl, rfl⟩

/-- **One tick** meets the law exactly when it reports the lag. -/
lemma lagCurrent_step_iff {stats stats' : LagStats} {e : LagTick} (h : LagStep stats e stats') :
    LagCurrent e stats' ↔ ReportsLag stats e := by
  obtain ⟨hfinds, rfl⟩ := h
  cases e with
  | reentrant | unreachable | follower => exact ⟨fun _ => trivial, fun _ _ _ _ heq => by cases heq⟩
  | leader now monitors found =>
    rw [lagCurrent_leader_iff]
    cases found with
    | none => exact Iff.rfl
    | some batch =>
      have hfinds := hfinds now monitors batch rfl
      cases batch with
      | nil => exact isLag_nil_iff hfinds _
      | cons m batch => exact isLag_maxLag_iff hfinds (List.cons_ne_nil m batch)

/-- **The lag signal is current** after every tick of a sequence that leads exactly when each of its
ticks reports the lag. -/
theorem lagCurrent_iff (es : List LagTick) :
    AllSteps LagStep (fun _ e stats' => LagCurrent e stats') .initial es ↔
      AllSteps LagStep (fun stats e _ => ReportsLag stats e) .initial es := by
  have hiff : ∀ stats e stats', True → LagStep stats e stats' →
      (LagCurrent e stats' ↔ ReportsLag stats e) := fun _ _ _ _ h => lagCurrent_step_iff h
  exact allSteps_iff hiff (fun _ _ _ _ _ _ => trivial) trivial es

/-! ## Busy, then idle -/

/-- A monitor that was due at the epoch. -/
def lateMonitor : Monitor := Monitor.fresh 1 (some 7) "http://a.test/" 0

/-- The monitor after a check at the first minute. -/
def punctualMonitor : Monitor :=
  { lateMonitor with lastChecked := some 60000, nextCheckAt := some 120000 }

/-- A store with one monitor. -/
def singleStore (m : Monitor) : MonitorStore := ⟨[m], List.pairwise_singleton _ _⟩

/-- The tick that finds the monitor, a minute late, and the next one, which finds nothing. -/
def busyThenIdle : List LagTick :=
  [.leader 60000 (singleStore lateMonitor) (some [lateMonitor]),
    .leader 65000 (singleStore punctualMonitor) (some [])]

/-- **An idle tick reports the lag of the busy one before it.** -/
theorem stale_lag : ¬AllSteps LagStep (fun _ e stats' => LagCurrent e stats') .initial
    busyThenIdle := by
  intro h
  have hbusy : FindsDue (singleStore lateMonitor) 60000 [lateMonitor] :=
    ⟨[lateMonitor], List.Perm.refl _, List.pairwise_singleton _ _, rfl⟩
  have hidle : FindsDue (singleStore punctualMonitor) 65000 [] :=
    ⟨[], List.Perm.refl _, List.Pairwise.nil, rfl⟩
  obtain ⟨-, hrest⟩ := allSteps_cons.1 h ⟨true, 1, 60000⟩
    ⟨fun _ _ _ heq => by cases heq; exact hbusy, rfl⟩
  obtain ⟨hlag, -⟩ := allSteps_cons.1 hrest ⟨true, 2, 60000⟩
    ⟨fun _ _ _ heq => by cases heq; exact hidle, rfl⟩
  rw [lagCurrent_leader_iff, isLag_nil_iff hidle] at hlag
  cases hlag

end WatchTower

import Mathlib.Data.Finset.Insert
import WatchTower.Documents.Indexed
import WatchTower.Documents.Limited
import WatchTower.Scheduler.Leader
import WatchTower.Scheduler.Tick

set_option relaxedAutoImplicit false
set_option autoImplicit false

/-!
# The batch of a tick

`findDueMonitors` loads the most overdue of the due monitors, up to `MAX_BATCH`; the loop of `tick`
then leaves out those that are in flight or whose breaker is open. A monitor that is left out has
taken a place in the batch all the same, and it stays as overdue as it is.

## Main definitions

* `WatchTower.MonitorStore`, `WatchTower.FindsDue` — the collection, and what the query returns.
* `WatchTower.tickTasks` — the loop of `tick` that collects the checks.
* `WatchTower.NotStarved` — a due monitor that its breaker admits is checked, unless the batch is
  full of such monitors.
* `WatchTower.SkipsFewer` — the batch skips no more monitors than others are left to be checked.
* `WatchTower.AdmitsMostOverdue` — no open breaker is among the most overdue monitors.

## Main results

* `WatchTower.FindsDue.overdue` — what the query returns.
* `WatchTower.mem_tickTasks_iff` — what a tick checks.
* `WatchTower.notStarved_iff` — when no monitor is starved.
* `WatchTower.notStarved_of_admitsMostOverdue` — none is without open breakers among the most
  overdue.
-/

namespace WatchTower

open Documents

/-- The unique index of the monitors. -/
abbrev monitorIndexes : Indexes Monitor ℕ where
  key := Monitor.id
  clash a b := a.id = b.id
  clash_comm a b := by simp [eq_comm]
  clash_of_key h := by simp [h]

/-- The monitors. -/
abbrev MonitorStore := Indexed monitorIndexes

/-- The order of `sort({ nextCheckAt: 1 })`: most overdue first, and a monitor without the field
before all others. -/
def asOverdue (m n : Monitor) : Bool :=
  match m.nextCheckAt with
  | none => true
  | some t => n.nextCheckAt.any (t ≤ ·)

/-- What `findDueMonitors` returns. -/
def FindsDue (s : MonitorStore) (now : Time) (batch : List Monitor) : Prop :=
  Limited asOverdue maxBatch (s.docs.filter (due · now)) batch

/-- The loop of `tick` over the due monitors: it skips those in flight and those whose breaker does
not admit them, and collects the others with their verdicts. -/
def tickTasks (now : Time) (inFlight : Finset ℕ) : List Monitor → List (Monitor × BreakerVerdict)
  | [] => []
  | m :: batch =>
    if m.id ∈ inFlight then tickTasks now inFlight batch
    else
      let breaker := evaluateBreaker m now
      if breaker.allowed then (m, breaker) :: tickTasks now (insert m.id inFlight) batch
      else tickTasks now inFlight batch

/-- The breaker of a monitor admits it. -/
def admitted (now : Time) (m : Monitor) : Bool := (evaluateBreaker m now).allowed

/-- **No starvation.** A due monitor that its breaker admits is checked, unless at least `MAX_BATCH`
other monitors that are due and admitted are at least as overdue. -/
def NotStarved (s : MonitorStore) (now : Time) (batch : List Monitor) : Prop :=
  ∀ m ∈ s, due m now = true → admitted now m = true →
    (∃ breaker, (m, breaker) ∈ tickTasks now ∅ batch) ∨
      maxBatch ≤ (s.docs.filter (due · now)).countP fun n =>
        admitted now n && (asOverdue n m && n ≠ m)

/-- Whenever a due monitor that its breaker admits is not in the batch, the batch skips no more
monitors than others that are due, admitted and at least as overdue are left out as well. -/
def SkipsFewer (s : MonitorStore) (now : Time) (batch : List Monitor) : Prop :=
  ∀ m ∈ s, due m now = true → admitted now m = true → m ∉ batch →
    batch.countP (fun n => !admitted now n) ≤
      (s.docs.filter (due · now)).countP fun n =>
        n ∉ batch && (admitted now n && (asOverdue n m && n ≠ m))

/-! ## What the query returns -/

/-- Being as overdue is an order. -/
lemma asOverdue_trans (a b c : Monitor) (hab : asOverdue a b = true) (hbc : asOverdue b c = true) :
    asOverdue a c = true := by
  unfold asOverdue at hab hbc ⊢
  cases ha : a.nextCheckAt with
  | none => rfl
  | some t =>
    cases hb : b.nextCheckAt with
    | none => simp [ha, hb] at hab
    | some t' =>
      cases hc : c.nextCheckAt with
      | none => simp [hb, hc] at hbc
      | some t'' =>
        simp only [ha, hb, hc, Option.any_some, decide_eq_true_eq] at hab hbc ⊢
        exact hab.trans hbc

/-- Of two monitors one is as overdue as the other. -/
lemma asOverdue_total (a b : Monitor) : (asOverdue a b || asOverdue b a) = true := by
  unfold asOverdue
  cases ha : a.nextCheckAt with
  | none => rfl
  | some t =>
    cases hb : b.nextCheckAt with
    | none => simp
    | some t' => simpa using le_total t t'

/-- The query has an answer. -/
lemma exists_findsDue (s : MonitorStore) (now : Time) : ∃ batch, FindsDue s now batch :=
  ⟨_, limited_mergeSort asOverdue_trans asOverdue_total maxBatch (s.docs.filter (due · now))⟩

/-- **What the query returns**: due monitors, each as overdue as those that it leaves out. -/
theorem FindsDue.overdue {s : MonitorStore} {now : Time} {batch : List Monitor}
    (h : FindsDue s now batch) :
    (∀ m ∈ batch, m ∈ s ∧ due m now = true) ∧
      ∀ m ∈ s, due m now = true → m ∉ batch → ∀ n ∈ batch, asOverdue n m = true := by
  constructor
  · intro m hm
    exact List.mem_filter.1 (h.mem hm)
  · intro m hm hdue hnot n hn
    exact h.rank hn (List.mem_filter.2 ⟨hm, hdue⟩) hnot

/-! ## What a tick checks -/

variable {now : Time} {inFlight : Finset ℕ} {batch : List Monitor} {m : Monitor}
  {breaker : BreakerVerdict}

/-- A check is one of a monitor of the batch, with the verdict of its breaker, which admits it. -/
lemma of_mem_tickTasks (h : (m, breaker) ∈ tickTasks now inFlight batch) :
    m ∈ batch ∧ breaker = evaluateBreaker m now ∧ admitted now m = true ∧ m.id ∉ inFlight := by
  induction batch generalizing inFlight with
  | nil => cases h
  | cons n batch ih =>
    rw [tickTasks] at h
    split_ifs at h with hflight
    · obtain ⟨hmem, hrest⟩ := ih h
      exact ⟨List.mem_cons_of_mem n hmem, hrest⟩
    · dsimp only at h
      split_ifs at h with hallowed
      · rcases List.mem_cons.1 h with heq | h
        · obtain ⟨rfl, rfl⟩ := Prod.mk.inj heq
          exact ⟨List.mem_cons_self, rfl, hallowed, hflight⟩
        · obtain ⟨hmem, hbreaker, hadm, hnot⟩ := ih h
          rw [Finset.mem_insert, not_or] at hnot
          exact ⟨List.mem_cons_of_mem n hmem, hbreaker, hadm, hnot.2⟩
      · obtain ⟨hmem, hrest⟩ := ih h
        exact ⟨List.mem_cons_of_mem n hmem, hrest⟩

/-- **The checks of a tick** are of different monitors. -/
theorem nodup_tickTasks (now : Time) (inFlight : Finset ℕ) (batch : List Monitor) :
    ((tickTasks now inFlight batch).map (·.1.id)).Nodup := by
  induction batch generalizing inFlight with
  | nil => exact List.nodup_nil
  | cons n batch ih =>
    rw [tickTasks]
    split_ifs with hflight
    · exact ih inFlight
    · dsimp only
      split_ifs with hallowed
      · rw [List.map_cons, List.nodup_cons]
        refine ⟨fun hmem => ?_, ih _⟩
        obtain ⟨⟨m, breaker⟩, hm, hid⟩ := List.mem_map.1 hmem
        have hnot := (of_mem_tickTasks hm).2.2.2
        rw [Finset.mem_insert, not_or] at hnot
        exact hnot.1 hid
      · exact ih inFlight

/-- **What a tick checks** that finds no check in flight: the monitors of the batch that their
breakers admit. -/
theorem mem_tickTasks_iff (hids : (batch.map Monitor.id).Nodup)
    (hflight : ∀ n ∈ batch, n.id ∉ inFlight) :
    (m, breaker) ∈ tickTasks now inFlight batch ↔
      m ∈ batch ∧ breaker = evaluateBreaker m now ∧ admitted now m = true := by
  constructor
  · intro h
    obtain ⟨hmem, hbreaker, hadm, -⟩ := of_mem_tickTasks h
    exact ⟨hmem, hbreaker, hadm⟩
  · rintro ⟨hmem, rfl, hadm⟩
    induction batch generalizing inFlight with
    | nil => cases hmem
    | cons n batch ih =>
      rw [List.map_cons, List.nodup_cons] at hids
      rw [tickTasks, if_neg (hflight n List.mem_cons_self)]
      have hrest : ∀ k ∈ batch, k.id ∉ inFlight := fun k hk =>
        hflight k (List.mem_cons_of_mem n hk)
      rcases List.mem_cons.1 hmem with rfl | hmem
      · dsimp only
        rw [if_pos (show (evaluateBreaker m now).allowed = true from hadm)]
        exact List.mem_cons_self
      · dsimp only
        split_ifs
        · refine List.mem_cons_of_mem _ (ih hids.2 (fun k hk => ?_) hmem)
          rw [Finset.mem_insert, not_or]
          exact ⟨fun heq => hids.1 (heq ▸ List.mem_map_of_mem hk), hrest k hk⟩
        · exact ih hids.2 hrest hmem

/-! ## Starvation -/

/-- The due monitors differ in their ids. -/
lemma nodup_due (s : MonitorStore) (now : Time) :
    ((s.docs.filter (due · now)).map Monitor.id).Nodup := by
  rw [List.Nodup, List.pairwise_map]
  refine (s.unique.imp fun h => ?_).filter _
  simpa using h

/-- So do those of a batch. -/
lemma FindsDue.nodup {s : MonitorStore} (h : FindsDue s now batch) :
    (batch.map Monitor.id).Nodup := by
  obtain ⟨sorted, hperm, -, rfl⟩ := h
  have hsorted : (sorted.map Monitor.id).Nodup :=
    (hperm.map Monitor.id).nodup_iff.2 (nodup_due s now)
  rw [List.map_take]
  exact hsorted.sublist (List.take_sublist _ _)

/-- **No monitor is starved** in a tick exactly when the batch skips no more monitors than are left
out for a monitor that it leaves out. -/
theorem notStarved_iff (s : MonitorStore) (now : Time) {batch : List Monitor}
    (h : FindsDue s now batch) : NotStarved s now batch ↔ SkipsFewer s now batch := by
  refine forall_congr' fun m => forall_congr' fun hm => forall_congr' fun hdue =>
    forall_congr' fun hadm => ?_
  have hchecked : (∃ breaker, (m, breaker) ∈ tickTasks now ∅ batch) ↔ m ∈ batch := by
    simp only [mem_tickTasks_iff h.nodup (fun n _ => Finset.notMem_empty n.id), hadm, and_true]
    simp
  have hmem : m ∈ s.docs.filter (due · now) := List.mem_filter.2 ⟨hm, hdue⟩
  have hnodup : (s.docs.filter (due · now)).Nodup := (nodup_due s now).of_map _
  rw [hchecked, or_iff_not_imp_left]
  exact forall_congr' fun hnot => h.le_countP_iff hnodup hmem hnot (admitted now)

/-- **No open breaker among the most overdue**: no more than `MAX_BATCH` monitors are due, or as
many as that are more overdue than each one that its breaker does not admit. -/
def AdmitsMostOverdue (s : MonitorStore) (now : Time) : Prop :=
  (s.docs.filter (due · now)).length ≤ maxBatch ∨
    ∀ n ∈ s, due n now = true → admitted now n = false →
      maxBatch ≤ (s.docs.filter (due · now)).countP fun m => !asOverdue n m

/-- **No monitor is starved** as long as there is no open breaker among the most overdue. -/
theorem notStarved_of_admitsMostOverdue {s : MonitorStore} (hs : AdmitsMostOverdue s now)
    (h : FindsDue s now batch) : NotStarved s now batch := by
  refine (notStarved_iff s now h).2 fun m hm hdue _ hnot => ?_
  rcases hs with hfew | hlate
  · exact absurd (h.mem_of_length_le hfew (List.mem_filter.2 ⟨hm, hdue⟩)) hnot
  · have hadmitted : batch.countP (fun n => !admitted now n) = 0 := by
      rw [List.countP_eq_zero]
      intro n hn hskipped
      rw [Bool.not_eq_true'] at hskipped
      obtain ⟨hmem, hdue'⟩ := h.overdue.1 n hn
      have hrefl : asOverdue n n = true := by simpa using asOverdue_total n n
      exact absurd (hlate n hmem hdue' hskipped) (not_le.2 (h.countP_lt hn hrefl))
    rw [hadmitted]
    exact Nat.zero_le _

/-! ## A batch of open breakers -/

/-- A monitor that is checked every five seconds, whose breaker has opened at time `0`. -/
def coolingMonitor (id : ℕ) : Monitor :=
  { Monitor.fresh id (some 7) "http://a.test/" 0 with
    interval := some 5
    lastChecked := some 0
    nextCheckAt := some 5000
    consecutiveFailures := some 5
    breakerState := some .opened
    breakerOpenedAt := some 0
    breakerRetryAt := some 60000
    breakerConsecutiveOpens := some 1 }

/-- A monitor that has never failed, and is due half a second later. -/
def healthyMonitor : Monitor :=
  { Monitor.fresh maxBatch (some 8) "http://b.test/" 0 with
    lastChecked := some 500
    nextCheckAt := some 5500
    interval := some 5 }

/-- As many monitors with an open breaker as a batch holds. -/
def coolingBatch : List Monitor := (List.range maxBatch).map coolingMonitor

/-- The id of a healthy monitor is not among theirs. -/
lemma clash_cooling_healthy :
    ∀ n ∈ coolingBatch, monitorIndexes.clash n healthyMonitor = false := by
  intro n hn
  obtain ⟨id, hid, rfl⟩ := List.mem_map.1 hn
  rw [List.mem_range] at hid
  simp only [decide_eq_false_iff_not]
  intro heq
  have : id = maxBatch := heq
  omega

/-- These monitors and the healthy one. -/
def coolingStore : MonitorStore where
  docs := coolingBatch ++ [healthyMonitor]
  unique := by
    rw [List.pairwise_append]
    refine ⟨?_, List.pairwise_singleton _ _, ?_⟩
    · rw [coolingBatch, List.pairwise_map]
      refine List.nodup_range.imp fun {i j} hij => ?_
      simp only [decide_eq_false_iff_not]
      exact fun heq => hij heq
    · intro n hn b hb
      rw [List.mem_singleton.1 hb]
      exact clash_cooling_healthy n hn

/-- At the sixth second they are the batch. -/
lemma findsDue_cooling : FindsDue coolingStore 6000 coolingBatch := by
  have hdue : coolingStore.docs.filter (due · 6000) = coolingStore.docs := by
    rw [List.filter_eq_self]
    intro n hn
    rcases List.mem_append.1 hn with hn | hn
    · obtain ⟨id, -, rfl⟩ := List.mem_map.1 hn
      rfl
    · rw [List.mem_singleton.1 hn]
      rfl
  refine ⟨coolingStore.docs, by rw [hdue], ?_, ?_⟩
  · rw [coolingStore, List.pairwise_append]
    refine ⟨?_, List.pairwise_singleton _ _, ?_⟩
    · rw [coolingBatch, List.pairwise_map]
      exact List.nodup_range.imp fun _ => rfl
    · intro n hn b hb
      obtain ⟨id, -, rfl⟩ := List.mem_map.1 hn
      rw [List.mem_singleton.1 hb]
      rfl
  · rw [coolingStore, List.take_left']
    rw [coolingBatch, List.length_map, List.length_range]

/-- **The healthy monitor is starved** by monitors of which none is checked. -/
theorem starved_by_open_breakers :
    FindsDue coolingStore 6000 coolingBatch ∧ ¬NotStarved coolingStore 6000 coolingBatch := by
  refine ⟨findsDue_cooling, fun h => ?_⟩
  have hmem : healthyMonitor ∈ coolingStore :=
    List.mem_append_right _ (List.mem_singleton.2 rfl)
  rcases h healthyMonitor hmem rfl rfl with ⟨breaker, hchecked⟩ | hcount
  · have hclash := clash_cooling_healthy _ (of_mem_tickTasks hchecked).1
    simp at hclash
  · have hnone : (coolingStore.docs.filter (due · 6000)).countP (fun n =>
        admitted 6000 n && (asOverdue n healthyMonitor && n ≠ healthyMonitor)) = 0 := by
      rw [List.countP_eq_zero]
      intro n hn
      rcases List.mem_append.1 (List.mem_filter.1 hn).1 with hn | hn
      · obtain ⟨id, -, rfl⟩ := List.mem_map.1 hn
        simp [show admitted 6000 (coolingMonitor id) = false from rfl]
      · simp [List.mem_singleton.1 hn]
    rw [hnone] at hcount
    simp [maxBatch] at hcount

/-- The batch of open breakers, under the condition that tells it apart. -/
theorem notStarved_iff_cooling :
    NotStarved coolingStore 6000 coolingBatch ↔ SkipsFewer coolingStore 6000 coolingBatch :=
  notStarved_iff coolingStore 6000 findsDue_cooling

end WatchTower

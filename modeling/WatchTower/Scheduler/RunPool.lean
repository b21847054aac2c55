import Mathlib.Data.Int.Notation
import Mathlib.Data.List.Nodup
import Mathlib.Data.List.Perm.Subperm
import WatchTower.Transition.Run

set_option relaxedAutoImplicit false
set_option autoImplicit false

/-!
# The bounded pool

`utils/pool.js`: a number of workers take tasks from a list by a shared cursor. A worker runs
until it awaits the promise of a task, and goes on when that promise has settled; a task that
throws when it is called is recorded at once. The promises settle in any order, and the workers
whose promises have settled go on in any order.

## Main definitions

* `WatchTower.Task`, `WatchTower.TaskResult` — a task and its entry in `results`.
* `WatchTower.PoolState`, `WatchTower.runPool`, `WatchTower.PoolStep` — a call of `runPool`.
* `WatchTower.PoolCorrect` — what is asked of it.

## Main results

* `WatchTower.PoolState.Inv.worker` — what the loop of a worker does up to its next `await`.
* `WatchTower.PoolState.Inv.step` — the invariant of the shared cursor.
* `WatchTower.runPool_correct` — the pool is correct along every run.
-/

namespace WatchTower

open Transition

/-- A task, by what calling it leads to. -/
inductive Task (V E : Type)
  /-- A promise that resolves. -/
  | resolves (value : V)
  /-- A promise that rejects. -/
  | rejects (error : E)
  /-- It throws. -/
  | throws (error : E)

/-- An entry of `results`: `{ ok: true, value }` or `{ ok: false, error }`. -/
inductive TaskResult (V E : Type)
  | ok (value : V)
  | failed (error : E)
  deriving DecidableEq

/-- The entry that records a task. -/
def Task.outcome {V E : Type} : Task V E → TaskResult V E
  | resolves value => .ok value
  | rejects error | throws error => .failed error

/-- The variables of one call of `runPool`. A worker is given by the task it awaits. -/
structure PoolState (V E : Type) where
  /-- `cursor`. -/
  cursor : ℕ
  /-- `results`, with its holes. -/
  results : List (Option (TaskResult V E))
  /-- The tasks that the workers await. -/
  awaiting : List ℕ
  /-- The tasks started so far, oldest first. -/
  started : List ℕ
  /-- Those of them that have ended. -/
  settled : List ℕ
  deriving DecidableEq

/-- `width`. -/
def poolWidth (limit : ℤ) (n : ℕ) : ℕ := (max 1 (min limit n)).toNat

/-- What happens. -/
inductive PoolEvent
  /-- The promise of a task settles. -/
  | settle (i : ℕ)
  /-- The worker that awaits a task goes on. -/
  | resume (i : ℕ)

namespace PoolState

variable {V E : Type}

/-- The loop of a worker on the tasks from the cursor on, up to its next `await` or its return. -/
def worker (s : PoolState V E) : List (Task V E) → PoolState V E
  | [] => s
  | .throws error :: rest =>
    ({ s with
      cursor := s.cursor + 1
      started := s.started ++ [s.cursor]
      settled := s.settled ++ [s.cursor]
      results := s.results.set s.cursor (some (.failed error)) }).worker rest
  | _ :: _ =>
    { s with
      cursor := s.cursor + 1
      started := s.started ++ [s.cursor]
      awaiting := s.awaiting ++ [s.cursor] }

/-- `Array.from({ length: width }, worker)`. -/
def spawn (tasks : List (Task V E)) (s : PoolState V E) : ℕ → PoolState V E
  | 0 => s
  | width + 1 => (s.worker (tasks.drop s.cursor)).spawn tasks width

/-- The worker that awaits a task records its outcome. -/
def record (s : PoolState V E) (i : ℕ) (task : Task V E) : PoolState V E :=
  { s with
    awaiting := s.awaiting.erase i
    results := s.results.set i (some task.outcome) }

/-- The tasks that have been started and have not ended. -/
def unfinished (s : PoolState V E) : List ℕ := s.started.filter (· ∉ s.settled)

/-- All workers have returned, so that `runPool` returns `results`. -/
def Resolved (s : PoolState V E) : Prop := s.awaiting = []

end PoolState

/-- `runPool` is called. -/
def runPool {V E : Type} (tasks : List (Task V E)) (limit : ℤ) : PoolState V E :=
  let s : PoolState V E := ⟨0, .replicate tasks.length none, [], [], []⟩
  s.spawn tasks (poolWidth limit tasks.length)

/-- The steps of a pool. -/
inductive PoolStep {V E : Type} (tasks : List (Task V E)) :
    PoolState V E → PoolEvent → PoolState V E → Prop
  | settle {s : PoolState V E} {i : ℕ} :
      i ∈ s.awaiting → i ∉ s.settled →
      PoolStep tasks s (.settle i) { s with settled := s.settled ++ [i] }
  | resume {s : PoolState V E} {i : ℕ} {task : Task V E} :
      i ∈ s.awaiting → i ∈ s.settled → tasks[i]? = some task →
      PoolStep tasks s (.resume i) ((s.record i task).worker (tasks.drop s.cursor))

/-- What is asked of a pool. Its tasks are started once each and in order, within the bound; it
takes no more steps than twice the number of tasks; unless a task is unfinished, it has resolved
or goes on by itself; and when it has resolved, every task has been started and `results` holds
the outcome of each at its index. -/
structure PoolCorrect {V E : Type} (tasks : List (Task V E)) (limit : ℤ) (es : List PoolEvent)
    (s : PoolState V E) : Prop where
  inOrder : s.started = List.range s.started.length
  started_le : s.started.length ≤ tasks.length
  bounded : (s.unfinished.length : ℤ) ≤ max 1 (min limit tasks.length)
  finite : es.length ≤ 2 * tasks.length
  progress : s.unfinished = [] → s.Resolved ∨ ∃ i s', PoolStep tasks s (.resume i) s'
  results : s.Resolved →
    s.started.length = tasks.length ∧ s.results = tasks.map fun task => some task.outcome

/-! ## The invariant -/

namespace PoolState

variable {V E : Type} {tasks : List (Task V E)} {s s' : PoolState V E} {k i : ℕ}
  {task : Task V E}

/-- What holds of a pool with so many workers. A worker returns only when no task is left, so until
then every worker awaits one. -/
structure Inv (tasks : List (Task V E)) (workers : ℕ) (s : PoolState V E) : Prop where
  cursor_le : s.cursor ≤ tasks.length
  started : s.started = List.range s.cursor
  nodup : s.awaiting.Nodup
  awaiting_lt : ∀ i ∈ s.awaiting, i < s.cursor
  settled_lt : ∀ i ∈ s.settled, i < s.cursor
  accounted : ∀ i < s.cursor, i ∈ s.awaiting ∨ i ∈ s.settled
  length : s.results.length = tasks.length
  recorded : ∀ i < s.cursor, i ∉ s.awaiting →
    s.results[i]? = tasks[i]?.map fun task => some task.outcome
  busy : s.awaiting.length ≤ workers
  returned : s.cursor < tasks.length → s.awaiting.length = workers

/-- What the tasks from the cursor on say about the cursor. -/
lemma getElem?_of_drop {rest : List (Task V E)} (h : tasks.drop k = task :: rest) :
    tasks[k]? = some task ∧ tasks.drop (k + 1) = rest ∧ k < tasks.length := by
  have hk : k < tasks.length := by
    by_contra hge
    rw [List.drop_eq_nil_of_le (by omega)] at h
    cases h
  rw [List.drop_eq_getElem_cons hk] at h
  obtain ⟨rfl, rfl⟩ := List.cons.inj h
  exact ⟨List.getElem?_eq_getElem hk, rfl, hk⟩

/-- A task that throws is recorded before the next one is started. -/
lemma Inv.throws {error : E} (h : Inv tasks k s) (htask : tasks[s.cursor]? = some (.throws error))
    (hlt : s.cursor < tasks.length) :
    Inv tasks k { s with
      cursor := s.cursor + 1
      started := s.started ++ [s.cursor]
      settled := s.settled ++ [s.cursor]
      results := s.results.set s.cursor (some (.failed error)) } where
  cursor_le := hlt
  started := by rw [h.started, List.range_succ]
  nodup := h.nodup
  awaiting_lt i hi := Nat.lt_succ_of_lt (h.awaiting_lt i hi)
  settled_lt i hi := by
    rcases List.mem_append.1 hi with hi | hi
    · exact Nat.lt_succ_of_lt (h.settled_lt i hi)
    · rw [List.mem_singleton.1 hi]
      exact Nat.lt_succ_self _
  accounted i hi := by
    rcases Nat.lt_succ_iff_lt_or_eq.1 hi with hi | rfl
    · exact (h.accounted i hi).imp_right (List.mem_append_left _)
    · exact .inr (List.mem_append_right _ (List.mem_singleton.2 rfl))
  length := by rw [List.length_set, h.length]
  recorded i hi hnot := by
    rcases Nat.lt_succ_iff_lt_or_eq.1 hi with hi | rfl
    · rw [List.getElem?_set_ne (by omega)]
      exact h.recorded i hi hnot
    · rw [List.getElem?_set_self (by rw [h.length]; exact hlt), htask]
      rfl
  busy := h.busy
  returned hlt' := h.returned (by omega)

/-- A worker that awaits a task is one worker more. -/
lemma Inv.awaits (h : Inv tasks k s) (hlt : s.cursor < tasks.length) :
    Inv tasks (k + 1) { s with
      cursor := s.cursor + 1
      started := s.started ++ [s.cursor]
      awaiting := s.awaiting ++ [s.cursor] } where
  cursor_le := hlt
  started := by rw [h.started, List.range_succ]
  nodup := by
    refine h.nodup.append (List.nodup_singleton _) fun i hi hj => ?_
    have := h.awaiting_lt i hi
    rw [List.mem_singleton.1 hj] at this
    omega
  awaiting_lt i hi := by
    rcases List.mem_append.1 hi with hi | hi
    · exact Nat.lt_succ_of_lt (h.awaiting_lt i hi)
    · rw [List.mem_singleton.1 hi]
      exact Nat.lt_succ_self _
  settled_lt i hi := Nat.lt_succ_of_lt (h.settled_lt i hi)
  accounted i hi := by
    rcases Nat.lt_succ_iff_lt_or_eq.1 hi with hi | rfl
    · exact (h.accounted i hi).imp_left (List.mem_append_left _)
    · exact .inl (List.mem_append_right _ (List.mem_singleton.2 rfl))
  length := h.length
  recorded i hi hnot := by
    simp only [List.mem_append, List.mem_singleton, not_or] at hnot
    have hlt : i < s.cursor := Nat.lt_of_le_of_ne (Nat.le_of_lt_succ hi) hnot.2
    exact h.recorded i hlt hnot.1
  busy := by
    have := h.busy
    simp only [List.length_append, List.length_singleton]
    omega
  returned _ := by
    have := h.returned hlt
    simp only [List.length_append, List.length_singleton]
    omega

/-- **The loop of a worker**, up to its next `await` or its return. A worker that returns leaves no
task to be started.

**Proof sketch.** Induction on the tasks from the cursor on: those that throw are recorded one
after the other, until one is awaited or none is left. -/
theorem Inv.worker (h : Inv tasks k s) : Inv tasks (k + 1) (s.worker (tasks.drop s.cursor)) := by
  generalize hrest : tasks.drop s.cursor = rest
  induction rest generalizing s with
  | nil =>
    have hend : tasks.length ≤ s.cursor := List.drop_eq_nil_iff.1 hrest
    refine ⟨h.cursor_le, h.started, h.nodup, h.awaiting_lt, h.settled_lt, h.accounted, h.length,
      h.recorded, ?_, fun hlt => ?_⟩
    · have := h.busy
      simp only [PoolState.worker]
      omega
    · simp only [PoolState.worker] at hlt
      omega
  | cons task rest ih =>
    obtain ⟨htask, hdrop, hlt⟩ := getElem?_of_drop hrest
    cases task with
    | throws error => exact ih (h.throws htask hlt) hdrop
    | resolves value => exact h.awaits hlt
    | rejects error => exact h.awaits hlt

/-- Spawning so many workers. -/
lemma Inv.spawn (h : Inv tasks k s) (width : ℕ) : Inv tasks (k + width) (s.spawn tasks width) := by
  induction width generalizing s k with
  | zero => exact h
  | succ width ih =>
    have := ih h.worker
    rwa [show k + 1 + width = k + (width + 1) by omega] at this

/-- A pool when it is called. -/
lemma inv_runPool (tasks : List (Task V E)) (limit : ℤ) :
    Inv tasks (poolWidth limit tasks.length) (runPool tasks limit) := by
  have hstart : Inv tasks 0 (⟨0, .replicate tasks.length none, [], [], []⟩ : PoolState V E) := by
    refine ⟨by simp, by simp, by simp, by simp, by simp, by simp, by simp, by simp, by simp,
      by simp⟩
  have := hstart.spawn (poolWidth limit tasks.length)
  rwa [Nat.zero_add] at this

/-- A worker that has recorded its task is one worker less. -/
lemma Inv.record (h : Inv tasks (k + 1) s) (hi : i ∈ s.awaiting) (hsettled : i ∈ s.settled)
    (htask : tasks[i]? = some task) : Inv tasks k (s.record i task) where
  cursor_le := h.cursor_le
  started := h.started
  nodup := h.nodup.erase i
  awaiting_lt j hj := h.awaiting_lt j (List.mem_of_mem_erase hj)
  settled_lt := h.settled_lt
  accounted j hj := by
    by_cases hji : j = i
    · exact .inr (hji ▸ hsettled)
    · exact (h.accounted j hj).imp_left (List.mem_erase_of_ne hji).2
  length := by simp only [PoolState.record, List.length_set, h.length]
  recorded j hj hnot := by
    simp only [PoolState.record] at hnot ⊢
    by_cases hji : j = i
    · subst hji
      have hlt : j < s.results.length := by
        have := h.cursor_le
        have := h.awaiting_lt j hi
        rw [h.length]
        omega
      rw [List.getElem?_set_self hlt, htask]
      rfl
    · rw [List.getElem?_set_ne (Ne.symm hji)]
      exact h.recorded j hj fun hmem => hnot ((List.mem_erase_of_ne hji).2 hmem)
  busy := by
    have := h.busy
    simp only [PoolState.record, List.length_erase_of_mem hi]
    omega
  returned hlt := by
    have := h.returned hlt
    simp only [PoolState.record, List.length_erase_of_mem hi]
    omega

/-- **Every step keeps the invariant.** -/
theorem Inv.step {e : PoolEvent} (h : Inv tasks k s) (hstep : PoolStep tasks s e s') :
    Inv tasks k s' := by
  cases hstep with
  | settle hi hnot =>
    refine ⟨h.cursor_le, h.started, h.nodup, h.awaiting_lt, fun j hj => ?_, fun j hj => ?_,
      h.length, h.recorded, h.busy, h.returned⟩
    · rcases List.mem_append.1 hj with hj | hj
      · exact h.settled_lt j hj
      · rw [List.mem_singleton.1 hj]
        exact h.awaiting_lt _ hi
    · exact (h.accounted j hj).imp_right (List.mem_append_left _)
  | resume hi hsettled htask =>
    have hpos : 0 < k := by
      have := List.length_pos_of_mem hi
      have := h.busy
      omega
    obtain ⟨k, rfl⟩ : ∃ k', k = k' + 1 := ⟨k - 1, by omega⟩
    exact (h.record hi hsettled htask).worker

/-! ## Progress -/

/-- How many steps a pool can still take: two for each task to be started, one for each that a
worker awaits, and one for each unfinished one. -/
def remaining (tasks : List (Task V E)) (s : PoolState V E) : ℕ :=
  2 * (tasks.length - s.cursor) + s.awaiting.length + s.unfinished.length

/-- Starting tasks takes none of these steps away, and adds none. -/
lemma Inv.remaining_worker_le (h : Inv tasks k s) :
    (s.worker (tasks.drop s.cursor)).remaining tasks ≤ s.remaining tasks := by
  generalize hrest : tasks.drop s.cursor = rest
  induction rest generalizing s with
  | nil => exact Nat.le_refl _
  | cons task rest ih =>
    obtain ⟨htask, hdrop, hlt⟩ := getElem?_of_drop hrest
    have hnew : s.cursor ∉ s.settled := fun hmem => Nat.lt_irrefl _ (h.settled_lt _ hmem)
    have hawait : remaining tasks { s with
        cursor := s.cursor + 1
        started := s.started ++ [s.cursor]
        awaiting := s.awaiting ++ [s.cursor] } ≤ s.remaining tasks := by
      simp only [remaining, unfinished, List.filter_append, List.length_append,
        List.length_singleton]
      have := List.length_filter_le (· ∉ s.settled) [s.cursor]
      simp only [List.length_singleton] at this
      omega
    cases task with
    | resolves value => exact hawait
    | rejects error => exact hawait
    | throws error =>
      refine Nat.le_trans (ih (h.throws htask hlt) hdrop) ?_
      have hsame : (s.started ++ [s.cursor]).filter (· ∉ s.settled ++ [s.cursor]) =
          s.started.filter (· ∉ s.settled) := by
        have hstarted : ∀ i ∈ s.started, i ≠ s.cursor := by
          intro i hi
          rw [h.started, List.mem_range] at hi
          omega
        rw [List.filter_append]
        simp only [List.mem_append, List.mem_singleton, not_or, List.filter_cons, not_true,
          and_false, decide_false, List.filter_nil, List.append_nil, Bool.false_eq_true, if_false]
        refine List.filter_congr fun i hi => ?_
        simp [hstarted i hi]
      simp only [remaining, unfinished, hsame]
      omega

/-- A pool has at most two steps for each task. -/
lemma remaining_runPool_le (tasks : List (Task V E)) (limit : ℤ) :
    (runPool tasks limit).remaining tasks ≤ 2 * tasks.length := by
  have hspawn : ∀ (width k : ℕ) (s : PoolState V E), Inv tasks k s →
      (s.spawn tasks width).remaining tasks ≤ s.remaining tasks := by
    intro width
    induction width with
    | zero => exact fun _ s _ => Nat.le_refl _
    | succ width ih =>
      intro k s hs
      exact Nat.le_trans (ih (k + 1) _ hs.worker) hs.remaining_worker_le
  refine Nat.le_trans (hspawn _ 0 _ ⟨by simp, by simp, by simp, by simp, by simp, by simp, by simp,
    by simp, by simp, by simp⟩) ?_
  simp [remaining, unfinished]

/-- The unfinished tasks are among those that the workers await. -/
lemma Inv.unfinished_subset (h : Inv tasks k s) : ∀ i ∈ s.unfinished, i ∈ s.awaiting := by
  intro i hi
  simp only [unfinished, h.started, List.mem_filter, List.mem_range, decide_eq_true_eq] at hi
  exact (h.accounted i hi.1).resolve_right hi.2

/-- A task that a worker awaits and that has not ended is unfinished. -/
lemma Inv.mem_unfinished (h : Inv tasks k s) (hi : i ∈ s.awaiting) (hnot : i ∉ s.settled) :
    i ∈ s.unfinished := by
  simp only [unfinished, h.started, List.mem_filter, List.mem_range, decide_eq_true_eq]
  exact ⟨h.awaiting_lt i hi, hnot⟩

/-- The unfinished tasks are distinct. -/
lemma Inv.nodup_unfinished (h : Inv tasks k s) : s.unfinished.Nodup := by
  rw [unfinished, h.started]
  exact List.nodup_range.filter _

/-- There are no more of them than workers. -/
lemma Inv.length_unfinished_le (h : Inv tasks k s) : s.unfinished.length ≤ k :=
  Nat.le_trans (h.nodup_unfinished.subperm h.unfinished_subset).length_le h.busy

/-- A task that has ended is no longer unfinished. -/
lemma unfinished_settle (s : PoolState V E) (i : ℕ) :
    ({ s with settled := s.settled ++ [i] } : PoolState V E).unfinished =
      s.unfinished.filter (· ≠ i) := by
  rw [unfinished, unfinished, List.filter_filter]
  refine List.filter_congr fun j _ => ?_
  simp [and_comm]

/-- When all workers have returned, every task has been started. -/
lemma Inv.cursor_eq_of_resolved {limit : ℤ} (h : Inv tasks (poolWidth limit tasks.length) s)
    (hresolved : s.Resolved) : s.cursor = tasks.length := by
  have hwidth : 0 < poolWidth limit tasks.length := by
    unfold poolWidth
    omega
  have hle := h.cursor_le
  have hreturned := h.returned
  rw [Resolved] at hresolved
  rw [hresolved, List.length_nil] at hreturned
  omega

/-- Every step is one of those remaining. -/
lemma Inv.remaining_lt {e : PoolEvent} (h : Inv tasks k s) (hstep : PoolStep tasks s e s') :
    s'.remaining tasks < s.remaining tasks := by
  cases hstep with
  | @settle i hi hnot =>
    have hless : (s.unfinished.filter (· ≠ i)).length < s.unfinished.length := by
      rw [List.length_filter_lt_length_iff_exists]
      exact ⟨i, h.mem_unfinished hi hnot, by simp⟩
    rw [remaining, remaining, unfinished_settle]
    dsimp only
    omega
  | @resume i task hi hsettled htask =>
    obtain ⟨k, rfl⟩ : ∃ k', k = k' + 1 := ⟨k - 1, by
      have := List.length_pos_of_mem hi
      have := h.busy
      omega⟩
    refine Nat.lt_of_le_of_lt (h.record hi hsettled htask).remaining_worker_le ?_
    have hpos := List.length_pos_of_mem hi
    have hlength : (s.record i task).awaiting.length = s.awaiting.length - 1 :=
      List.length_erase_of_mem hi
    have hsame : (s.record i task).unfinished = s.unfinished := rfl
    have hcursor : (s.record i task).cursor = s.cursor := rfl
    rw [remaining, remaining, hlength, hsame, hcursor]
    omega

end PoolState

open PoolState

/-! ## Correctness -/

section Correctness

variable {V E : Type} {tasks : List (Task V E)} {limit : ℤ} {s : PoolState V E}

/-- **A pool is correct in every state.** -/
theorem PoolState.Inv.correct (h : Inv tasks (poolWidth limit tasks.length) s)
    {es : List PoolEvent} (hes : es.length ≤ 2 * tasks.length) :
    PoolCorrect tasks limit es s where
  inOrder := by rw [h.started, List.length_range]
  started_le := by
    rw [h.started, List.length_range]
    exact h.cursor_le
  bounded := by
    have hle := h.length_unfinished_le
    unfold poolWidth at hle
    omega
  finite := hes
  progress hnone := by
    rcases hawaiting : s.awaiting with _ | ⟨i, rest⟩
    · exact .inl hawaiting
    · have hi : i ∈ s.awaiting := by
        rw [hawaiting]
        exact List.mem_cons_self
      have hlt := h.awaiting_lt i hi
      have hsettled : i ∈ s.settled := by
        by_contra hnot
        have := h.mem_unfinished hi hnot
        rw [hnone] at this
        cases this
      have hcursor := h.cursor_le
      exact .inr ⟨i, _, .resume hi hsettled (List.getElem?_eq_getElem (by omega))⟩
  results hresolved := by
    have hend := h.cursor_eq_of_resolved hresolved
    rw [Resolved] at hresolved
    refine ⟨by rw [h.started, List.length_range, hend], ?_⟩
    refine List.ext_getElem? fun i => ?_
    rw [List.getElem?_map]
    by_cases hi : i < tasks.length
    · exact h.recorded i (by omega) (by rw [hresolved]; exact List.not_mem_nil)
    · rw [List.getElem?_eq_none (by rw [h.length]; omega), List.getElem?_eq_none (by omega)]
      rfl

/-- **The bounded pool is correct**, for every list of tasks, every limit and every order in which
promises settle and workers go on.

**Proof sketch.** Workers and cursor keep the invariant (`PoolState.Inv.step`), and every step is
one of the `PoolState.remaining` ones, of which there are at most two for each task. -/
theorem runPool_correct (tasks : List (Task V E)) (limit : ℤ) {es : List PoolEvent}
    (hrun : Run (PoolStep tasks) (runPool tasks limit) es s) : PoolCorrect tasks limit es s := by
  have hinv : ∀ s e s', Inv tasks (poolWidth limit tasks.length) s → PoolStep tasks s e s' →
      Inv tasks (poolWidth limit tasks.length) s' := fun _ _ _ => Inv.step
  have hdecr : ∀ s e s', Inv tasks (poolWidth limit tasks.length) s → PoolStep tasks s e s' →
      s'.remaining tasks < s.remaining tasks := fun _ _ _ => Inv.remaining_lt
  have hlength := hrun.length_add_le hinv hdecr (inv_runPool tasks limit)
  have hstart := remaining_runPool_le tasks limit
  refine (hrun.invariant hinv (inv_runPool tasks limit)).correct ?_
  omega

/-- Two workers, three tasks of each kind, of which the last one ends first. -/
theorem runPool_correct_mixed :
    ∃ s : PoolState ℕ ℕ, s.Resolved ∧
      PoolCorrect [.resolves 10, .throws 11, .rejects 12] 2
        [.settle 2, .resume 2, .settle 0, .resume 0] s := by
  have hrun : ∃ s : PoolState ℕ ℕ, Run (PoolStep [.resolves 10, .throws 11, .rejects 12])
      (runPool [.resolves 10, .throws 11, .rejects 12] 2)
      [.settle 2, .resume 2, .settle 0, .resume 0] s ∧ s.Resolved := by
    apply Exists.intro
    apply And.intro
    · apply Run.cons (PoolStep.settle (by decide) (by decide))
      apply Run.cons (PoolStep.resume (by decide) (by decide) rfl)
      apply Run.cons (PoolStep.settle (by decide) (by decide))
      apply Run.cons (PoolStep.resume (by decide) (by decide) rfl)
      exact .nil _
    · rfl
  obtain ⟨s, hrun, hresolved⟩ := hrun
  exact ⟨s, hresolved, runPool_correct _ _ hrun⟩

end Correctness

end WatchTower

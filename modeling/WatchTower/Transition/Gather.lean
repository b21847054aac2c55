import Mathlib.Tactic.Common

set_option relaxedAutoImplicit false
set_option autoImplicit false

/-!
# The results of concurrent tasks

A group of tasks that run concurrently and end in any order. Each has a slot for its result, at the
index of the task; once all slots are filled, the group has ended and its results are in the order
of the tasks, whatever the order they ended in.

## Main definitions

* `Transition.Slots` — the slots of a group, with `Slots.empty`, `Slots.fill` and `Slots.values?`.
* `Transition.Slots.Follows` — what is in the slots so far is as in a list of results.

## Main results

* `Transition.Slots.Follows.values?` — a group that has ended has these results.
* `Transition.Slots.values?_eq_none_iff` — a group has not ended as long as a task is running.
* `Transition.Slots.running_fill` — each result leaves one task less.
-/

namespace Transition

/-- The results of a group of tasks, at their indices; nothing while a task is running. -/
abbrev Slots (α : Type*) := List (Option α)

namespace Slots

variable {α : Type*}

/-- The slots of `n` tasks that have just been started. -/
def empty (n : ℕ) : Slots α := List.replicate n none

/-- A task has ended. -/
def fill (slots : Slots α) (i : ℕ) (a : α) : Slots α := slots.set i (some a)

/-- A task has not ended. -/
def Running (slots : Slots α) (i : ℕ) : Prop := slots[i]? = some none

/-- The results, once all tasks have ended. -/
def values? : Slots α → Option (List α)
  | [] => some []
  | none :: _ => none
  | some a :: slots => (values? slots).map (a :: ·)

/-- How many tasks are running. -/
def running (slots : Slots α) : ℕ := slots.countP (·.isNone)

/-- The slots hold, at their indices, results of this list. -/
def Follows (l : List α) (slots : Slots α) : Prop :=
  slots.length = l.length ∧ ∀ (i : ℕ) (a : α), slots[i]? = some (some a) → l[i]? = some a

variable {slots : Slots α} {l : List α} {i : ℕ} {a : α}

/-- All tasks have ended when all slots are filled. -/
lemma values?_eq_some_iff : slots.values? = some l ↔ slots = l.map some := by
  induction slots generalizing l with
  | nil => cases l <;> simp [values?]
  | cons o slots ih =>
    cases o with
    | none => cases l <;> simp [values?]
    | some b => cases l <;> simp [values?, ih, and_comm]

/-- Some task is running when not all have ended. -/
lemma values?_eq_none_iff : slots.values? = none ↔ ∃ i, slots.Running i := by
  induction slots with
  | nil => simp [values?, Running]
  | cons o slots ih =>
    cases o with
    | none => exact iff_of_true rfl ⟨0, rfl⟩
    | some b =>
      rw [values?, Option.map_eq_none_iff, ih]
      constructor
      · rintro ⟨i, hi⟩
        exact ⟨i + 1, hi⟩
      · rintro ⟨i, hi⟩
        cases i with
        | zero => simp [Running] at hi
        | succ i => exact ⟨i, hi⟩

/-- Once all tasks have ended, none is running. -/
lemma not_running_of_isSome (h : slots.values?.isSome = true) (i : ℕ) : ¬slots.Running i := by
  intro hi
  rw [values?_eq_none_iff.2 ⟨i, hi⟩] at h
  cases h

/-- No more tasks are running than there are. -/
lemma running_le_length (slots : Slots α) : slots.running ≤ slots.length := List.countP_le_length

/-- Tasks that have just been started have no results. -/
lemma follows_empty (l : List α) : Follows l (empty l.length) := by
  refine ⟨by simp [empty], fun i a h => ?_⟩
  obtain ⟨-, h⟩ := List.mem_replicate.1 (List.mem_of_getElem? h)
  cases h

/-- A result of the list is added at its index. -/
lemma Follows.fill (hs : Follows l slots) (ha : l[i]? = some a) : Follows l (slots.fill i a) := by
  refine ⟨by rw [Slots.fill, List.length_set, hs.1], fun j b h => ?_⟩
  rw [Slots.fill, List.getElem?_set] at h
  split_ifs at h with hij hlt
  · obtain rfl := Option.some.inj (Option.some.inj h)
    exact hij ▸ ha
  · exact hs.2 j b h

/-- **When all tasks have ended**, the results are those of the list, in its order. -/
lemma Follows.values? (hs : Follows l slots) {l' : List α} (h : slots.values? = some l') :
    l' = l := by
  rw [values?_eq_some_iff] at h
  refine List.ext_getElem? fun i => ?_
  rcases Nat.lt_or_ge i l'.length with hi | hi
  · rw [List.getElem?_eq_getElem hi]
    exact (hs.2 i l'[i] (by rw [h, List.getElem?_map, List.getElem?_eq_getElem hi]; rfl)).symm
  · have hlen : l'.length = l.length := by rw [← hs.1, h, List.length_map]
    rw [List.getElem?_eq_none hi, List.getElem?_eq_none (hlen ▸ hi)]

/-- A task that is running has a result in the list. -/
lemma Follows.exists_of_running (hs : Follows l slots) (h : slots.Running i) :
    ∃ a, l[i]? = some a := by
  have hlt : i < l.length := hs.1 ▸ (List.getElem?_eq_some_iff.1 h).1
  exact ⟨l[i], List.getElem?_eq_getElem hlt⟩

/-- **Each result leaves one task less.** -/
lemma running_fill (h : slots.Running i) : (slots.fill i a).running + 1 = slots.running := by
  induction slots generalizing i with
  | nil => simp [Running] at h
  | cons o slots ih =>
    cases i with
    | zero =>
      obtain rfl : o = none := by simpa [Running] using h
      simp [Slots.fill, running]
    | succ i =>
      have hi := ih (i := i) (by simpa [Running] using h)
      simp only [Slots.fill, running, List.set_cons_succ, List.countP_cons] at hi ⊢
      omega

end Slots

end Transition

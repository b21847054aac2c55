import Mathlib.Data.List.Chain
import Mathlib.Tactic.Common

set_option relaxedAutoImplicit false
set_option autoImplicit false

/-!
# The hysteresis machine

A two-mode machine over a stream of observations, some of them *bad*. In the low mode it raises
at the first observation at which the run of bad observations ending there has length `N` or
more. In the high mode it clears at the first observation at which the run of good ones ending
there has length `M` or more. The two thresholds come with each observation, so they may change
from one to the next.

The machine remembers the whole history of observations and reads the two run lengths off it. An
implementation keeps two counters instead; `trailing_cons_of_pos` and `trailing_cons_of_neg` are
the equations such counters satisfy.

## Main definitions

* `Hysteresis.trailing` — the length of the run of observations of one kind that ends a history.
* `Hysteresis.Sample` — an observation with the two thresholds it is judged by.
* `Hysteresis.State`, `Hysteresis.step`, `Hysteresis.signals` — the machine.

## Main results

* `Hysteresis.isChain_edges`, `Hysteresis.head_edges` — raises and clears strictly alternate,
  and the first of them leaves the mode the machine started in.
-/

namespace Hysteresis

variable {α : Type*}

/-- The length of the run of observations satisfying `p` at the end of a history, the newest
observation first. -/
def trailing (p : α → Bool) (history : List α) : ℕ := (history.takeWhile p).length

@[simp] lemma trailing_nil (p : α → Bool) : trailing p [] = 0 := rfl

/-- One more observation of the kind makes the run one longer. -/
lemma trailing_cons_of_pos {p : α → Bool} {a : α} (h : p a = true) (history : List α) :
    trailing p (a :: history) = trailing p history + 1 := by
  simp [trailing, h]

/-- An observation of the other kind ends the run. -/
lemma trailing_cons_of_neg {p : α → Bool} {a : α} (h : p a = false) (history : List α) :
    trailing p (a :: history) = 0 := by
  simp [trailing, h]

/-- What the machine does at an observation. -/
inductive Signal
  | raise
  | clear
  | stay
  deriving DecidableEq

/-- One observation, with the thresholds in force when it is made. -/
structure Sample (α : Type*) where
  /-- The observation. -/
  obs : α
  /-- The run of bad observations at which the low machine raises. -/
  raiseAt : ℕ
  /-- The run of good observations at which the high machine clears. -/
  clearAt : ℕ

/-- The mode of the machine and everything it has observed, the newest observation first. -/
structure State (α : Type*) where
  /-- Whether the machine has raised and not cleared since. -/
  high : Bool
  /-- The observations so far, newest first. -/
  history : List α

/-- The machine before any observation. -/
def init : State α := ⟨false, []⟩

variable (bad : α → Bool)

/-- What the machine does at a sample. -/
def signal (s : State α) (x : Sample α) : Signal :=
  if s.high = false ∧ x.raiseAt ≤ trailing bad (x.obs :: s.history) then .raise
  else if s.high = true ∧ x.clearAt ≤ trailing (fun a => !bad a) (x.obs :: s.history) then .clear
  else .stay

/-- The mode after a signal. -/
def Signal.mode : Signal → Bool → Bool
  | .raise, _ => true
  | .clear, _ => false
  | .stay, b => b

/-- One sample: the machine signals, changes mode accordingly and remembers the observation. -/
def step (s : State α) (x : Sample α) : State α :=
  ⟨(signal bad s x).mode s.high, x.obs :: s.history⟩

/-- The signals of the machine over a list of samples. -/
def signals : State α → List (Sample α) → List Signal
  | _, [] => []
  | s, x :: xs => signal bad s x :: signals (step bad s x) xs

/-- The signals that change the mode. -/
def edges (l : List Signal) : List Signal := l.filter (· ≠ .stay)

/-- The signal that leaves a mode. -/
def exitOf : Bool → Signal
  | false => .raise
  | true => .clear

/-- A signal is the one that leaves the current mode, or none. -/
lemma signal_eq_exitOf_or_stay (s : State α) (x : Sample α) :
    signal bad s x = exitOf s.high ∨ signal bad s x = .stay := by
  unfold signal
  split_ifs with h₁ h₂
  · exact .inl (by rw [h₁.1]; rfl)
  · exact .inl (by rw [h₂.1]; rfl)
  · exact .inr rfl

/-- Leaving a mode enters the other one. -/
lemma mode_exitOf (b : Bool) : (exitOf b).mode b = !b := by cases b <;> rfl

/-- Leaving a mode is a change of mode. -/
lemma exitOf_ne_stay (b : Bool) : exitOf b ≠ .stay := by cases b <;> simp [exitOf]

/-- The two exits are different signals. -/
lemma exitOf_ne_exitOf_not (b : Bool) : exitOf b ≠ exitOf !b := by cases b <;> simp [exitOf]

/-- **The first change of mode leaves the mode the machine started in.** -/
theorem head_edges (s : State α) (xs : List (Sample α)) :
    ∀ e ∈ (edges (signals bad s xs)).head?, e = exitOf s.high := by
  induction xs generalizing s with
  | nil => simp [signals, edges]
  | cons x xs ih =>
    intro e he
    simp only [signals, edges] at he ih
    rcases signal_eq_exitOf_or_stay bad s x with h | h
    · rw [h, List.filter_cons_of_pos (by simpa using exitOf_ne_stay s.high)] at he
      simpa using he.symm
    · rw [h, List.filter_cons_of_neg (by simp)] at he
      have := ih (step bad s x) e he
      simpa [step, h, Signal.mode] using this

/-- **Raises and clears strictly alternate.**

**Proof sketch.** Induction on the samples. A sample without a signal adds nothing. A sample
that leaves the mode `b` is followed by a machine in mode `!b`, whose first change of mode is
the exit of `!b` (`head_edges`), a different signal. -/
theorem isChain_edges (s : State α) (xs : List (Sample α)) :
    (edges (signals bad s xs)).IsChain (· ≠ ·) := by
  induction xs generalizing s with
  | nil => exact .nil
  | cons x xs ih =>
    simp only [signals, edges] at ih ⊢
    rcases signal_eq_exitOf_or_stay bad s x with h | h
    · rw [h, List.filter_cons_of_pos (by simpa using exitOf_ne_stay s.high), List.isChain_cons]
      refine ⟨fun e he => ?_, ih _⟩
      have hm : (step bad s x).high = !s.high := by simp [step, h, mode_exitOf]
      rw [head_edges bad (step bad s x) xs e he, hm]
      exact exitOf_ne_exitOf_not s.high
    · rw [h, List.filter_cons_of_neg (by simp)]
      exact ih _

end Hysteresis

import Mathlib.Order.RelClasses
import Mathlib.Tactic.Common

set_option relaxedAutoImplicit false
set_option autoImplicit false

/-!
# Labelled runs

Finite runs of a labelled transition relation `r : σ → ε → σ → Prop`, with the labels of the
steps taken, oldest first. Two kinds of statement are made about runs: an invariant of the
states reached (`Run.invariant`), and a property of every step taken (`AllSteps`). The second
kind is what a law about "each check", "each request" or "each start" is. Where the law speaks of
what happened before the step, it is given the labels so far (`AllStepsAfter`).

## Main definitions

* `Transition.Run` — runs of a labelled relation.
* `Transition.AllSteps` — every step a run can take along given labels has a property.
* `Transition.AllStepsAfter` — the same for a property of the step and the labels before it.

## Main results

* `Transition.Run.induction_from` — induction on a run, a step at its end at a time.
* `Transition.Run.invariant` — a property kept by every step is kept by every run.
* `Transition.Run.length_add_le` — a number that every step decreases bounds the length of a run.
* `Transition.exists_run_of_progress` — where some step decreases a variant, a run gets to the end.
* `Transition.allSteps_of_invariant` — a step property that follows from an invariant.
* `Transition.allSteps_iff` — if a step has property `P` exactly when it meets the condition
  `C`, in states where `Inv` holds, and `C`-steps keep `Inv`, then a run has `P` at every step
  exactly when it meets `C` at every step. `Transition.AllSteps.imp` is its one direction, and
  `Transition.allStepsAfter_iff` the rule for properties of the history.
-/

namespace Transition

variable {σ ε : Type*} {r : σ → ε → σ → Prop}

/-- `Run r s es t`: the relation `r` leads from `s` to `t` along the labels `es`. -/
inductive Run (r : σ → ε → σ → Prop) : σ → List ε → σ → Prop
  | nil (s : σ) : Run r s [] s
  | cons {s t u : σ} {e : ε} {es : List ε} : r s e t → Run r t es u → Run r s (e :: es) u

/-- A run along no labels stays where it is. -/
@[simp] lemma run_nil_iff {s t : σ} : Run r s [] t ↔ s = t :=
  ⟨fun h => by cases h; rfl, fun h => h ▸ .nil s⟩

/-- A nonempty run is a step followed by a run. -/
lemma run_cons_iff {s u : σ} {e : ε} {es : List ε} :
    Run r s (e :: es) u ↔ ∃ t, r s e t ∧ Run r t es u :=
  ⟨fun h => by cases h with | cons h₁ h₂ => exact ⟨_, h₁, h₂⟩, fun ⟨_, h₁, h₂⟩ => .cons h₁ h₂⟩

/-- A run of one label is a step. -/
@[simp] lemma run_singleton_iff {s u : σ} {e : ε} : Run r s [e] u ↔ r s e u := by
  simp [run_cons_iff]

/-- A run along `es ++ fs` is a run along `es` followed by one along `fs`. -/
lemma run_append_iff {s u : σ} {es fs : List ε} :
    Run r s (es ++ fs) u ↔ ∃ t, Run r s es t ∧ Run r t fs u := by
  induction es generalizing s with
  | nil => simp
  | cons e es ih =>
    simp only [List.cons_append, run_cons_iff, ih]
    constructor
    · rintro ⟨t, h, v, h₁, h₂⟩
      exact ⟨v, ⟨t, h, h₁⟩, h₂⟩
    · rintro ⟨v, ⟨t, h, h₁⟩, h₂⟩
      exact ⟨t, h, v, h₁, h₂⟩

/-- Runs compose. -/
lemma Run.append {s t u : σ} {es fs : List ε} (h₁ : Run r s es t) (h₂ : Run r t fs u) :
    Run r s (es ++ fs) u :=
  run_append_iff.2 ⟨t, h₁, h₂⟩

/-- A run extended by one step at its end. -/
lemma Run.snoc {s t u : σ} {es : List ε} {e : ε} (h₁ : Run r s es t) (h₂ : r t e u) :
    Run r s (es ++ [e]) u :=
  h₁.append (run_singleton_iff.2 h₂)

/-- **Induction from the start of a run.** What holds of the empty run, and of a run extended by
one step whenever it holds of the run, holds of every run. -/
theorem Run.induction_from {s : σ} {P : List ε → σ → Prop} (nil : P [] s)
    (snoc : ∀ es a e b, Run r s es a → P es a → r a e b → P (es ++ [e]) b) {t : σ}
    {es : List ε} (h : Run r s es t) : P es t := by
  have hgen : ∀ {a t : σ} {fs : List ε}, Run r a fs t → ∀ pre, Run r s pre a → P pre a →
      P (pre ++ fs) t := by
    intro a t fs hrun
    induction hrun with
    | nil a =>
      intro pre _ hP
      rwa [List.append_nil]
    | @cons a b t e fs hstep _ ih =>
      intro pre hpre hP
      have := ih (pre ++ [e]) (hpre.snoc hstep) (snoc pre a e b hpre hP hstep)
      rwa [List.append_assoc, List.singleton_append] at this
  exact hgen h [] (.nil s) nil

/-- **The invariant rule for some labels.** A property kept by every step with a label in `G` is
kept by every run along labels in `G`. -/
theorem Run.invariant_of_forall {Inv : σ → Prop} {G : ε → Prop}
    (hstep : ∀ s e t, Inv s → G e → r s e t → Inv t) {s t : σ} {es : List ε}
    (h : Run r s es t) (hG : ∀ e ∈ es, G e) (hs : Inv s) : Inv t := by
  induction h with
  | nil s => exact hs
  | cons h₁ _ ih =>
    simp only [List.mem_cons, forall_eq_or_imp] at hG
    exact ih hG.2 (hstep _ _ _ hs hG.1 h₁)

/-- **The invariant rule.** A property kept by every step is kept by every run. -/
theorem Run.invariant {Inv : σ → Prop} (hstep : ∀ s e t, Inv s → r s e t → Inv t)
    {s t : σ} {es : List ε} (h : Run r s es t) (hs : Inv s) : Inv t := by
  have hstep' : ∀ s e t, Inv s → True → r s e t → Inv t := fun s e t hs _ => hstep s e t hs
  exact h.invariant_of_forall hstep' (fun _ _ => trivial) hs

/-- **The variant rule.** If every step decreases a number, a run is no longer than the number at
its start. -/
theorem Run.length_add_le {Inv : σ → Prop} {variant : σ → ℕ}
    (hinv : ∀ s e t, Inv s → r s e t → Inv t)
    (hdecr : ∀ s e t, Inv s → r s e t → variant t < variant s) {s t : σ} {es : List ε}
    (h : Run r s es t) (hs : Inv s) : es.length + variant t ≤ variant s := by
  induction h with
  | nil s => simp
  | cons h₁ _ ih =>
    have hrest := ih (hinv _ _ _ hs h₁)
    have hstep := hdecr _ _ _ hs h₁
    rw [List.length_cons]
    omega

/-- **The progress rule.** If, until it is done, some step decreases a well-founded variant, a run
leads to a state that is done. -/
theorem exists_run_of_progress {β : Type*} [Preorder β] [WellFoundedLT β] {Inv Done : σ → Prop}
    {variant : σ → β}
    (hstep : ∀ s, Inv s → ¬Done s → ∃ e t, r s e t ∧ Inv t ∧ variant t < variant s) {s : σ}
    (hs : Inv s) : ∃ es t, Run r s es t ∧ Inv t ∧ Done t := by
  generalize hn : variant s = n
  induction n using WellFoundedLT.induction generalizing s with
  | ind n ih =>
    by_cases hdone : Done s
    · exact ⟨[], s, .nil s, hs, hdone⟩
    · obtain ⟨e, t, hst, ht, hlt⟩ := hstep s hs hdone
      obtain ⟨es, u, hrun, hu⟩ := ih (variant t) (hn ▸ hlt) ht rfl
      exact ⟨e :: es, u, .cons hst hrun, hu⟩

/-- Every step that a run from `s` along the labels `es` can take has the property `P`. -/
def AllSteps (r : σ → ε → σ → Prop) (P : σ → ε → σ → Prop) (s : σ) (es : List ε) : Prop :=
  ∀ pre e post a b, es = pre ++ e :: post → Run r s pre a → r a e b → P a e b

/-- There is no step along no labels. -/
@[simp] lemma allSteps_nil (P : σ → ε → σ → Prop) (s : σ) : AllSteps r P s [] := by
  intro pre e post a b h
  simp at h

/-- The steps along `e :: es` are the step of `e` and the steps along `es` after it. -/
lemma allSteps_cons {P : σ → ε → σ → Prop} {s : σ} {e : ε} {es : List ε} :
    AllSteps r P s (e :: es) ↔ ∀ t, r s e t → P s e t ∧ AllSteps r P t es := by
  constructor
  · intro h t ht
    refine ⟨h [] e es s t rfl (.nil s) ht, fun pre f post a b heq hrun hs => ?_⟩
    exact h (e :: pre) f post a b (by simp [heq]) (.cons ht hrun) hs
  · intro h pre f post a b heq hrun hs
    cases pre with
    | nil =>
      simp only [List.nil_append, List.cons.injEq] at heq
      obtain ⟨rfl, rfl⟩ := heq
      obtain rfl := run_nil_iff.1 hrun
      exact (h b hs).1
    | cons g pre =>
      simp only [List.cons_append, List.cons.injEq] at heq
      obtain ⟨rfl, rfl⟩ := heq
      obtain ⟨t, ht, hrun⟩ := run_cons_iff.1 hrun
      exact (h t ht).2 pre f post a b rfl hrun hs

/-- **The condition rule.** Suppose that, in states where `Inv` holds, a step has the property
`P` exactly when it meets the condition `C`, and that a step meeting `C` keeps `Inv`. Then a run
has `P` at every step exactly when it meets `C` at every step.

**Proof sketch.** Induction on the labels: both sides speak of the first step and of the rest,
and either side makes the first step meet `C`, so `Inv` holds where the rest starts. -/
theorem allSteps_iff {Inv : σ → Prop} {P C : σ → ε → σ → Prop}
    (hiff : ∀ s e t, Inv s → r s e t → (P s e t ↔ C s e t))
    (hinv : ∀ s e t, Inv s → r s e t → C s e t → Inv t) {s : σ} (hs : Inv s) (es : List ε) :
    AllSteps r P s es ↔ AllSteps r C s es := by
  induction es generalizing s with
  | nil => simp
  | cons e es ih =>
    rw [allSteps_cons, allSteps_cons]
    refine forall_congr' fun t => forall_congr' fun ht => ?_
    rw [hiff s e t hs ht]
    constructor
    · rintro ⟨hC, hrest⟩
      exact ⟨hC, (ih (hinv s e t hs ht hC)).1 hrest⟩
    · rintro ⟨hC, hrest⟩
      exact ⟨hC, (ih (hinv s e t hs ht hC)).2 hrest⟩

/-- **The condition rule, in one direction.** If every step along `es` meets `C`, and `C`-steps keep
`Inv` and have `P` where `Inv` holds, then every step along `es` has `P`. -/
theorem AllSteps.imp {Inv : σ → Prop} {P C : σ → ε → σ → Prop} {es : List ε}
    (hP : ∀ s e t, Inv s → r s e t → C s e t → P s e t)
    (hinv : ∀ s e t, Inv s → r s e t → C s e t → Inv t) {s : σ} (h : AllSteps r C s es)
    (hs : Inv s) : AllSteps r P s es := by
  induction es generalizing s with
  | nil => simp
  | cons e es ih =>
    rw [allSteps_cons] at h ⊢
    intro t ht
    obtain ⟨hC, hrest⟩ := h t ht
    exact ⟨hP s e t hs ht hC, ih hrest (hinv s e t hs ht hC)⟩

/-- Every step that a run from `s` along the labels `es` can take has the property `P`, given the
labels before it. -/
def AllStepsAfter (r : σ → ε → σ → Prop) (P : List ε → σ → ε → σ → Prop) (s : σ)
    (es : List ε) : Prop :=
  ∀ pre e post a b, es = pre ++ e :: post → Run r s pre a → r a e b → P pre a e b

/-- Where every step meets `C`, an invariant of the states and their histories that `C`-steps keep
holds before every step. -/
lemma invariant_of_allStepsAfter {Inv : List ε → σ → Prop} {C : List ε → σ → ε → σ → Prop} {s a : σ}
    (hinv : ∀ pre a e b, Run r s pre a → Inv pre a → r a e b → C pre a e b → Inv (pre ++ [e]) b)
    (hs : Inv [] s) {es pre post : List ε} (hC : AllStepsAfter r C s es) (heq : es = pre ++ post)
    (hrun : Run r s pre a) : Inv pre a := by
  have hprefix : ∀ post, es = pre ++ post → Inv pre a := by
    refine hrun.induction_from (P := fun pre a => ∀ post, es = pre ++ post → Inv pre a) ?_ ?_
    · exact fun _ _ => hs
    · intro pre a e b hpre ih hstep post heq
      rw [List.append_assoc, List.singleton_append] at heq
      exact hinv pre a e b hpre (ih _ heq) hstep (hC pre e post a b heq hpre hstep)
  exact hprefix post heq

/-- **The condition rule, with histories.** As `allSteps_iff`, for an invariant and properties that
speak of the labels so far. -/
theorem allStepsAfter_iff {Inv : List ε → σ → Prop} {P C : List ε → σ → ε → σ → Prop} {s : σ}
    (hiff : ∀ pre a e b, Run r s pre a → Inv pre a → r a e b → (P pre a e b ↔ C pre a e b))
    (hinv : ∀ pre a e b, Run r s pre a → Inv pre a → r a e b → C pre a e b → Inv (pre ++ [e]) b)
    (hs : Inv [] s) (es : List ε) : AllStepsAfter r P s es ↔ AllStepsAfter r C s es := by
  constructor
  · intro hP pre e post a b heq hrun hstep
    have hinvP : Inv pre a := invariant_of_allStepsAfter
      (fun pre a e b hrun h hstep hPe => hinv pre a e b hrun h hstep
        ((hiff pre a e b hrun h hstep).1 hPe)) hs hP heq hrun
    exact (hiff pre a e b hrun hinvP hstep).1 (hP pre e post a b heq hrun hstep)
  · intro hC pre e post a b heq hrun hstep
    have hinvC : Inv pre a := invariant_of_allStepsAfter hinv hs hC heq hrun
    exact (hiff pre a e b hrun hinvC hstep).2 (hC pre e post a b heq hrun hstep)

/-- A step property that every step has where the invariant holds is a property of all steps of
every run from a state with the invariant. -/
theorem allSteps_of_invariant {Inv : σ → Prop} {P : σ → ε → σ → Prop}
    (hinv : ∀ s e t, Inv s → r s e t → Inv t) (hP : ∀ s e t, Inv s → r s e t → P s e t)
    {s : σ} (hs : Inv s) (es : List ε) : AllSteps r P s es := by
  intro pre e post a b _ hrun hstep
  exact hP a e b (hrun.invariant hinv hs) hstep

/-- Along steps that all meet `C`, an invariant that `C`-steps keep is kept. -/
theorem Run.invariant_of_allSteps {Inv : σ → Prop} {C : σ → ε → σ → Prop}
    (hinv : ∀ s e t, Inv s → r s e t → C s e t → Inv t) {s t : σ} {es : List ε}
    (h : Run r s es t) (hC : AllSteps r C s es) (hs : Inv s) : Inv t := by
  induction h with
  | nil s => exact hs
  | cons h₁ _ ih =>
    obtain ⟨hCe, hCes⟩ := allSteps_cons.1 hC _ h₁
    exact ih hCes (hinv _ _ _ hs h₁ hCe)

end Transition

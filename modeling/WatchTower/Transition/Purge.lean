import WatchTower.Transition.Run

set_option relaxedAutoImplicit false
set_option autoImplicit false

/-!
# Runs with events removed

A run is compared with the run that is left when some of its events are removed. Which events are
removed may depend on the state they are met in. The comparison is a simulation in which a removed
event is a step of one side only: if the event is harmless, the two sides stay related, and what is
observed of them is the same.

## Main definitions

* `Transition.purge` — the labels of a run without the removed ones.

## Main results

* `Transition.purge_append_singleton` — purging a run that is one step longer.
* `Transition.Functional.eq_of_run` — a functional relation has one run along given labels.
* `Transition.allStepsAfter_purge_iff` — what is observed throughout a run is what is observed of
  the purged run exactly when every removed event is harmless where it is met.
-/

namespace Transition

variable {σ ε ω : Type*} {r r' : σ → ε → σ → Prop} {next : σ → ε → σ} {drop : σ → ε → Bool}

/-- The labels of a run from `s` without those that are dropped in the state they are met in. -/
def purge (next : σ → ε → σ) (drop : σ → ε → Bool) : σ → List ε → List ε
  | _, [] => []
  | s, e :: es =>
    if drop s e then purge next drop (next s e) es else e :: purge next drop (next s e) es

/-- The steps of the relation are those of a function, where it has any. -/
def Functional (r : σ → ε → σ → Prop) (next : σ → ε → σ) : Prop :=
  ∀ s e t, r s e t → t = next s e

/-- Purging labels with one more at the end. -/
lemma purge_append_singleton (hr : Functional r next) {s t : σ} {es : List ε} (h : Run r s es t)
    (e : ε) : purge next drop s (es ++ [e]) =
      purge next drop s es ++ if drop t e then [] else [e] := by
  induction h with
  | nil s => simp [purge]
  | cons h₁ _ ih =>
    obtain rfl := hr _ _ _ h₁
    rw [List.cons_append, purge, purge, ih]
    split_ifs <;> simp

/-- **A functional relation has one run** along given labels. -/
lemma Functional.eq_of_run (hr : Functional r next) {s t t' : σ} {es : List ε} (h : Run r s es t)
    (h' : Run r s es t') : t = t' := by
  induction h with
  | nil s => exact run_nil_iff.1 h'
  | cons h₁ _ ih =>
    obtain ⟨u, h₁', hrest⟩ := run_cons_iff.1 h'
    obtain rfl := hr _ _ _ h₁
    obtain rfl := hr _ _ _ h₁'
    exact ih hrest

/-- **The purge rule.** Let `R` relate the states of a run to those of the purged run, with the same
observations, so that a kept event is a step of both sides, a dropped one that meets `C` leaves the
related state related, and a dropped one that does not is observed. Then what is observed after each
step of a run is what is observed of the purged run exactly when every dropped event meets `C`. -/
theorem allStepsAfter_purge_iff {R : σ → σ → Prop} {obs : σ → ω} {C : σ → ε → Prop} {s : σ}
    (hr : Functional r next) (hr' : Functional r' next)
    (hobs : ∀ a u, R a u → obs u = obs a)
    (hkeep : ∀ a e b u, R a u → r a e b → drop a e = false → r' u e (next u e) ∧ R b (next u e))
    (hdrop : ∀ a e b u, R a u → r a e b → drop a e = true → C a e → R b u)
    (hbad : ∀ a e b u, R a u → r a e b → drop a e = true → ¬C a e → obs u ≠ obs b)
    (hs : R s s) (es : List ε) :
    AllStepsAfter r
        (fun pre _ e b => ∃ u, Run r' s (purge next drop s (pre ++ [e])) u ∧ obs u = obs b) s es ↔
      AllStepsAfter r (fun _ a e _ => drop a e = true → C a e) s es := by
  -- The invariant: the purged run so far leads to a related state.
  have hiff : ∀ pre a e b, Run r s pre a → (∃ u, Run r' s (purge next drop s pre) u ∧ R a u) →
      r a e b → ((∃ u, Run r' s (purge next drop s (pre ++ [e])) u ∧ obs u = obs b) ↔
        (drop a e = true → C a e)) := by
    rintro pre a e b hrun ⟨u, hu, hR⟩ hstep
    rw [purge_append_singleton hr hrun e]
    cases hd : drop a e with
    | false =>
      obtain ⟨hnext, hR'⟩ := hkeep a e b u hR hstep hd
      exact iff_of_true ⟨next u e, hu.snoc hnext, hobs _ _ hR'⟩ (by simp)
    | true =>
      simp only [if_true, List.append_nil, forall_const]
      constructor
      · rintro ⟨u', hu', heq⟩
        by_contra hC
        obtain rfl := hr'.eq_of_run hu hu'
        exact hbad a e b u hR hstep hd hC heq
      · exact fun hC => ⟨u, hu, hobs _ _ (hdrop a e b u hR hstep hd hC)⟩
  have hinv : ∀ pre a e b, Run r s pre a → (∃ u, Run r' s (purge next drop s pre) u ∧ R a u) →
      r a e b → (drop a e = true → C a e) →
      ∃ u, Run r' s (purge next drop s (pre ++ [e])) u ∧ R b u := by
    rintro pre a e b hrun ⟨u, hu, hR⟩ hstep hC
    rw [purge_append_singleton hr hrun e]
    cases hd : drop a e with
    | false =>
      obtain ⟨hnext, hR'⟩ := hkeep a e b u hR hstep hd
      exact ⟨next u e, hu.snoc hnext, hR'⟩
    | true =>
      simp only [if_true, List.append_nil]
      exact ⟨u, hu, hdrop a e b u hR hstep hd (hC hd)⟩
  have hstart : ∃ u, Run r' s (purge next drop s []) u ∧ R s u := ⟨s, .nil s, hs⟩
  exact allStepsAfter_iff hiff hinv hstart es

end Transition

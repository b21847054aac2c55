import Mathlib.Tactic.Common

set_option relaxedAutoImplicit false
set_option autoImplicit false

/-!
# Computations with an observer

A computation that hands items to an observer as it goes, and then returns or throws. What has been
handed over stays so: a `catch` can replace the result of a computation, but not take back what the
observer has seen.

## Main definitions

* `Transition.Emitting` — such computations, with a monad instance; `Transition.Emitting.emit`.
* `Transition.Emitting.observe` — the same for an observer that passes the items on.
* `Transition.Emitting.DeliversFrom`, `Transition.Emitting.Delivers` — what the observer has been
  handed, put together, is what is returned.

## Main results

* `Transition.Emitting.DeliversFrom.emit_bind` — the rule of a loop that emits what it accumulates.
* `Transition.Emitting.delivers_tryCatch_iff` — the rule of `try … catch` blocks: nothing may have
  been handed over before the exception.
-/

namespace Transition

/-- What the observer has been handed, and how the computation ends. -/
structure Emitting (ω ε α : Type) where
  /-- The items, oldest first. -/
  emitted : List ω
  /-- The result. -/
  result : Except ε α

namespace Emitting

variable {ω ω' ε α β γ : Type}

/-- Hand over an item. -/
def emit (w : ω) : Emitting ω ε Unit := ⟨[w], .ok ()⟩

/-- Sequencing; an exception skips the continuation. -/
def bind (p : Emitting ω ε α) (f : α → Emitting ω ε β) : Emitting ω ε β :=
  match p.result with
  | .ok a => ⟨p.emitted ++ (f a).emitted, (f a).result⟩
  | .error e => ⟨p.emitted, .error e⟩

/-- A `try … catch` block. -/
def catchError (p : Emitting ω ε α) (f : ε → Emitting ω ε α) : Emitting ω ε α :=
  match p.result with
  | .ok a => ⟨p.emitted, .ok a⟩
  | .error e => ⟨p.emitted ++ (f e).emitted, (f e).result⟩

instance : Monad (Emitting ω ε) where
  pure a := ⟨[], .ok a⟩
  bind := bind

instance : MonadExcept ε (Emitting ω ε) where
  throw e := ⟨[], .error e⟩
  tryCatch := catchError

/-- A block that only hands something over under a condition. -/
def emitIf (p : Prop) [Decidable p] (w : ω) : Emitting ω ε Unit :=
  ⟨if p then [w] else [], .ok ()⟩

/-- The same computation for an observer that passes the items on. -/
def observe (f : ω → ω') (p : Emitting ω ε α) : Emitting ω' ε α := ⟨p.emitted.map f, p.result⟩

/-- The observer puts together what it is handed, and that is taken for the result. -/
def gathered (p : Emitting (List γ) ε α) : Emitting (List γ) ε (List γ) :=
  ⟨p.emitted, p.result.map fun _ => p.emitted.flatten⟩

lemma pure_def (a : α) : (pure a : Emitting ω ε α) = ⟨[], .ok a⟩ := rfl

lemma throw_def (e : ε) : (throw e : Emitting ω ε α) = ⟨[], .error e⟩ := rfl

/-- A sequence whose first part returns. -/
lemma bind_of_ok {p : Emitting ω ε α} {a : α} (h : p.result = .ok a) (f : α → Emitting ω ε β) :
    p >>= f = ⟨p.emitted ++ (f a).emitted, (f a).result⟩ := by
  change bind p f = _
  rw [bind, h]

/-- A block that returns. -/
lemma tryCatch_of_ok {p : Emitting ω ε α} {a : α} (h : p.result = .ok a)
    (f : ε → Emitting ω ε α) : tryCatch p f = p := by
  change catchError p f = _
  obtain ⟨emitted, result⟩ := p
  dsimp only at h
  subst h
  rfl

/-- A block that throws. -/
lemma tryCatch_of_error {p : Emitting ω ε α} {e : ε} (h : p.result = .error e)
    (f : ε → Emitting ω ε α) :
    tryCatch p f = ⟨p.emitted ++ (f e).emitted, (f e).result⟩ := by
  change catchError p f = _
  rw [catchError, h]

/-! ## Delivery -/

/-- What is handed over extends what there has been to what is returned. -/
def DeliversFrom (before : List γ) (p : Emitting (List γ) ε (List γ)) : Prop :=
  ∀ a, p.result = .ok a → before ++ p.emitted.flatten = a

/-- What is handed over, put together, is what is returned. -/
def Delivers (p : Emitting (List γ) ε (List γ)) : Prop := DeliversFrom [] p

variable {before : List γ}

/-- What there has been is returned. -/
lemma deliversFrom_pure : DeliversFrom before (pure before : Emitting (List γ) ε (List γ)) := by
  rintro a ⟨⟩
  exact List.append_nil _

/-- Nothing is returned. -/
lemma deliversFrom_throw (e : ε) :
    DeliversFrom before (throw e : Emitting (List γ) ε (List γ)) := by
  rintro a ⟨⟩

/-- **An item is handed over and accumulated.** -/
lemma DeliversFrom.emit_bind {w : List γ} {p : Emitting (List γ) ε (List γ)}
    (h : DeliversFrom (before ++ w) p) : DeliversFrom before (emit w >>= fun _ => p) := by
  intro a ha
  rw [← h a ha, List.append_assoc]
  rfl

/-- **The rule of `try … catch` blocks.** If both parts deliver what they return, the block does so
exactly when nothing has been handed over before an exception from which it recovers. -/
theorem delivers_tryCatch_iff {p : Emitting (List γ) ε (List γ)}
    {f : ε → Emitting (List γ) ε (List γ)} (hp : Delivers p) (hf : ∀ e, Delivers (f e)) :
    Delivers (tryCatch p f) ↔ ∀ e, p.result = .error e →
      p.emitted.flatten = [] ∨ ∃ e', (f e).result = .error e' := by
  cases hresult : p.result with
  | ok a =>
    rw [tryCatch_of_ok hresult]
    exact iff_of_true hp fun e he => by cases he
  | error e =>
    rw [tryCatch_of_error hresult]
    constructor
    · rintro h e' ⟨⟩
      cases hrecovered : (f e).result with
      | error e' => exact .inr ⟨e', rfl⟩
      | ok a =>
        have hall : [] ++ (p.emitted ++ (f e).emitted).flatten = a := h a hrecovered
        have hlater : [] ++ (f e).emitted.flatten = a := hf e a hrecovered
        rw [List.nil_append] at hlater
        rw [List.nil_append, List.flatten_append, hlater] at hall
        exact .inl (List.append_left_eq_self.1 hall)
    · intro h a ha
      rcases h e rfl with hnone | ⟨e', he'⟩
      · have hlater : [] ++ (f e).emitted.flatten = a := hf e a ha
        rw [List.flatten_append, hnone, List.nil_append]
        exact hlater
      · rw [he'] at ha
        cases ha

end Emitting

end Transition

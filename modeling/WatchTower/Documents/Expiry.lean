import Mathlib.Order.Lattice
import WatchTower.Transition.Run

set_option relaxedAutoImplicit false
set_option autoImplicit false

/-!
# Collections with an expiry

A collection whose documents expire. Expired documents are removed in the background, at some time
after their expiry or never, so what is still there is known of the other documents only. A query
that asks for nothing that has expired gets what it would get of all documents ever inserted.

## Main definitions

* `Documents.Expiring` — the documents, all that there have ever been, and the time.
* `Documents.ExpiryStep` — a document is inserted, time passes, or an expired document is removed.

## Main results

* `Documents.filter_of_run` — a query for what has not expired gets all of it.
* `Documents.sublist_of_run` — what is there has been inserted.
* `Documents.exists_run_expired` — an expired document can be gone.
-/

namespace Documents

open Transition

/-- A collection with an expiry. -/
structure Expiring (α τ : Type*) where
  /-- The documents. -/
  docs : List α
  /-- All documents that have been inserted. -/
  history : List α
  /-- The time. -/
  clock : τ

/-- What happens to it. -/
inductive ExpiryEvent (α τ : Type*)
  /-- A document is inserted. -/
  | insert (a : α)
  /-- It is later. -/
  | elapse (t : τ)
  /-- A document is removed. -/
  | expire (a : α)

variable {α τ : Type*} [LinearOrder τ]

/-- One event; a document may be removed when it has expired. -/
inductive ExpiryStep (expired : τ → α → Prop) :
    Expiring α τ → ExpiryEvent α τ → Expiring α τ → Prop
  | insert (s : Expiring α τ) (a : α) :
    ExpiryStep expired s (.insert a) { s with docs := s.docs ++ [a], history := s.history ++ [a] }
  | elapse (s : Expiring α τ) {t : τ} (h : s.clock ≤ t) :
    ExpiryStep expired s (.elapse t) { s with clock := t }
  | expire {pre post history : List α} {clock : τ} {a : α} (h : expired clock a) :
    ExpiryStep expired ⟨pre ++ a :: post, history, clock⟩ (.expire a) ⟨pre ++ post, history, clock⟩

variable {expired : τ → α → Prop} {s s' : Expiring α τ} {es : List (ExpiryEvent α τ)}

/-- Nothing is missing but documents that have expired. -/
def Expiring.Complete (expired : τ → α → Prop) (s : Expiring α τ) : Prop :=
  ∀ q : α → Bool, (∀ a, q a = true → ∀ t ≤ s.clock, ¬expired t a) →
    s.docs.filter q = s.history.filter q

/-- Every step keeps it so. -/
lemma Expiring.Complete.step {e : ExpiryEvent α τ} (hs : s.Complete expired)
    (h : ExpiryStep expired s e s') : s'.Complete expired := by
  intro q hq
  cases h with
  | insert _ a =>
    rw [List.filter_append, List.filter_append, hs q hq]
  | elapse _ hle =>
    exact hs q fun a ha t ht => hq a ha t (ht.trans hle)
  | @expire pre post history clock a ha =>
    have hqa : ¬q a = true := fun hqa => hq a hqa clock le_rfl ha
    rw [← hs q hq, List.filter_append, List.filter_append, List.filter_cons_of_neg hqa]

/-- What is there has been inserted, in the same order. -/
lemma sublist_of_run {start : τ} (h : Run (ExpiryStep expired) ⟨[], [], start⟩ es s) :
    s.docs.Sublist s.history := by
  refine h.induction_from (P := fun _ s => s.docs.Sublist s.history) (List.Sublist.refl _) ?_
  intro _ s e s' _ hs hstep
  cases hstep with
  | insert _ a => exact hs.append (List.Sublist.refl _)
  | elapse _ hle => exact hs
  | expire ha => exact ((List.sublist_cons_self _ _).append_left _).trans hs

/-- **A query for what has not expired** gets all of it. -/
theorem filter_of_run {start : τ} (h : Run (ExpiryStep expired) ⟨[], [], start⟩ es s)
    {q : α → Bool} (hq : ∀ a, q a = true → ∀ t ≤ s.clock, ¬expired t a) :
    s.docs.filter q = s.history.filter q := by
  have hs : s.Complete expired :=
    h.invariant (fun _ _ _ hs hstep => hs.step hstep) fun _ _ => rfl
  exact hs q hq

/-- Documents are inserted. -/
lemma run_insert (docs : List α) (s : Expiring α τ) : Run (ExpiryStep expired) s (docs.map .insert)
    ⟨s.docs ++ docs, s.history ++ docs, s.clock⟩ := by
  induction docs generalizing s with
  | nil =>
    rw [List.append_nil, List.append_nil]
    exact .nil s
  | cons a docs ih =>
    have hrest := ih { s with docs := s.docs ++ [a], history := s.history ++ [a] }
    rw [List.append_assoc, List.append_assoc] at hrest
    exact .cons (.insert s a) hrest

/-- The oldest document is removed. -/
lemma expire_head {post history : List α} {clock : τ} {a : α} (h : expired clock a) :
    ExpiryStep expired ⟨a :: post, history, clock⟩ (.expire a) ⟨post, history, clock⟩ :=
  @ExpiryStep.expire α τ _ expired [] post history clock a h

/-- **An expired document** can be gone. -/
theorem exists_run_expired {a : α} {start t : τ} (hle : start ≤ t) (ha : expired t a) :
    Run (ExpiryStep expired) ⟨[], [], start⟩ [.insert a, .elapse t, .expire a] ⟨[], [a], t⟩ :=
  .cons (.insert _ a) (.cons (.elapse _ hle) (.cons (expire_head ha) (.nil _)))

end Documents

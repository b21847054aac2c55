import Mathlib.Tactic.Common

set_option relaxedAutoImplicit false
set_option autoImplicit false

/-!
# Programs over atomic operations

An asynchronous program is a tree of calls: it performs an operation, waits for the answer (a
value, or an exception) and goes on. What happens between two calls is pure, so the calls are
exactly the points at which another program can run, the process can be killed, or a call can be
rejected. The operations are interpreted by a handler, one atomic step of the state each.

## Main definitions

* `Transition.Prog` — programs, with `Prog.bind`, `Prog.catchError` and a monad instance.
* `Transition.Prog.run` — an undisturbed run under a handler.
* `Transition.Prog.wp` — what holds when it ends.
* `Transition.Prog.disturb` — the state left behind when a fault strikes at operation `n`: the
  process dies there, or the operation is rejected.
* `Transition.Prog.AllCalls` — every operation a program can perform is of some kind.

## Main results

* `Transition.Prog.run_bind`, `Transition.Prog.run_catchError`, `Transition.Prog.wp_bind` — runs
  compose.
* `Transition.Prog.disturb_await_bind_succ` — a fault after the first operation of a sequence
  strikes in the rest.
* `Transition.Prog.AllCalls.run_invariant`, `Transition.Prog.AllCalls.disturb_invariant` — what
  every operation keeps, a run keeps, also one struck by a fault.
-/

namespace Transition

/-- A program over the operations `Op`, the operation `o` answering in `Resp o`, with exceptions
`E` and result `α`. -/
inductive Prog (Op : Type) (Resp : Op → Type) (E α : Type) : Type
  | ret (a : α)
  | fail (e : E)
  | call (o : Op) (k : Except E (Resp o) → Prog Op Resp E α)

namespace Prog

variable {Op : Type} {Resp : Op → Type} {E α β σ : Type}

/-- Sequencing; an exception skips the continuation. -/
def bind : Prog Op Resp E α → (α → Prog Op Resp E β) → Prog Op Resp E β
  | ret a, f => f a
  | fail e, _ => fail e
  | call o k, f => call o fun r => (k r).bind f

/-- A `try … catch` block. -/
def catchError : Prog Op Resp E α → (E → Prog Op Resp E α) → Prog Op Resp E α
  | ret a, _ => ret a
  | fail e, f => f e
  | call o k, f => call o fun r => (k r).catchError f

/-- Await one operation, rethrowing its rejection. -/
def await (o : Op) : Prog Op Resp E (Resp o) :=
  call o fun r => match r with
    | .ok a => ret a
    | .error e => fail e

/-- Await one operation and look at its outcome, rejection included. -/
def attempt (o : Op) : Prog Op Resp E (Except E (Resp o)) := call o ret

instance : Monad (Prog Op Resp E) where
  pure := ret
  bind := bind

instance : MonadExcept E (Prog Op Resp E) where
  throw := fail
  tryCatch := catchError

@[simp] lemma pure_eq (a : α) : (pure a : Prog Op Resp E α) = ret a := rfl

@[simp] lemma throw_eq (e : E) : (throw e : Prog Op Resp E α) = fail e := rfl

@[simp] lemma tryCatch_eq (p : Prog Op Resp E α) (f : E → Prog Op Resp E α) :
    tryCatch p f = p.catchError f := rfl

@[simp] lemma bind_eq (p : Prog Op Resp E α) (f : α → Prog Op Resp E β) :
    p >>= f = p.bind f := rfl

/-- Sequencing is associative. -/
lemma bind_assoc {γ : Type} (p : Prog Op Resp E α) (f : α → Prog Op Resp E β)
    (g : β → Prog Op Resp E γ) : (p.bind f).bind g = p.bind fun a => (f a).bind g := by
  induction p with
  | ret a => rfl
  | fail e => rfl
  | call o k ih => simp only [bind, ih]

/-! ## Undisturbed runs -/

/-- Run a program under a handler: its result (or exception) and the state it leaves. -/
def run (h : (o : Op) → σ → Except E (Resp o) × σ) : Prog Op Resp E α → σ → Except E α × σ
  | ret a, s => (.ok a, s)
  | fail e, s => (.error e, s)
  | call o k, s => (k (h o s).1).run h (h o s).2

variable (h : (o : Op) → σ → Except E (Resp o) × σ)

@[simp] lemma run_ret (a : α) (s : σ) : (ret a : Prog Op Resp E α).run h s = (.ok a, s) := rfl

@[simp] lemma run_fail (e : E) (s : σ) :
    (fail e : Prog Op Resp E α).run h s = (.error e, s) := rfl

@[simp] lemma run_call (o : Op) (k : Except E (Resp o) → Prog Op Resp E α) (s : σ) :
    (call o k).run h s = (k (h o s).1).run h (h o s).2 := rfl

@[simp] lemma run_await (o : Op) (s : σ) : (await o).run h s = h o s := by
  rcases hs : h o s with ⟨a | a, s'⟩ <;> simp [await, hs]

@[simp] lemma run_attempt (o : Op) (s : σ) :
    (attempt o).run h s = (.ok (h o s).1, (h o s).2) := rfl

/-- The run of a sequence: the run of the first part, then, unless it threw, of the second. -/
@[simp] lemma run_bind (p : Prog Op Resp E α) (f : α → Prog Op Resp E β) (s : σ) :
    (p.bind f).run h s =
      match p.run h s with
      | (.ok a, s') => (f a).run h s'
      | (.error e, s') => (.error e, s') := by
  induction p generalizing s with
  | ret a => rfl
  | fail e => rfl
  | call o k ih => exact ih _ _

/-- The run of a `try … catch` block. -/
@[simp] lemma run_catchError (p : Prog Op Resp E α) (f : E → Prog Op Resp E α) (s : σ) :
    (p.catchError f).run h s =
      match p.run h s with
      | (.ok a, s') => (.ok a, s')
      | (.error e, s') => (f e).run h s' := by
  induction p generalizing s with
  | ret a => rfl
  | fail e => rfl
  | call o k ih => exact ih _ _

section Postconditions

/-! ## Postconditions -/

/-- The undisturbed run from `s` ends with a result and in a state that satisfy `Q`. -/
def wp (p : Prog Op Resp E α) (Q : Except E α → σ → Prop) (s : σ) : Prop :=
  Q (p.run h s).1 (p.run h s).2

variable {h} {Q Q' : Except E α → σ → Prop} {s : σ}

@[simp] lemma wp_ret (a : α) : (ret a : Prog Op Resp E α).wp h Q s ↔ Q (.ok a) s := Iff.rfl

@[simp] lemma wp_fail (e : E) : (fail e : Prog Op Resp E α).wp h Q s ↔ Q (.error e) s := Iff.rfl

@[simp] lemma wp_await (o : Op) {Q : Except E (Resp o) → σ → Prop} :
    (await o).wp h Q s ↔ Q (h o s).1 (h o s).2 := by
  rw [wp, run_await]

/-- The rule of sequences: an exception ends it. -/
@[simp] lemma wp_bind (p : Prog Op Resp E β) (f : β → Prog Op Resp E α) :
    (p.bind f).wp h Q s ↔ p.wp h (fun r t => match r with
      | .ok a => (f a).wp h Q t
      | .error e => Q (.error e) t) s := by
  simp only [wp, run_bind]
  rcases p.run h s with ⟨_ | _, _⟩ <;> rfl

/-- The rule of consequence. -/
lemma wp.mono {p : Prog Op Resp E α} (hp : p.wp h Q s) (hQ : ∀ r t, Q r t → Q' r t) :
    p.wp h Q' s :=
  hQ _ _ hp

end Postconditions

/-! ## Faults -/

/-- What can go wrong at an operation. -/
inductive Fault (E : Type)
  /-- The process dies before the operation is performed. -/
  | kill
  /-- The operation is rejected before it could change the state. -/
  | reject (e : E)

/-- The state left behind by a run that is struck by a fault at operation number `n`, counting
from `0`. A program with no such operation runs undisturbed. -/
def disturb (fault : Fault E) : ℕ → Prog Op Resp E α → σ → σ
  | _, ret _, s => s
  | _, fail _, s => s
  | 0, call _ k, s =>
    match fault with
    | .kill => s
    | .reject e => ((k (.error e)).run h s).2
  | n + 1, call o k, s => disturb fault n (k (h o s).1) (h o s).2

variable (fault : Fault E)

@[simp] lemma disturb_ret (n : ℕ) (a : α) (s : σ) :
    (ret a : Prog Op Resp E α).disturb h fault n s = s := by
  cases n <;> rfl

@[simp] lemma disturb_fail (n : ℕ) (e : E) (s : σ) :
    (fail e : Prog Op Resp E α).disturb h fault n s = s := by
  cases n <;> rfl

@[simp] lemma disturb_call_succ (n : ℕ) (o : Op) (k : Except E (Resp o) → Prog Op Resp E α)
    (s : σ) :
    (call o k).disturb h fault (n + 1) s = (k (h o s).1).disturb h fault n (h o s).2 := rfl

/-- A fault at the first operation of a sequence that rethrows leaves the state alone. -/
@[simp] lemma disturb_await_bind_zero (o : Op) (f : Resp o → Prog Op Resp E β) (s : σ) :
    ((await o).bind f).disturb h fault 0 s = s := by
  cases fault <;> rfl

/-- A fault after the first operation of a sequence strikes in the rest. -/
lemma disturb_await_bind_succ (n : ℕ) {o : Op} (f : Resp o → Prog Op Resp E β) {s s' : σ}
    {a : Resp o} (ho : h o s = (.ok a, s')) :
    ((await o).bind f).disturb h fault (n + 1) s = (f a).disturb h fault n s' := by
  simp only [await, bind, disturb_call_succ, ho]

/-- There is no fault after a first operation that is rejected anyway. -/
lemma disturb_await_bind_error (n : ℕ) {o : Op} (f : Resp o → Prog Op Resp E β) {s s' : σ}
    {e : E} (ho : h o s = (.error e, s')) :
    ((await o).bind f).disturb h fault (n + 1) s = s' := by
  simp only [await, bind, disturb_call_succ, ho, disturb_fail]

/-- Mapping the result of a program does not change what a fault leaves behind. -/
@[simp] lemma disturb_bind_ret (n : ℕ) (p : Prog Op Resp E α) (f : α → β) (s : σ) :
    (p.bind fun a => ret (f a)).disturb h fault n s = p.disturb h fault n s := by
  induction p generalizing n s with
  | ret a => simp [bind]
  | fail e => simp [bind]
  | call o k ih =>
    cases n with
    | succ n => exact ih _ n _
    | zero =>
      cases fault with
      | kill => rfl
      | reject e =>
        change (((k (.error e)).bind fun a => ret (f a)).run h s).2 = ((k (.error e)).run h s).2
        rw [run_bind]
        rcases (k (.error e)).run h s with ⟨_ | _, _⟩ <;> rfl

/-! ## Invariants of the operations -/

/-- Every operation the program can perform, whatever the answers, satisfies `A`. -/
def AllCalls (A : Op → Prop) : Prog Op Resp E α → Prop
  | ret _ => True
  | fail _ => True
  | call o k => A o ∧ ∀ r, (k r).AllCalls A

variable {A : Op → Prop}

lemma AllCalls.bind {p : Prog Op Resp E α} {f : α → Prog Op Resp E β} (hp : p.AllCalls A)
    (hf : ∀ a, (f a).AllCalls A) : (p.bind f).AllCalls A := by
  induction p with
  | ret a => exact hf a
  | fail e => trivial
  | call o k ih => exact ⟨hp.1, fun r => ih r (hp.2 r)⟩

lemma AllCalls.catchError {p : Prog Op Resp E α} {f : E → Prog Op Resp E α}
    (hp : p.AllCalls A) (hf : ∀ e, (f e).AllCalls A) : (p.catchError f).AllCalls A := by
  induction p with
  | ret a => trivial
  | fail e => exact hf e
  | call o k ih => exact ⟨hp.1, fun r => ih r (hp.2 r)⟩

lemma AllCalls.mono {B : Op → Prop} (hAB : ∀ o, A o → B o) {p : Prog Op Resp E α}
    (hp : p.AllCalls A) : p.AllCalls B := by
  induction p with
  | ret a => trivial
  | fail e => trivial
  | call o k ih => exact ⟨hAB o hp.1, fun r => ih r (hp.2 r)⟩

@[simp] lemma allCalls_await {o : Op} :
    (await o : Prog Op Resp E (Resp o)).AllCalls A ↔ A o := by
  refine ⟨fun h => h.1, fun h => ⟨h, fun r => ?_⟩⟩
  cases r <;> trivial

@[simp] lemma allCalls_attempt {o : Op} :
    (attempt o : Prog Op Resp E (Except E (Resp o))).AllCalls A ↔ A o :=
  ⟨fun h => h.1, fun h => ⟨h, fun _ => trivial⟩⟩

/-- **The operations' rule.** What every operation of a program keeps, a run of it keeps. -/
theorem AllCalls.run_invariant {Inv : σ → Prop} (hA : ∀ o s, A o → Inv s → Inv (h o s).2)
    {p : Prog Op Resp E α} (hp : p.AllCalls A) {s : σ} (hs : Inv s) : Inv (p.run h s).2 := by
  induction p generalizing s with
  | ret a => exact hs
  | fail e => exact hs
  | call o k ih => exact ih _ (hp.2 _) (hA o s hp.1 hs)

/-- **The operations' rule under a fault.** What every operation of a program keeps, a run of it
keeps wherever a fault strikes. -/
theorem AllCalls.disturb_invariant {Inv : σ → Prop} (hA : ∀ o s, A o → Inv s → Inv (h o s).2)
    {p : Prog Op Resp E α} (hp : p.AllCalls A) {n : ℕ} {s : σ} (hs : Inv s) :
    Inv (p.disturb h fault n s) := by
  induction p generalizing n s with
  | ret a => simpa using hs
  | fail e => simpa using hs
  | call o k ih =>
    cases n with
    | succ n => exact ih _ (hp.2 _) (hA o s hp.1 hs)
    | zero =>
      cases fault with
      | kill => exact hs
      | reject e => exact (hp.2 (.error e)).run_invariant h hA hs

end Prog

end Transition

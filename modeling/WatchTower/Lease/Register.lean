import Mathlib

set_option relaxedAutoImplicit false
set_option autoImplicit false

/-!
# The lease register

A single cell that holds a lease, an owner with an expiry time, and a clock that never runs
backwards. A lease may be granted when the cell is empty, when its lease has expired, or to the
present owner; it may be removed by its owner, and swept away once expired.

What a lease promises its owner is stated as an invariant: from the grant until the expiry the
cell holds a lease of that owner which lasts at least as long, unless the owner removes it or
shortens it.

## Main definitions

* `Lease.Register`, `Lease.Act`, `Lease.Step` — the register.
* `Lease.Covered` — a lease of an owner is in force until a given time.

## Main results

* `Lease.Covered.step` — a lease stays in force through every action but a removal by its owner.
* `Lease.Covered.expired_of_grant` — a grant to another owner means it has expired.
* `Lease.disjoint_of_le` — leases of which the second begins after the first has expired.
-/

namespace Lease

/-- A clock and a cell for one lease. -/
structure Register (ι τ : Type*) where
  /-- The current time. -/
  clock : τ
  /-- The owner of the lease and its expiry, if there is one. -/
  cell : Option (ι × τ)

/-- What can be done to a register. -/
inductive Act (ι τ : Type*)
  | advance
  | grant (i : ι) (expiry : τ)
  | remove (i : ι)
  | sweep
  | skip

variable {ι τ : Type*} [Preorder τ]

/-- The actions of a register. -/
inductive Step : Register ι τ → Act ι τ → Register ι τ → Prop
  | advance {s : Register ι τ} {t : τ} : s.clock ≤ t → Step s .advance { s with clock := t }
  | grant {s : Register ι τ} {i : ι} {expiry : τ} :
      (∀ j u, s.cell = some (j, u) → j = i ∨ u ≤ s.clock) →
      Step s (.grant i expiry) { s with cell := some (i, expiry) }
  | remove {s : Register ι τ} {i : ι} {u : τ} :
      s.cell = some (i, u) → Step s (.remove i) { s with cell := none }
  | sweep {s : Register ι τ} {i : ι} {u : τ} :
      s.cell = some (i, u) → u ≤ s.clock → Step s .sweep { s with cell := none }
  | skip {s : Register ι τ} : Step s .skip s

/-- A lease of `i` is in force until `e`: the cell holds one that lasts at least as long, or the
time has come. -/
def Covered (i : ι) (e : τ) (s : Register ι τ) : Prop :=
  (∃ u, s.cell = some (i, u) ∧ e ≤ u) ∨ e ≤ s.clock

variable {s s' : Register ι τ} {a : Act ι τ} {i j : ι} {e u : τ}

/-- A grant puts the lease in force. -/
lemma Covered.of_grant (h : Step s (.grant i e) s') : Covered i e s' := by
  cases h with
  | grant => exact .inl ⟨e, rfl, le_rfl⟩

/-- **A grant to another owner means that the lease has expired.** -/
theorem Covered.expired_of_grant (hc : Covered i e s) (h : Step s (.grant j u) s')
    (hij : i ≠ j) : e ≤ s.clock := by
  cases h with
  | grant hfree =>
    rcases hc with ⟨v, hcell, hle⟩ | hexp
    · rcases hfree i v hcell with hi | hv
      · exact absurd hi hij
      · exact hle.trans hv
    · exact hexp

/-- **A lease stays in force** through every action, except a removal by its owner or a grant to
its owner that ends earlier. -/
theorem Covered.step (hc : Covered i e s) (h : Step s a s') (hremove : a ≠ .remove i)
    (hgrant : ∀ u, a = .grant i u → e ≤ u) : Covered i e s' := by
  cases h with
  | advance ht =>
    rcases hc with hcell | hexp
    · exact .inl hcell
    · exact .inr (hexp.trans ht)
  | @grant j u hfree =>
    by_cases hij : i = j
    · subst hij
      exact .inl ⟨u, rfl, hgrant u rfl⟩
    · have hg : Step s (.grant j u) { s with cell := some (j, u) } := .grant hfree
      exact .inr (hc.expired_of_grant hg hij)
  | remove hcell =>
    rcases hc with ⟨v, hcell', -⟩ | hexp
    · rw [hcell, Option.some.injEq, Prod.mk.injEq] at hcell'
      exact absurd (by rw [hcell'.1]) hremove
    · exact .inr hexp
  | sweep hcell hu =>
    rcases hc with ⟨v, hcell', hle⟩ | hexp
    · rw [hcell, Option.some.injEq, Prod.mk.injEq] at hcell'
      exact .inr (hle.trans (hcell'.2 ▸ hu))
    · exact .inr hexp
  | skip => exact hc

/-- An interval that ends before another one begins is disjoint from it. -/
lemma disjoint_of_le {w₁ e₁ w₂ e₂ : τ} (h : e₁ ≤ w₂) :
    Disjoint (Set.Ico w₁ e₁) (Set.Ico w₂ e₂) := by
  rw [Set.disjoint_left]
  intro x hx₁ hx₂
  exact (lt_irrefl x) (hx₁.2.trans_le (h.trans hx₂.1))

end Lease

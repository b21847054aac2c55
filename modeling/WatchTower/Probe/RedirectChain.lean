import Mathlib.Tactic.Common
import WatchTower.Scheduler.Monitor

set_option relaxedAutoImplicit false
set_option autoImplicit false

/-!
# Redirect chains

What a target answers to the requests of a probe, one after the other, and how a chain of answers is
to be graded: redirects are followed up to a limit, and the first answer that is not one is graded
by its status code. Beside this stands the rule by which the response callback decides, answer by
answer. The two test the same things in a different order, and differ where the budget is used up.

## Main definitions

* `WatchTower.Chain`, `WatchTower.ChainOutcome` — the answers, and how they are graded.
* `WatchTower.gradeChain` — the reference.
* `WatchTower.Chain.Reached` — the answers a probe comes to.
* `WatchTower.Chain.settlesWith` — what the response callback makes of an answer it does not follow.
* `WatchTower.Chain.AgreesAt` — the answers at which the two agree.

## Main results

* `WatchTower.Chain.gradeChain_of_reached` — the reference at the answers a probe comes to.
* `WatchTower.Chain.gradeChain_eq_iff` — the callback's grade is the reference's exactly at the
  answers at which they agree.
-/

namespace WatchTower

/-- The answers to the requests of a probe, by their position: a status code and a `Location`. A
finite chain has no answer from some position on. -/
abbrev Chain := ℕ → Option (ℕ × Option String)

/-- How a chain is graded. -/
structure ChainOutcome where
  /-- UP or DOWN. -/
  status : Status
  /-- The status code it was graded by. -/
  statusCode : Option ℕ
  /-- The code of a DOWN. -/
  errorCode : Option String
  /-- Whether another attempt may come out differently. -/
  retryable : Bool
  /-- Redirects followed. -/
  redirects : ℕ
  deriving DecidableEq

/-- A status code from `300` to `399`. -/
def IsRedirectStatus (statusCode : ℕ) : Prop := 300 ≤ statusCode ∧ statusCode < 400

instance (statusCode : ℕ) : Decidable (IsRedirectStatus statusCode) :=
  inferInstanceAs (Decidable (_ ∧ _))

/-- The grade of an answer by its status code alone. -/
def gradeByStatus (statusCode redirects : ℕ) : ChainOutcome :=
  if 200 ≤ statusCode ∧ statusCode ≤ 399 then ⟨.up, some statusCode, none, false, redirects⟩
  else
    ⟨.down, some statusCode, some ("HTTP_" ++ toString statusCode),
      statusCode = 408 || statusCode = 429 || 500 ≤ statusCode, redirects⟩

/-- The grade of a redirect too many. -/
def tooManyOutcome (statusCode redirects : ℕ) : ChainOutcome :=
  ⟨.down, some statusCode, some "ERR_TOO_MANY_REDIRECTS", false, redirects⟩

/-- The reference, from the answer at position `i` on and with so many redirects left. An answer is
followed if its status is a redirect's and it carries a `Location`; the first that is not is graded
by its status code. Nothing, if the chain ends before. -/
def gradeChain (chain : Chain) : ℕ → ℕ → Option ChainOutcome
  | 0, i => (chain i).map fun answer =>
      if IsRedirectStatus answer.1 ∧ answer.2.isSome then tooManyOutcome answer.1 i
      else gradeByStatus answer.1 i
  | budget + 1, i => (chain i).bind fun answer =>
      if IsRedirectStatus answer.1 ∧ answer.2.isSome then gradeChain chain budget (i + 1)
      else some (gradeByStatus answer.1 i)

namespace Chain

variable {chain : Chain} {max i statusCode : ℕ} {location : Option String} {o : ChainOutcome}

/-- A `Location` that the code sees: an empty one counts as none. -/
def HasLocation (location : Option String) : Prop := location.any (· ≠ "") = true

instance (location : Option String) : Decidable (HasLocation location) :=
  inferInstanceAs (Decidable (_ = true))

/-- The answer at a position is followed while redirects are left. -/
def Followable (chain : Chain) (i : ℕ) : Prop :=
  ∃ statusCode location, chain i = some (statusCode, location) ∧ IsRedirectStatus statusCode ∧
    HasLocation location

/-- A probe comes to the answer at a position: it follows all those before. -/
def Reached (chain : Chain) (max i : ℕ) : Prop := i ≤ max ∧ ∀ j < i, chain.Followable j

/-- What the response callback makes of an answer that it does not follow. -/
def settlesWith (chain : Chain) (max i : ℕ) : Option ChainOutcome :=
  (chain i).bind fun answer =>
    if HasLocation answer.2 ∧ IsRedirectStatus answer.1 ∧ i < max then none
    else if HasLocation answer.2 ∧ max ≤ i then some (tooManyOutcome answer.1 i)
    else some (gradeByStatus answer.1 i)

/-- The answers at which the callback agrees with the reference: a redirect's `Location` is not
empty, and an answer with a `Location` that comes when no redirect is left is a redirect. -/
def AgreesAt (max i statusCode : ℕ) (location : Option String) : Prop :=
  (IsRedirectStatus statusCode → location ≠ some "") ∧
    (i = max → HasLocation location → IsRedirectStatus statusCode)

/-- A `Location` that the code sees is one. -/
lemma isSome_of_hasLocation (h : HasLocation location) : location.isSome = true := by
  cases location <;> simp_all [HasLocation]

/-- A `Location` that the code does not see is absent or empty. -/
lemma of_not_hasLocation (h : ¬HasLocation location) : location = none ∨ location = some "" := by
  cases location <;> simp_all [HasLocation]

/-- The reference follows an answer that can be followed. -/
lemma gradeChain_of_followable (h : chain.Followable i) (budget : ℕ) :
    gradeChain chain (budget + 1) i = gradeChain chain budget (i + 1) := by
  obtain ⟨statusCode, location, hchain, hstatus, hlocation⟩ := h
  simp [gradeChain, hchain, hstatus, isSome_of_hasLocation hlocation]

/-- **The reference at an answer that a probe comes to.** -/
theorem gradeChain_of_reached (h : chain.Reached max i) :
    gradeChain chain max 0 = gradeChain chain (max - i) i := by
  induction i with
  | zero => rfl
  | succ i ih =>
    have hi : chain.Reached max i := ⟨by have := h.1; omega, fun j hj => h.2 j (by omega)⟩
    have hmax : max - i = max - (i + 1) + 1 := by have := h.1; omega
    rw [ih hi, hmax, gradeChain_of_followable (h.2 i (by omega))]

/-- A grade by status code counts the redirects followed. -/
@[simp] lemma redirects_gradeByStatus (statusCode i : ℕ) :
    (gradeByStatus statusCode i).redirects = i := by
  unfold gradeByStatus
  split_ifs <;> rfl

/-- The reference follows no fewer redirects than it has followed. -/
lemma le_redirects_of_gradeChain {budget : ℕ} (h : gradeChain chain budget i = some o) :
    i ≤ o.redirects := by
  induction budget generalizing i with
  | zero =>
    obtain ⟨⟨statusCode, location⟩, -, rfl⟩ := Option.map_eq_some_iff.1 h
    dsimp only
    split_ifs
    · exact le_rfl
    · exact (redirects_gradeByStatus _ _).ge
  | succ budget ih =>
    obtain ⟨⟨statusCode, location⟩, -, h⟩ := Option.bind_eq_some_iff.1 h
    split_ifs at h
    · exact (Nat.le_succ i).trans (ih h)
    · obtain rfl := Option.some.inj h
      exact (redirects_gradeByStatus _ _).ge

/-- A redirect too many is no grade by status code: the error codes differ. -/
lemma tooManyOutcome_ne_gradeByStatus (statusCode i code j : ℕ) :
    tooManyOutcome statusCode i ≠ gradeByStatus code j := by
  intro h
  have herr := congrArg ChainOutcome.errorCode h
  unfold gradeByStatus tooManyOutcome at herr
  split_ifs at herr
  have hchars := congrArg String.toList (Option.some.inj herr)
  rw [String.toList_append] at hchars
  simp at hchars

/-- The reference at an answer that is no redirect, or has no `Location`. -/
lemma gradeChain_of_final (budget : ℕ) (hchain : chain i = some (statusCode, location))
    (hfinal : ¬(IsRedirectStatus statusCode ∧ location.isSome = true)) :
    gradeChain chain budget i = some (gradeByStatus statusCode i) := by
  cases budget <;> simp only [gradeChain, hchain, Option.map_some, Option.bind_some, if_neg hfinal]

/-- **The callback's grade is the reference's exactly at the answers at which they agree.** -/
theorem gradeChain_eq_iff (hi : i ≤ max) (hchain : chain i = some (statusCode, location))
    (ho : chain.settlesWith max i = some o) :
    gradeChain chain (max - i) i = some o ↔ AgreesAt max i statusCode location := by
  simp only [settlesWith, hchain, Option.bind_some] at ho
  by_cases hlocation : HasLocation location
  · have hne : location ≠ some "" := by
      rintro rfl
      simp [HasLocation] at hlocation
    by_cases hstatus : IsRedirectStatus statusCode
    · -- A redirect that is not followed comes when none is left.
      by_cases hlt : i < max
      · simp [hlocation, hstatus, hlt] at ho
      · obtain rfl : i = max := by omega
        simp only [hlocation, hstatus, lt_irrefl, and_false, if_false, le_refl, and_self,
          if_true, Option.some.injEq] at ho
        refine iff_of_true ?_ ⟨fun _ => hne, fun _ _ => hstatus⟩
        rw [Nat.sub_self, gradeChain, hchain, Option.map_some,
          if_pos ⟨hstatus, isSome_of_hasLocation hlocation⟩, ho]
    · rw [gradeChain_of_final _ hchain fun h => hstatus h.1]
      simp only [hlocation, hstatus, false_and, and_false, if_false, true_and] at ho
      split_ifs at ho with hge
      · obtain rfl : i = max := by omega
        rw [← Option.some.inj ho, Option.some.injEq]
        refine iff_of_false (tooManyOutcome_ne_gradeByStatus _ _ _ _).symm fun h => ?_
        exact hstatus (h.2 rfl hlocation)
      · rw [ho]
        exact iff_of_true rfl ⟨fun _ => hne, fun h => absurd h.ge hge⟩
  · simp only [hlocation, false_and, if_false, Option.some.injEq] at ho
    by_cases hfinal : IsRedirectStatus statusCode ∧ location.isSome = true
    · -- An empty `Location`, which the reference follows and the code does not see.
      obtain rfl : location = some "" := by
        rcases of_not_hasLocation hlocation with h | h
        · simp [h] at hfinal
        · exact h
      refine iff_of_false (fun h => ?_) fun h => h.1 hfinal.1 rfl
      rw [← ho] at h
      cases hbudget : max - i with
      | zero =>
        rw [hbudget, gradeChain, hchain, Option.map_some, if_pos hfinal, Option.some.injEq] at h
        exact tooManyOutcome_ne_gradeByStatus _ _ _ _ h
      | succ budget =>
        rw [hbudget, gradeChain, hchain, Option.bind_some, if_pos hfinal] at h
        have := le_redirects_of_gradeChain h
        rw [redirects_gradeByStatus] at this
        omega
    · rw [gradeChain_of_final _ hchain hfinal, ho]
      refine iff_of_true rfl ⟨fun hstatus h => hfinal ⟨hstatus, by simp [h]⟩, fun _ h => ?_⟩
      exact absurd h hlocation

end Chain

end WatchTower

import WatchTower.Arithmetic.Binary64

set_option relaxedAutoImplicit false
set_option autoImplicit false

/-!
# Values of the JavaScript runtime

The few runtime values the backend computes with: wall-clock times and `Date` objects, thrown
errors, and request fields of unknown type.

A reading of the clock is a whole number of milliseconds. The numbers that users and operators
choose (intervals, timeouts, cooldowns) are in double precision, and their sums and products are
rounded where the code computes them. Counters and status codes are exact: they stay far below
`2 ^ 53`. So are the other rationals (draws of `Math.random()`, the retention of the logs), whose
results are whole numbers. Of `Date` the range is modelled, since an out-of-range date is a value
that the code can build and the database rejects.

## Main definitions

* `WatchTower.Time`, `WatchTower.JsDate`, `WatchTower.newDate` — clock readings and dates.
* `WatchTower.afterMs` — the time value of `new Date(now + delay)`.
* `WatchTower.JsError` — a thrown error with its `code`.
* `WatchTower.Js` — a field of a parsed request body.
-/

namespace WatchTower

/-- A reading of the wall clock, in milliseconds since the epoch. -/
abbrev Time := ℤ

/-- The largest distance from the epoch that a `Date` can represent, in milliseconds. -/
def maxTime : ℤ := 8640000000000000

/-- A `Date` object: its time value, or `none` for an Invalid Date. -/
abbrev JsDate := Option Time

/-- `new Date(ms)` for a whole number of milliseconds. -/
def newDate (ms : ℤ) : JsDate := if -maxTime ≤ ms ∧ ms ≤ maxTime then some ms else none

/-- The integral part, rounding towards zero: what `new Date` keeps of a fractional time. -/
def toInteger (q : ℚ) : ℤ := q.num.tdiv q.den

/-- A time after the epoch is rounded down. -/
lemma toInteger_of_nonneg {q : ℚ} (h : 0 ≤ q) : toInteger q = ⌊q⌋ := by
  rw [toInteger, Int.tdiv_eq_ediv_of_nonneg (Rat.num_nonneg.2 h),
    Rat.floor_def']

/-- A time before the epoch is rounded up. -/
lemma toInteger_of_nonpos {q : ℚ} (h : q ≤ 0) : toInteger q = ⌈q⌉ := by
  have hneg : toInteger q = -toInteger (-q) := by
    rw [toInteger, toInteger, Rat.num_neg_eq_neg_num, Rat.den_neg_eq_den, Int.neg_tdiv, neg_neg]
  rw [hneg, toInteger_of_nonneg (neg_nonneg.2 h), Int.floor_neg, neg_neg]

/-- A whole time is kept. -/
@[simp] lemma toInteger_intCast (z : ℤ) : toInteger z = z := by
  simp [toInteger]

/-- What a time is rounded to, among the whole times no later than it. -/
lemma toInteger_eq_iff {q : ℚ} {z : ℤ} (h : (z : ℚ) ≤ q) :
    toInteger q = z ↔ q = z ∨ 0 ≤ z ∧ q < z + 1 := by
  rcases le_total 0 q with hq | hq
  · rw [toInteger_of_nonneg hq, Int.floor_eq_iff]
    constructor
    · rintro ⟨-, hlt⟩
      by_cases hz : 0 ≤ z
      · exact .inr ⟨hz, hlt⟩
      · have hz' : (z : ℚ) + 1 ≤ 0 := by exact_mod_cast (by omega : z + 1 ≤ 0)
        exact absurd (hlt.trans_le hz') hq.not_gt
    · rintro (rfl | ⟨-, hlt⟩)
      · exact ⟨le_rfl, lt_add_one _⟩
      · exact ⟨h, hlt⟩
  · rw [toInteger_of_nonpos hq, Int.ceil_eq_iff]
    constructor
    · rintro ⟨-, hle⟩
      exact .inl (le_antisymm hle h)
    · rintro (rfl | ⟨hz, -⟩)
      · exact ⟨sub_one_lt _, le_rfl⟩
      · have hz' : (0 : ℚ) ≤ z := by exact_mod_cast hz
        have hq0 : q = z := le_antisymm (hq.trans hz') h
        exact ⟨by rw [hq0]; exact sub_one_lt _, hq0.le⟩

/-- Rounding skips no whole time. -/
lemma le_toInteger {q : ℚ} {z : ℤ} (h : (z : ℚ) ≤ q) : z ≤ toInteger q := by
  rcases le_total 0 q with hq | hq
  · rw [toInteger_of_nonneg hq]
    exact Int.le_floor.2 h
  · rw [toInteger_of_nonpos hq]
    exact_mod_cast h.trans (Int.le_ceil q)

/-- Nor does it in the other direction. -/
lemma toInteger_le {q : ℚ} {z : ℤ} (h : q ≤ z) : toInteger q ≤ z := by
  rcases le_total 0 q with hq | hq
  · rw [toInteger_of_nonneg hq]
    exact_mod_cast (Int.floor_le q).trans h
  · rw [toInteger_of_nonpos hq]
    exact Int.ceil_le.2 h

/-- The time value of `new Date(now + delay)`, before its range is checked: the sum is rounded to a
double, and the fraction of a millisecond that is left is dropped. -/
def afterMs (now : Time) (delay : ℚ) : Time := toInteger (Binary64.round (now + delay))

section AfterMs

variable {now z : ℤ} {delay : ℚ}

/-- The time value is no earlier than a whole time that the exact sum is not earlier than, -/
lemma le_afterMs (hz : |z| ≤ 2 ^ 53) (h : (z : ℚ) ≤ now + delay) : z ≤ afterMs now delay :=
  le_toInteger (Binary64.le_round (Binary64.isDouble_intCast hz) h)

/-- and no later than one that it is not later than. -/
lemma afterMs_le (hz : |z| ≤ 2 ^ 53) (h : now + delay ≤ (z : ℚ)) : afterMs now delay ≤ z :=
  toInteger_le (Binary64.round_le (Binary64.isDouble_intCast hz) h)

/-- A sum that is a whole time is exact. -/
lemma afterMs_of_eq (hz : |z| ≤ 2 ^ 53) (h : now + delay = (z : ℚ)) : afterMs now delay = z :=
  le_antisymm (afterMs_le hz h.le) (le_afterMs hz h.ge)

/-- The only whole delay that leads to a date is the one between. -/
lemma eq_of_afterMs_intCast {n : ℤ} (hz : |z| ≤ maxTime) (h : afterMs now n = z) :
    now + n = z := by
  obtain ⟨hmin, hmax⟩ := abs_le.1 hz
  have hrange : maxTime < 2 ^ 53 := by decide
  by_contra hne
  rcases lt_or_gt_of_ne hne with hlt | hlt
  · have hsum : (now : ℚ) + n ≤ ((z - 1 : ℤ) : ℚ) := by exact_mod_cast Int.le_sub_one_of_lt hlt
    exact (sub_one_lt z).not_ge (h.ge.trans (afterMs_le (abs_le.2 ⟨by omega, by omega⟩) hsum))
  · have hsum : ((z + 1 : ℤ) : ℚ) ≤ (now : ℚ) + n := by exact_mod_cast hlt
    exact (lt_add_one z).not_ge ((le_afterMs (abs_le.2 ⟨by omega, by omega⟩) hsum).trans h.le)

end AfterMs

/-- A time within the range of `Date` is a valid date. -/
lemma newDate_of_abs_le {t : ℤ} (h : |t| ≤ maxTime) : newDate t = some t := if_pos (abs_le.1 h)

/-- The time of a valid date is within the range. -/
lemma abs_le_of_newDate {ms t : ℤ} (h : newDate ms = some t) : |ms| ≤ maxTime := by
  unfold newDate at h
  split_ifs at h with hrange
  exact abs_le.2 hrange

/-- A valid date is the time it was built from. -/
lemma eq_of_newDate_eq_some {ms t : ℤ} (h : newDate ms = some t) : t = ms := by
  unfold newDate at h
  split_ifs at h
  exact (Option.some.inj h).symm

/-- The `code` of an error: Node uses strings, the MongoDB driver numbers. -/
inductive ErrCode
  | num (n : ℕ)
  | str (s : String)
  deriving DecidableEq

/-- A thrown error. -/
structure JsError where
  /-- `err.message`. -/
  message : String
  /-- `err.code`, when there is one. -/
  code : Option ErrCode
  deriving DecidableEq

/-- The duplicate-key error of the MongoDB driver. -/
def duplicateKey : JsError := ⟨"E11000 duplicate key error", some (.num 11000)⟩

/-- A sequence that returns has returned at its first part. -/
lemma exists_of_bind_eq_ok {ε α β : Type} {x : Except ε α} {f : α → Except ε β} {b : β}
    (h : x >>= f = .ok b) : ∃ a, x = .ok a ∧ f a = .ok b := by
  cases x with
  | error err => cases h
  | ok a => exact ⟨a, rfl, h⟩

/-- A field of a request body: what `JSON.parse` can produce, or `undefined` when the field is
absent. An array or an object is given by its text, no handler modelled here looks inside one. -/
inductive Js
  | undefined
  | null
  | bool (b : Bool)
  | num (q : ℚ)
  | str (s : String)
  | obj (text : String)
  deriving DecidableEq

namespace Js

/-- Whether a value counts as true in a condition. -/
def truthy : Js → Bool
  | undefined => false
  | null => false
  | bool b => b
  | num q => q != 0
  | str s => s != ""
  | obj _ => true

/-- A document field holding an optional string, as a value. -/
def ofField : Option String → Js
  | none => undefined
  | some s => str s

end Js

end WatchTower

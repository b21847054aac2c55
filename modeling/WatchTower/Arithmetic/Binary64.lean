import Mathlib.Data.Int.Log
import Mathlib.Data.Rat.Floor
import Mathlib.Tactic.Linarith
import Mathlib.Tactic.Ring

set_option relaxedAutoImplicit false
set_option autoImplicit false

/-!
# Numbers in double precision

The finite numbers of the `binary64` format, as the rationals that they denote, and the operation
after which every result of arithmetic is rounded: to the nearest such number, and to the one with
the even significand in the middle between two. A number of the format has 53 significant bits and
no bit below `2 ^ (-1074)`. Its largest exponent is left out: rounding never overflows here.

## Main definitions

* `Binary64.round` — rounding to nearest, ties to even.
* `Binary64.IsDouble` — the numbers of the format.
* `Binary64` — the same as a type, with the rounded operations.

## Main results

* `Binary64.abs_sub_round_le` — no number of the format is nearer.
* `Binary64.le_round`, `Binary64.round_le` — rounding skips no number of the format.
* `Binary64.isDouble_intCast` — whole numbers up to `2 ^ 53` are of the format.
* `Binary64.abs_sub_round_le_of_le` — how far a number is rounded.
-/

namespace Binary64

/-- The nearest whole number, the even one in the middle between two. -/
def nearestInt (q : ℚ) : ℤ :=
  if Int.fract q < 1 / 2 ∨ Int.fract q = 1 / 2 ∧ ⌊q⌋ % 2 = 0 then ⌊q⌋ else ⌊q⌋ + 1

/-- The exponent of the last bit that is kept of a number. -/
def exponent (q : ℚ) : ℤ := max (Int.log 2 |q| - 52) (-1074)

/-- Rounding to nearest, ties to even. -/
def round (q : ℚ) : ℚ := nearestInt (q / 2 ^ exponent q) * 2 ^ exponent q

/-- A number of the format: a significand of 53 bits, and an exponent. -/
def IsDouble (q : ℚ) : Prop := ∃ m e : ℤ, |m| ≤ 2 ^ 53 ∧ -1074 ≤ e ∧ q = m * 2 ^ e

variable {q x : ℚ} {k : ℤ}

/-! ## Whole numbers -/

/-- A number is at most a half away from the nearest whole one. -/
lemma abs_sub_nearestInt_le_half (q : ℚ) : |q - nearestInt q| ≤ 1 / 2 := by
  have hfloor := Int.self_sub_floor q
  have hnonneg := Int.fract_nonneg q
  have hlt := Int.fract_lt_one q
  unfold nearestInt
  split_ifs with h
  · have hle : Int.fract q ≤ 1 / 2 := h.elim le_of_lt fun h => h.1.le
    rw [hfloor, abs_of_nonneg hnonneg]
    exact hle
  · have hge : 1 / 2 ≤ Int.fract q := not_lt.1 fun hlt => h (.inl hlt)
    push_cast
    rw [abs_le]
    constructor <;> linarith

/-- No whole number is nearer. -/
lemma abs_sub_nearestInt_le (q : ℚ) (n : ℤ) : |q - nearestInt q| ≤ |q - n| := by
  by_cases h : n = nearestInt q
  · rw [h]
  · -- Two whole numbers are at least one apart.
    have hone : (1 : ℚ) ≤ |(n : ℚ) - nearestInt q| := by
      exact_mod_cast Int.one_le_abs (sub_ne_zero.2 h)
    have htriangle := abs_sub_le (n : ℚ) q (nearestInt q)
    have hhalf := abs_sub_nearestInt_le_half q
    rw [abs_sub_comm (n : ℚ) q] at htriangle
    linarith

/-- A bound on a number, if it is whole, is one on the nearest whole number. -/
lemma abs_nearestInt_le {n : ℤ} (h : |q| < n) : |nearestInt q| ≤ n := by
  have hhalf := abs_sub_nearestInt_le_half q
  have hsub := abs_sub_abs_le_abs_sub (nearestInt q : ℚ) q
  rw [abs_sub_comm] at hsub
  have hlt : ((|nearestInt q| : ℤ) : ℚ) < ((n + 1 : ℤ) : ℚ) := by
    push_cast
    linarith
  exact Int.lt_add_one_iff.1 (by exact_mod_cast hlt)

/-! ## Rounding -/

/-- The unit in the last place is positive. -/
lemma unit_pos (q : ℚ) : (0 : ℚ) < 2 ^ exponent q := zpow_pos two_pos _

/-- A number has at most 53 bits above its last place. -/
lemma abs_lt_unit (q : ℚ) : |q| < 2 ^ 53 * 2 ^ exponent q := by
  have hle : Int.log 2 |q| + 1 ≤ exponent q + 53 := by
    have := le_max_left (Int.log 2 |q| - 52) (-1074)
    unfold exponent
    omega
  calc |q| < (2 : ℚ) ^ (Int.log 2 |q| + 1) := by
        exact_mod_cast Int.lt_zpow_succ_log_self one_lt_two |q|
    _ ≤ 2 ^ (exponent q + 53) := zpow_le_zpow_right₀ one_le_two hle
    _ = 2 ^ 53 * 2 ^ exponent q := by
        rw [zpow_add₀ two_ne_zero, mul_comm]
        rfl

/-- A rounded number is of the format. -/
lemma isDouble_round (q : ℚ) : IsDouble (round q) := by
  refine ⟨nearestInt (q / 2 ^ exponent q), exponent q, ?_, le_max_right _ _, rfl⟩
  refine abs_nearestInt_le ?_
  rw [abs_div, abs_of_pos (unit_pos q), div_lt_iff₀ (unit_pos q)]
  exact_mod_cast abs_lt_unit q

/-- What a multiple of the unit is away from a number, in units. -/
lemma abs_sub_mul_unit (q : ℚ) (n : ℤ) :
    |q - n * 2 ^ exponent q| = |q / 2 ^ exponent q - n| * 2 ^ exponent q := by
  have hunit := unit_pos q
  calc |q - n * 2 ^ exponent q| = |(q / 2 ^ exponent q - n) * 2 ^ exponent q| := by
        rw [sub_mul, div_mul_cancel₀ _ hunit.ne']
    _ = |q / 2 ^ exponent q - n| * 2 ^ exponent q := by rw [abs_mul, abs_of_pos hunit]

/-- A number is rounded by at most half a unit. -/
lemma abs_sub_round_le_half (q : ℚ) : |q - round q| ≤ 2 ^ exponent q / 2 := by
  have hhalf := abs_sub_nearestInt_le_half (q / 2 ^ exponent q)
  rw [round, abs_sub_mul_unit]
  linarith [mul_le_mul_of_nonneg_right hhalf (unit_pos q).le]

/-- No multiple of the unit is nearer than the rounded number. -/
lemma abs_sub_round_le_mul (q : ℚ) (n : ℤ) : |q - round q| ≤ |q - n * 2 ^ exponent q| := by
  rw [round, abs_sub_mul_unit, abs_sub_mul_unit]
  exact mul_le_mul_of_nonneg_right (abs_sub_nearestInt_le _ _) (unit_pos q).le

/-- A number of the format is a multiple of the unit of another one, or it has a finer unit and the
other one more digits. -/
lemma IsDouble.multiple_or_le (hx : IsDouble x) (hq : q ≠ 0) :
    (∃ n : ℤ, x = n * 2 ^ exponent q) ∨
      |x| ≤ 2 ^ 52 * 2 ^ exponent q ∧ 2 ^ 52 * 2 ^ exponent q ≤ |q| := by
  obtain ⟨m, e, hm, he, rfl⟩ := hx
  by_cases hle : exponent q ≤ e
  · obtain ⟨d, hd⟩ := Int.eq_ofNat_of_zero_le (sub_nonneg.2 hle)
    refine .inl ⟨m * 2 ^ d, ?_⟩
    rw [show e = d + exponent q by omega, zpow_add₀ two_ne_zero, zpow_natCast]
    push_cast
    ring
  · -- The exponent is not the least, so it is given by the leading bit.
    have hexp : exponent q = Int.log 2 |q| - 52 := by
      unfold exponent at hle ⊢
      omega
    refine .inr ⟨?_, ?_⟩
    · have hunit : (2 : ℚ) ^ (e + 1) ≤ 2 ^ exponent q := zpow_le_zpow_right₀ one_le_two (by omega)
      have hmq : |(m : ℚ)| ≤ 2 ^ 53 := by exact_mod_cast hm
      have hpos : (0 : ℚ) < 2 ^ e := zpow_pos two_pos _
      rw [zpow_add_one₀ two_ne_zero] at hunit
      calc |(m : ℚ) * 2 ^ e| = |(m : ℚ)| * 2 ^ e := by rw [abs_mul, abs_of_pos hpos]
        _ ≤ 2 ^ 53 * 2 ^ e := mul_le_mul_of_nonneg_right hmq hpos.le
        _ = 2 ^ 52 * (2 ^ e * 2) := by ring
        _ ≤ 2 ^ 52 * 2 ^ exponent q := mul_le_mul_of_nonneg_left hunit (by norm_num)
    · calc (2 : ℚ) ^ 52 * 2 ^ exponent q = 2 ^ Int.log 2 |q| := by
            rw [hexp, zpow_sub₀ two_ne_zero]
            field_simp
        _ ≤ |q| := by exact_mod_cast Int.zpow_log_le_self one_lt_two (abs_pos.2 hq)

/-- Zero is kept. -/
lemma round_zero : round 0 = 0 := by simp [round, nearestInt]

/-- **No number of the format is nearer** than the rounded one. -/
theorem abs_sub_round_le (q : ℚ) (hx : IsDouble x) : |q - round q| ≤ |q - x| := by
  rcases eq_or_ne q 0 with rfl | hq
  · simp [round_zero]
  · rcases hx.multiple_or_le hq with ⟨n, rfl⟩ | ⟨hxle, hqge⟩
    · exact abs_sub_round_le_mul q n
    · -- The smallest number with the unit lies between the two.
      have hbetween : |q - round q| ≤ |q| - 2 ^ 52 * 2 ^ exponent q := by
        have hcast : (((2 : ℤ) ^ 52 : ℤ) : ℚ) = 2 ^ 52 := by norm_num
        rcases le_total 0 q with hsign | hsign
        · have hmul := abs_sub_round_le_mul q (2 ^ 52)
          rw [abs_of_nonneg hsign] at hqge ⊢
          rwa [hcast, abs_of_nonneg (sub_nonneg.2 hqge)] at hmul
        · have hmul := abs_sub_round_le_mul q (-2 ^ 52)
          rw [abs_of_nonpos hsign] at hqge ⊢
          have hside : q - -2 ^ 52 * 2 ^ exponent q ≤ 0 := by linarith
          rw [Int.cast_neg, hcast, abs_of_nonpos hside] at hmul
          linarith
      linarith [abs_sub_abs_le_abs_sub q x]

/-- **Rounding skips no number of the format** below, -/
theorem le_round (hx : IsDouble x) (h : x ≤ q) : x ≤ round q := by
  by_contra hlt
  have hnear := abs_sub_round_le q hx
  rw [abs_of_nonneg (sub_nonneg.2 h), abs_of_nonneg (by linarith)] at hnear
  linarith

/-- and none above. -/
theorem round_le (hx : IsDouble x) (h : q ≤ x) : round q ≤ x := by
  by_contra hlt
  have hnear := abs_sub_round_le q hx
  rw [abs_of_nonpos (sub_nonpos.2 h), abs_of_nonpos (by linarith)] at hnear
  linarith

/-- A number of the format is kept. -/
lemma round_of_isDouble (hx : IsDouble x) : round x = x :=
  le_antisymm (round_le hx le_rfl) (le_round hx le_rfl)

/-- Whole numbers up to `2 ^ 53` are of the format. -/
lemma isDouble_intCast {z : ℤ} (h : |z| ≤ 2 ^ 53) : IsDouble z :=
  ⟨z, 0, h, by norm_num, by simp⟩

/-- Beyond them, there are only whole numbers in the format. -/
lemma IsDouble.exists_intCast (hx : IsDouble x) (h : 2 ^ 53 < |x|) : ∃ n : ℤ, x = n := by
  obtain ⟨m, e, hm, -, rfl⟩ := hx
  have he : 0 ≤ e := by
    by_contra hneg
    have hpow : (2 : ℚ) ^ e ≤ 1 := zpow_le_one_of_nonpos₀ one_le_two (by omega)
    have hmq : |(m : ℚ)| ≤ 2 ^ 53 := by exact_mod_cast hm
    rw [abs_mul, abs_of_pos (zpow_pos (two_pos : (0 : ℚ) < 2) e)] at h
    exact absurd h ((mul_le_of_le_one_right (abs_nonneg _) hpow).trans hmq).not_gt
  obtain ⟨d, rfl⟩ := Int.eq_ofNat_of_zero_le he
  exact ⟨m * 2 ^ d, by push_cast; rw [zpow_natCast]⟩

/-- A whole number is rounded to a whole number. -/
lemma exists_round_intCast (z : ℤ) : ∃ n : ℤ, round z = n := by
  rcases lt_or_ge ((2 : ℚ) ^ 53) |round z| with hlarge | hsmall
  · exact (isDouble_round z).exists_intCast hlarge
  · obtain ⟨hmin, hmax⟩ := abs_le.1 hsmall
    have hpow : IsDouble ((2 ^ 53 : ℤ) : ℚ) := isDouble_intCast (by norm_num)
    have hpow' : IsDouble ((-2 ^ 53 : ℤ) : ℚ) := isDouble_intCast (by norm_num)
    by_cases habs : |z| ≤ 2 ^ 53
    · exact ⟨z, round_of_isDouble (isDouble_intCast habs)⟩
    · rcases lt_abs.1 (not_le.1 habs) with hlt | hlt
      · have hle := le_round (q := z) hpow (by exact_mod_cast hlt.le)
        push_cast at hle
        exact ⟨2 ^ 53, by push_cast; exact le_antisymm hmax hle⟩
      · have hge := round_le (q := z) hpow' (by exact_mod_cast (by omega : z ≤ -2 ^ 53))
        push_cast at hge
        exact ⟨-2 ^ 53, by push_cast; exact le_antisymm hge hmin⟩

/-- **How far a number is rounded**, if its exponent is not the least: by a 53rd bit. -/
theorem abs_sub_round_le_of_le (hk : -1022 ≤ k) (h : |q| ≤ 2 ^ k) :
    |q - round q| ≤ 2 ^ (k - 53) := by
  rcases eq_or_ne q 0 with rfl | hq
  · rw [round_zero, sub_zero, abs_zero]
    exact (zpow_pos two_pos _).le
  have hlog : Int.log 2 |q| ≤ k := by
    have hmono := Int.log_mono_right (b := 2) (abs_pos.2 hq) h
    have hpow := Int.log_zpow (R := ℚ) (b := 2) one_lt_two k
    push_cast at hpow
    omega
  have hexp : exponent q ≤ k - 52 := by
    unfold exponent
    omega
  have hunit : (2 : ℚ) ^ exponent q ≤ 2 ^ (k - 52) := zpow_le_zpow_right₀ one_le_two hexp
  have hhalf := abs_sub_round_le_half q
  have hsplit : (2 : ℚ) ^ (k - 52) = 2 ^ (k - 53) * 2 := by
    rw [← zpow_add_one₀ two_ne_zero]
    congr 1
    omega
  linarith

end Binary64

/-- A finite number in double precision, by the rational that it denotes. -/
abbrev Binary64 := { q : ℚ // Binary64.round q = q }

namespace Binary64

/-- The number nearest to a rational. -/
def ofRat (q : ℚ) : Binary64 := ⟨round q, round_of_isDouble (isDouble_round q)⟩

instance (n : ℕ) : OfNat Binary64 n := ⟨ofRat n⟩

instance : Mul Binary64 := ⟨fun x y => ofRat (x * y)⟩

/-- The product is rounded. -/
lemma coe_mul (x y : Binary64) : ((x * y : Binary64) : ℚ) = round (x * y) := rfl

/-- A literal up to `2 ^ 53` denotes itself. -/
lemma coe_ofNat {n : ℕ} (h : n ≤ 2 ^ 53) : ((OfNat.ofNat n : Binary64) : ℚ) = n := by
  have hz : |(n : ℤ)| ≤ 2 ^ 53 := by
    rw [abs_of_nonneg (Int.natCast_nonneg n)]
    exact_mod_cast h
  have := round_of_isDouble (isDouble_intCast hz)
  exact_mod_cast this

end Binary64

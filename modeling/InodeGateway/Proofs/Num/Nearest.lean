import InodeGateway.Num
import Mathlib.Algebra.Order.Field.Power
import Mathlib.Tactic.FieldSimp
import Mathlib.Tactic.Linarith
import Mathlib.Tactic.Positivity
import Mathlib.Tactic.Ring

/-!
# Rounding to the nearest number

The finite numbers of double precision are the multiples of powers of two by whole numbers of 53
bits, where the powers are not too small.  Rounding measures in the unit that leaves 53 bits before
the point and takes the whole number next to the measure.  Numbers with a finer unit lie below all
of that, so that none of them is nearer.

## Main definitions

* `Num.IsDouble` — a finite number of double precision, but for the bound on its size

## Main statements

* `Num.roundQuotient_error` — a quotient is rounded by at most one half
* `Num.binaryOrder_bounds` — the powers of two around a quotient
* `Num.ofRat_nearest` — no number of double precision is nearer than the one that is taken
* `Num.toNatUpTo?_ofNat` — rounding brings no other number to where whole numbers are exact
-/

namespace InodeGateway.Num

variable {num den : Nat} {q x y : ℚ}

/-- A whole number of 53 bits times a power of two. -/
def IsDouble (y : ℚ) : Prop :=
  ∃ m e : ℤ, |m| < 2 ^ 53 ∧ -1074 ≤ e ∧ y = m * 2 ^ e

theorem IsDouble.neg (h : IsDouble y) : IsDouble (-y) := by
  obtain ⟨m, e, hm, he, rfl⟩ := h
  exact ⟨-m, e, by rwa [abs_neg], he, by push_cast; ring⟩

/-- The greatest number of 53 bits may be exceeded by one: its double is half of it. -/
theorem isDouble_of_abs_le {m e : ℤ} (hm : |m| ≤ 2 ^ 53) (he : -1074 ≤ e) :
    IsDouble (m * 2 ^ e) := by
  rcases hm.lt_or_eq with hlt | heq
  · exact ⟨m, e, hlt, he, rfl⟩
  · obtain ⟨half, rfl⟩ : ∃ half, m = 2 * half := by
      rcases (abs_eq (by norm_num)).mp heq with rfl | rfl
      · exact ⟨2 ^ 52, by norm_num⟩
      · exact ⟨-2 ^ 52, by norm_num⟩
    rw [abs_mul, abs_two] at heq
    refine ⟨half, e + 1, by omega, by omega, ?_⟩
    rw [zpow_add_one₀ (by norm_num)]
    push_cast
    ring

section Measuring

/-- Scaling multiplies with the power of two. -/
theorem scale_eq (num : Nat) (hden : 0 < den) (e : ℤ) :
    0 < (scale num den e).2 ∧
      ((scale num den e).1 : ℚ) / (scale num den e).2 = num / den * 2 ^ e := by
  have nonzero : (den : ℚ) ≠ 0 := by exact_mod_cast hden.ne'
  cases e with
  | ofNat k =>
    refine ⟨hden, ?_⟩
    simp only [scale, Nat.pow_eq, Nat.cast_mul, Nat.cast_pow, Nat.cast_ofNat, Int.ofNat_eq_natCast,
      zpow_natCast]
    ring
  | negSucc k =>
    refine ⟨Nat.mul_pos hden (Nat.two_pow_pos _), ?_⟩
    simp only [scale, Nat.pow_eq, Nat.cast_mul, Nat.cast_pow, Nat.cast_ofNat, zpow_negSucc]
    field_simp

/-- A quotient is rounded by at most one half. -/
theorem roundQuotient_error (num : Nat) (hden : 0 < den) :
    |(roundQuotient num den : ℚ) - num / den| ≤ 1 / 2 := by
  have positive : (0 : ℚ) < den := by exact_mod_cast hden
  have whole : (num : ℚ) = den * (num / den : ℕ) + (num % den : ℕ) := by
    exact_mod_cast (Nat.div_add_mod num den).symm
  have measure : (num : ℚ) / den = (num / den : ℕ) + (num % den : ℕ) / den := by
    rw [whole, add_div, mul_div_cancel_left₀ _ positive.ne']
  have rest_nonneg : (0 : ℚ) ≤ (num % den : ℕ) / den := by positivity
  have rest_lt : ((num % den : ℕ) : ℚ) / den < 1 := by
    rw [div_lt_one positive]
    exact_mod_cast Nat.mod_lt num hden
  rw [measure, abs_le]
  unfold roundQuotient
  dsimp only
  split
  · next hless =>
    have half : ((num % den : ℕ) : ℚ) / den < 1 / 2 := by
      rw [div_lt_div_iff₀ positive (by norm_num)]
      exact_mod_cast (by omega : num % den * 2 < 1 * den)
    constructor <;> linarith
  · next hless =>
    have half : (1 : ℚ) / 2 ≤ ((num % den : ℕ) : ℚ) / den := by
      rw [div_le_div_iff₀ (by norm_num) positive]
      exact_mod_cast (by omega : 1 * den ≤ num % den * 2)
    split
    · push_cast
      constructor <;> linarith
    · next hmore =>
      have half' : ((num % den : ℕ) : ℚ) / den ≤ 1 / 2 := by
        rw [div_le_div_iff₀ positive (by norm_num)]
        exact_mod_cast (by omega : num % den * 2 ≤ 1 * den)
      split
      · constructor <;> linarith
      · push_cast
        constructor <;> linarith

/-- No whole number is nearer to a quotient than the one that it is rounded to. -/
theorem roundQuotient_nearest (num : Nat) (hden : 0 < den) (k : ℤ) :
    |(roundQuotient num den : ℚ) - num / den| ≤ |(k : ℚ) - num / den| := by
  have error := roundQuotient_error num hden
  by_cases same : (roundQuotient num den : ℤ) = k
  · rw [← same, Int.cast_natCast]
  · have apart : (1 : ℚ) ≤ |(roundQuotient num den : ℚ) - k| := by
      exact_mod_cast Int.one_le_abs (sub_ne_zero.mpr same)
    have triangle := abs_sub_le (roundQuotient num den : ℚ) (num / den) k
    rw [abs_sub_comm (num / den : ℚ) k] at triangle
    linarith

/-- A quotient is at least one in a unit if the unit is not greater than it. -/
theorem scale_neg_le_iff (num : Nat) (hden : 0 < den) (e : ℤ) :
    (scale num den (-e)).2 ≤ (scale num den (-e)).1 ↔ (2 : ℚ) ^ e ≤ num / den := by
  obtain ⟨hpos, heq⟩ := scale_eq num hden (-e)
  have positive : (0 : ℚ) < (scale num den (-e)).2 := by exact_mod_cast hpos
  rw [← Nat.cast_le (α := ℚ), ← one_le_div positive, heq, zpow_neg, ← div_eq_mul_inv,
    one_le_div (by positivity)]

/-- A quotient lies between its order and twice that. -/
theorem binaryOrder_bounds (hnum : 0 < num) (hden : 0 < den) :
    (2 : ℚ) ^ binaryOrder num den ≤ num / den ∧
      (num : ℚ) / den < 2 ^ (binaryOrder num den + 1) := by
  have positive : (0 : ℚ) < den := by exact_mod_cast hden
  have num_ge : (2 : ℚ) ^ (num.log2 : ℤ) ≤ num := by
    exact_mod_cast Nat.log2_self_le hnum.ne'
  have num_lt : (num : ℚ) < 2 ^ (num.log2 + 1 : ℤ) := by exact_mod_cast Nat.lt_log2_self
  have den_ge : (2 : ℚ) ^ (den.log2 : ℤ) ≤ den := by
    exact_mod_cast Nat.log2_self_le hden.ne'
  have den_lt : (den : ℚ) < 2 ^ (den.log2 + 1 : ℤ) := by exact_mod_cast Nat.lt_log2_self
  -- The orders of the two parts leave two powers to choose from.
  have lower : (2 : ℚ) ^ ((num.log2 : ℤ) - den.log2 - 1) ≤ num / den := by
    rw [sub_sub, zpow_sub₀ (by norm_num)]
    exact div_le_div₀ (by positivity) num_ge positive den_lt.le
  have upper : (num : ℚ) / den < 2 ^ ((num.log2 : ℤ) - den.log2 + 1) := by
    rw [sub_add_eq_add_sub, zpow_sub₀ (by norm_num)]
    exact div_lt_div₀ num_lt den_ge (by positivity) (by positivity)
  have chosen := scale_neg_le_iff num hden ((num.log2 : ℤ) - den.log2)
  unfold binaryOrder
  dsimp only
  split
  · next hle => exact ⟨chosen.mp hle, upper⟩
  · next hle =>
    rw [chosen, not_le] at hle
    exact ⟨lower, by rwa [sub_add_cancel]⟩

end Measuring

section Rounding

/-- The unit in which a quotient is measured. -/
def roundingUnit (num den : Nat) : ℤ := Max.max (binaryOrder num den - 52) (-1074)

/-- What a quotient is rounded to is the rounded measure, counted in the unit again. -/
theorem roundPositive_eq (hden : 0 < den) (h : roundPositive num den = some x) :
    ∃ n d : Nat, 0 < d ∧ (n : ℚ) / d = num / den * 2 ^ (-roundingUnit num den) ∧
      x = roundQuotient n d * 2 ^ roundingUnit num den := by
  obtain ⟨hpos, hmeasure⟩ := scale_eq num hden (-roundingUnit num den)
  refine ⟨_, _, hpos, hmeasure, ?_⟩
  rw [roundPositive] at h
  dsimp only at h
  split at h
  · cases h
  · have counted := (scale_eq (roundQuotient (scale num den (-roundingUnit num den)).1
      (scale num den (-roundingUnit num den)).2) one_pos (roundingUnit num den)).2
    rw [Nat.cast_one, div_one] at counted
    rw [← counted, ← Option.some.inj h, Rat.mkRat_eq_div, Int.cast_natCast]
    rfl

section

variable (hnum : 0 < num) (hden : 0 < den) (h : roundPositive num den = some x)
include hden h

/-- No multiple of the unit is nearer. -/
theorem roundPositive_nearest_multiple (k : ℤ) :
    |x - num / den| ≤ |(k : ℚ) * 2 ^ roundingUnit num den - num / den| := by
  obtain ⟨n, d, hd, hmeasure, rfl⟩ := roundPositive_eq hden h
  have unit_pos : (0 : ℚ) < 2 ^ roundingUnit num den := by positivity
  have quotient : (num : ℚ) / den = n / d * 2 ^ roundingUnit num den := by
    rw [hmeasure, zpow_neg, mul_assoc, inv_mul_cancel₀ unit_pos.ne', mul_one]
  rw [quotient, ← sub_mul, ← sub_mul, abs_mul, abs_mul]
  exact mul_le_mul_of_nonneg_right (roundQuotient_nearest n hd k) (abs_nonneg _)

include hnum

theorem roundPositive_isDouble : IsDouble x := by
  obtain ⟨n, d, hd, hmeasure, rfl⟩ := roundPositive_eq hden h
  have le_unit : binaryOrder num den - 52 ≤ roundingUnit num den := le_max_left _ _
  have measure_lt : (n : ℚ) / d < 2 ^ 53 := by
    calc (n : ℚ) / d = num / den * 2 ^ (-roundingUnit num den) := hmeasure
      _ < 2 ^ (binaryOrder num den + 1) * 2 ^ (-roundingUnit num den) :=
        mul_lt_mul_of_pos_right (binaryOrder_bounds hnum hden).2 (by positivity)
      _ = 2 ^ (binaryOrder num den + 1 - roundingUnit num den) := by
        rw [← zpow_add₀ (by norm_num), sub_eq_add_neg]
      _ ≤ 2 ^ (53 : ℤ) := zpow_le_zpow_right₀ (by norm_num) (by omega)
      _ = 2 ^ 53 := by norm_num
  have error := (abs_le.mp (roundQuotient_error n hd)).2
  have bounded : (roundQuotient n d : ℚ) < (2 ^ 53 + 1 : ℕ) := by
    push_cast
    linarith
  rw [Nat.cast_lt] at bounded
  rw [← Int.cast_natCast]
  exact isDouble_of_abs_le (by rw [Nat.abs_cast]; omega) (le_max_right _ _)

/-- No number of double precision is nearer. -/
theorem roundPositive_nearest (hy : IsDouble y) : |x - num / den| ≤ |y - num / den| := by
  obtain ⟨m, e, hm, he, rfl⟩ := hy
  by_cases hle : roundingUnit num den ≤ e
  · obtain ⟨j, rfl⟩ := Int.le.dest hle
    have multiple : (m : ℚ) * 2 ^ (roundingUnit num den + j) =
        (m * 2 ^ j : ℤ) * 2 ^ roundingUnit num den := by
      rw [zpow_add₀ (by norm_num), zpow_natCast]
      push_cast
      ring
    rw [multiple]
    exact roundPositive_nearest_multiple hden h _
  · -- A finer unit is below the order of the quotient, which is a multiple of the unit itself.
    have unit_eq : roundingUnit num den = binaryOrder num den - 52 := by
      unfold roundingUnit at hle ⊢
      omega
    have order_le := (binaryOrder_bounds hnum hden).1
    have order_eq : (2 : ℚ) ^ binaryOrder num den = (2 ^ 52 : ℤ) * 2 ^ roundingUnit num den := by
      rw [unit_eq, zpow_sub₀ (by norm_num)]
      norm_num
      ring
    have below : (m : ℚ) * 2 ^ e ≤ 2 ^ binaryOrder num den := by
      have bits : (m : ℚ) ≤ 2 ^ 53 := by exact_mod_cast (le_abs_self m).trans hm.le
      calc (m : ℚ) * 2 ^ e ≤ 2 ^ 53 * 2 ^ e := mul_le_mul_of_nonneg_right bits (by positivity)
        _ = 2 ^ (53 + e) := by rw [zpow_add₀ (by norm_num)]; norm_num
        _ ≤ 2 ^ binaryOrder num den := zpow_le_zpow_right₀ (by norm_num) (by omega)
    have gap : |(2 : ℚ) ^ binaryOrder num den - num / den| =
        num / den - 2 ^ binaryOrder num den := by
      rw [abs_sub_comm, abs_of_nonneg (sub_nonneg.mpr order_le)]
    have nearest := roundPositive_nearest_multiple hden h (2 ^ 52)
    rw [← order_eq, gap] at nearest
    have further := neg_abs_le ((m : ℚ) * 2 ^ e - num / den)
    linarith

end

/-- What a number is rounded to is of double precision, and nothing of double precision is
nearer. -/
theorem ofRat_nearest (h : ofRat q = .fin x) :
    IsDouble x ∧ ∀ y, IsDouble y → |x - q| ≤ |y - q| := by
  rw [ofRat] at h
  split at h
  · next whole =>
    obtain rfl : q = x := fin.inj h
    refine ⟨?_, fun y _ => ?_⟩
    · have exact_one : q = q.num * 2 ^ (0 : ℤ) := by
        rw [zpow_zero, mul_one, Rat.coe_int_num_of_den_eq_one whole.1]
      rw [exact_one]
      exact isDouble_of_abs_le (by rw [Int.abs_eq_natAbs]; exact_mod_cast whole.2) (by norm_num)
    · rw [sub_self, abs_zero]
      exact abs_nonneg _
  · next rounded =>
    have nonzero : q.num ≠ 0 := by
      intro hzero
      rw [Rat.num_eq_zero.mp hzero] at rounded
      exact rounded (by decide)
    have hnum : 0 < q.num.natAbs := Int.natAbs_pos.mpr nonzero
    split at h
    · cases h
    · next r hr =>
      have double := roundPositive_isDouble hnum q.den_pos hr
      have nearest := fun y hy => roundPositive_nearest (y := y) hnum q.den_pos hr hy
      have parts := Rat.num_div_den q
      obtain rfl := fin.inj h
      by_cases negative : q.num < 0
      · have size : (q.num.natAbs : ℚ) / q.den = -q := by
          rw [Nat.cast_natAbs, abs_of_neg negative, Int.cast_neg, neg_div, parts]
        rw [if_pos negative]
        refine ⟨double.neg, fun y hy => ?_⟩
        have mirrored := nearest (-y) hy.neg
        rw [size] at mirrored
        rw [← abs_neg, ← abs_neg (y - q)]
        convert mirrored using 2 <;> ring
      · have size : (q.num.natAbs : ℚ) / q.den = q := by
          rw [Nat.cast_natAbs, abs_of_nonneg (not_lt.mp negative), parts]
        rw [if_neg negative]
        rw [size] at nearest
        exact ⟨double, nearest⟩

end Rounding

section Whole

/-- Nothing is rounded past a number of double precision. -/
theorem le_of_isDouble (hy : IsDouble y) (hle : y ≤ q) (h : ofRat q = .fin x) : y ≤ x := by
  have nearest := (ofRat_nearest h).2 y hy
  rw [abs_sub_comm y, abs_of_nonneg (sub_nonneg.mpr hle), abs_sub_comm] at nearest
  have away := le_abs_self (q - x)
  linarith

theorem isDouble_exactLimit : IsDouble (exactLimit : ℚ) :=
  ⟨1, 53, by norm_num, by norm_num, by norm_num [exactLimit]⟩

/-- Below the limit to which whole numbers are exact, a natural number is told from all others after
it was rounded. -/
theorem toNatUpTo?_ofNat {limit : Nat} (hlimit : limit < exactLimit) (n : Nat) :
    (ofNat n).toNatUpTo? limit = if n ≤ limit then some n else none := by
  rw [ofNat, ofInt]
  rcases Nat.le_total n exactLimit with small | large
  · rw [ofRat_intCast (by rwa [Int.natAbs_natCast]), toNatUpTo?]
    simp
  · have beyond : ¬ n ≤ limit := by omega
    rw [if_neg beyond]
    cases h : ofRat (n : ℤ) with
    | nan => rfl
    | infinity negative => rfl
    | fin x =>
      -- The limit itself is of double precision, so that what lies above it stays there.
      have above : (exactLimit : ℚ) ≤ x :=
        le_of_isDouble isDouble_exactLimit (by exact_mod_cast large) h
      rw [toNatUpTo?, if_neg]
      rintro ⟨whole, -, hle⟩
      rw [← Rat.coe_int_num_of_den_eq_one whole] at above
      have bound : (exactLimit : ℤ) ≤ x.num := by exact_mod_cast above
      omega

end Whole

end InodeGateway.Num

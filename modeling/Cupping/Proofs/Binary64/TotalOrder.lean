import Cupping.Binary64.Order
import Cupping.Proofs.Binary64.Whole

/-!
The two orders of doubles. The total order of bit patterns goes up with the numbers that they stand
for, so that it agrees with numeric comparison on all that are numbers, infinities included; the
larger and the smaller of two doubles are what numeric comparison makes them.
-/

namespace Cupping.Binary64

open Float.Model (UnpackedFloat)
open Float.Model.UnpackedFloat

/-- The magnitude of a bit pattern without its sign, counted in the least one. -/
def places (pattern : ℕ) : ℕ :=
  if pattern / 2 ^ 52 = 0 then pattern % 2 ^ 52
  else (2 ^ 52 + pattern % 2 ^ 52) * 2 ^ (pattern / 2 ^ 52 - 1)

/-- A larger exponent field has the larger magnitude, whatever the fractions are. -/
theorem places_lt_of_field {m n : ℕ} (less : m / 2 ^ 52 < n / 2 ^ 52) : places m < places n := by
  have fraction : m % 2 ^ 52 < 2 ^ 52 := Nat.mod_lt _ (by norm_num)
  have nonzero : n / 2 ^ 52 ≠ 0 := Nat.ne_of_gt (Nat.zero_lt_of_lt less)
  have step : m / 2 ^ 52 ≤ n / 2 ^ 52 - 1 := by omega
  have upper : places m < 2 ^ 52 * 2 ^ (m / 2 ^ 52) := by
    unfold places
    split
    · rename_i zero
      rwa [zero, pow_zero, mul_one]
    · rename_i field
      have double : (2 : ℕ) ^ 52 * 2 ^ (m / 2 ^ 52) = 2 ^ 53 * 2 ^ (m / 2 ^ 52 - 1) := by
        rw [← pow_add, ← pow_add]
        congr 1
        omega
      rw [double]
      exact Nat.mul_lt_mul_of_pos_right (by omega) (Nat.two_pow_pos _)
  calc places m < 2 ^ 52 * 2 ^ (m / 2 ^ 52) := upper
    _ ≤ 2 ^ 52 * 2 ^ (n / 2 ^ 52 - 1) :=
      Nat.mul_le_mul_left _ (Nat.pow_le_pow_right (by norm_num) step)
    _ ≤ (2 ^ 52 + n % 2 ^ 52) * 2 ^ (n / 2 ^ 52 - 1) :=
      Nat.mul_le_mul_right _ (Nat.le_add_right _ _)
    _ = places n := by rw [places, if_neg nonzero]

theorem places_mono : Monotone places := by
  intro m n le
  rcases (Nat.div_le_div_right le).lt_or_eq with less | same
  · exact (places_lt_of_field less).le
  · have fractions : m % 2 ^ 52 ≤ n % 2 ^ 52 := by omega
    unfold places
    rw [same]
    split
    · exact fractions
    · exact Nat.mul_le_mul_right _ (Nat.add_le_add_left fractions _)

variable {x y : Float}

/-- A number is its magnitude with its sign. -/
theorem value_eq_places (number : x.isNaN = false) :
    value x = unit (signOf x) * (places (x.toBits.toNat % 2 ^ 63) * 2 ^ (-1074 : ℤ)) := by
  rw [(value_eq_dyadic number).2]
  have field : exponentField x = x.toBits.toNat % 2 ^ 63 / 2 ^ 52 := by
    simp only [exponentField, Nat.pow_eq]
    omega
  have fraction : fractionField x = x.toBits.toNat % 2 ^ 63 % 2 ^ 52 := by
    simp only [fractionField, Nat.pow_eq]
    omega
  have magnitude : ((dyadic x).significand : ℚ) * 2 ^ (dyadic x).exponent =
      places (x.toBits.toNat % 2 ^ 63) * 2 ^ (-1074 : ℤ) := by
    rw [dyadic, places, ← field, ← fraction]
    split
    · rfl
    · rename_i nonzero
      have exponent : (exponentField x : ℤ) - 1075 = (exponentField x - 1 : ℕ) + -1074 := by omega
      rw [exponent, zpow_add₀ (by norm_num), zpow_natCast, ← mul_assoc, Nat.cast_mul, Nat.cast_pow,
        Nat.cast_ofNat, Nat.pow_eq]
  rw [magnitude]

theorem value_of_positive (number : x.isNaN = false) (positive : x.toBits.toNat < 2 ^ 63) :
    value x = places x.toBits.toNat * 2 ^ (-1074 : ℤ) := by
  have sign : signOf x = .positive := by
    rw [signOf, isNegative, if_neg]
    simpa using positive
  rw [value_eq_places number, sign, Nat.mod_eq_of_lt positive, unit]
  simp

theorem value_of_negative (number : x.isNaN = false) (negative : 2 ^ 63 ≤ x.toBits.toNat) :
    value x = -(places (x.toBits.toNat - 2 ^ 63) * 2 ^ (-1074 : ℤ)) := by
  have sign : signOf x = .negative := by
    rw [signOf, isNegative, if_pos]
    simpa using negative
  have bound : x.toBits.toNat < 2 ^ 64 := x.toBits.toNat_lt
  have magnitude : x.toBits.toNat % 2 ^ 63 = x.toBits.toNat - 2 ^ 63 := by omega
  rw [value_eq_places number, sign, magnitude, unit]
  simp

theorem places_le {m n : ℕ} (le : m ≤ n) :
    (places m : ℚ) * 2 ^ (-1074 : ℤ) ≤ places n * 2 ^ (-1074 : ℤ) :=
  mul_le_mul_of_nonneg_right (Nat.cast_le.mpr (places_mono le)) (two_zpow_pos _).le

theorem places_nonneg (n : ℕ) : (0 : ℚ) ≤ places n * 2 ^ (-1074 : ℤ) :=
  mul_nonneg (Nat.cast_nonneg _) (two_zpow_pos _).le

/-- Of two numbers the one that comes first in the total order is not the larger one. -/
theorem le_of_totalLe (number : x.isNaN = false) (another : y.isNaN = false)
    (before : totalLe x y = true) : x ≤ y := by
  rw [le_iff_value number another]
  simp only [totalLe, rank, decide_eq_true_eq, Nat.pow_eq] at before
  by_cases first : x.toBits.toNat < 2 ^ 63
  · rw [if_pos first] at before
    by_cases second : y.toBits.toNat < 2 ^ 63
    · rw [if_pos second] at before
      rw [value_of_positive number first, value_of_positive another second]
      exact places_le (by exact_mod_cast before)
    · -- What is not negative does not come before what is.
      rw [if_neg second] at before
      omega
  · rw [if_neg first] at before
    rw [value_of_negative number (not_lt.mp first)]
    by_cases second : y.toBits.toNat < 2 ^ 63
    · rw [value_of_positive another second]
      exact (neg_nonpos.mpr (places_nonneg _)).trans (places_nonneg _)
    · rw [if_neg second] at before
      rw [value_of_negative another (not_lt.mp second)]
      exact neg_le_neg (places_le (by omega))

/-- Numbers are numerically equal if they stand for the same. -/
theorem beq_iff_value (number : x.isNaN = false) (another : y.isNaN = false) :
    (x == y) = true ↔ value x = value y := by
  change (x.toModel.unpack.compare y.toModel.unpack == some .eq) = true ↔ _
  rw [compare_value number another, beq_iff_eq, Option.some.injEq, compare_eq_iff_eq]

/-! What lies below what, in numeric comparison. -/

variable {z : Float}

theorem le_self (number : x.isNaN = false) : x ≤ x :=
  (le_iff_value number number).mpr le_rfl

theorem le_of_le_of_le (first : x ≤ y) (second : y ≤ z) : x ≤ z := by
  rw [le_iff_value (isNaN_of_le first).1 (isNaN_of_le second).2]
  exact (value_le_of_le first).trans (value_le_of_le second)

theorem le_of_not_lt (number : x.isNaN = false) (another : y.isNaN = false) (not : ¬ x < y) :
    y ≤ x := by
  rw [lt_iff_value number another, not_lt] at not
  exact (le_iff_value another number).mpr not

theorem isNaN_of_isFinite (finite : x.isFinite = true) : x.isNaN = false :=
  (isFinite_iff.mp finite).1

/-- The larger of two doubles is at least the second one. -/
theorem le_larger (x : Float) (number : y.isNaN = false) : y ≤ larger x y := by
  unfold larger
  split
  · exact le_self number
  · rename_i another
    rw [number, if_neg Bool.false_ne_true]
    split
    · exact le_self number
    · rename_i not
      exact le_of_not_lt (Bool.not_eq_true _ ▸ another) number not

/-- The larger of two numbers is at least the first one. -/
theorem self_le_larger (number : x.isNaN = false) (another : y.isNaN = false) :
    x ≤ larger x y := by
  rw [larger, number, another, if_neg Bool.false_ne_true, if_neg Bool.false_ne_true]
  split
  · rename_i less
    rw [lt_iff_value number another] at less
    exact (le_iff_value number another).mpr less.le
  · exact le_self number

/-- The smaller of two doubles is at most the second one, and at least what both are. -/
theorem smaller_le (x : Float) (number : y.isNaN = false) : smaller x y ≤ y := by
  unfold smaller
  split
  · exact le_self number
  · rename_i another
    rw [number, if_neg Bool.false_ne_true]
    split
    · exact le_self number
    · rename_i not
      exact le_of_not_lt number (Bool.not_eq_true _ ▸ another) not

theorem le_smaller (first : z ≤ x) (second : z ≤ y) : z ≤ smaller x y := by
  unfold smaller
  split
  · exact second
  · split
    · exact first
    · split
      · exact second
      · exact first

/-- The smaller of two numbers is at most the first one. -/
theorem smaller_le_self (number : x.isNaN = false) (another : y.isNaN = false) :
    smaller x y ≤ x := by
  rw [smaller, number, another, if_neg Bool.false_ne_true, if_neg Bool.false_ne_true]
  split
  · rename_i less
    rw [lt_iff_value another number] at less
    exact (le_iff_value another number).mpr less.le
  · exact le_self number

/-- What is not larger from either side is numerically the same. -/
theorem beq_of_le_of_le (below : x ≤ y) (above : y ≤ x) : (x == y) = true := by
  obtain ⟨number, another⟩ := isNaN_of_le below
  apply (beq_iff_value number another).mpr
  exact le_antisymm (value_le_of_le below) (value_le_of_le above)

section Running

variable {start : Float} {values : List Float}

/-- A running maximum is not below its start, nor below any of the numbers. -/
theorem le_foldl_larger (number : start.isNaN = false)
    (numbers : ∀ value ∈ values, value.isNaN = false) :
    start ≤ values.foldl larger start ∧ ∀ value ∈ values, value ≤ values.foldl larger start := by
  induction values generalizing start with
  | nil => exact ⟨le_self number, nofun⟩
  | cons first rest ih =>
    obtain ⟨another, others⟩ := List.forall_mem_cons.mp numbers
    have step := self_le_larger number another
    obtain ⟨lower, upper⟩ := ih (isNaN_of_le step).2 others
    refine ⟨le_of_le_of_le step lower, List.forall_mem_cons.mpr ⟨?_, upper⟩⟩
    exact le_of_le_of_le (le_larger start another) lower

/-- A running minimum is not above its start, nor above any of the numbers. -/
theorem foldl_smaller_le (number : start.isNaN = false)
    (numbers : ∀ value ∈ values, value.isNaN = false) :
    values.foldl smaller start ≤ start ∧
      ∀ value ∈ values, values.foldl smaller start ≤ value := by
  induction values generalizing start with
  | nil => exact ⟨le_self number, nofun⟩
  | cons first rest ih =>
    obtain ⟨another, others⟩ := List.forall_mem_cons.mp numbers
    have step := smaller_le_self number another
    obtain ⟨upper, lower⟩ := ih (isNaN_of_le step).1 others
    refine ⟨le_of_le_of_le upper step, List.forall_mem_cons.mpr ⟨?_, lower⟩⟩
    exact le_of_le_of_le upper (smaller_le start another)

end Running

/-- What lies between finite doubles is finite. -/
theorem isFinite_of_mem (lower : x ≤ y) (upper : y ≤ z) (finite : x.isFinite = true)
    (bounded : z.isFinite = true) : y.isFinite = true := by
  have below := (abs_lt.mp (isFinite_iff.mp finite).2).1
  have above := (abs_lt.mp (isFinite_iff.mp bounded).2).2
  have first := value_le_of_le lower
  have second := value_le_of_le upper
  exact isFinite_iff.mpr ⟨(isNaN_of_le lower).2, abs_lt.mpr ⟨by linarith, by linarith⟩⟩

end Cupping.Binary64

import Cupping.Proofs.Binary64.Monotone
import Cupping.Proofs.Binary64.Size

/-!
Counts as doubles and back. A natural number of any size is rounded when it becomes a double; a
double that becomes a 64-bit number loses its fraction, and nothing else as long as it fits.
-/

namespace Cupping.Binary64

open Float.Model (UnpackedFloat Format)
open Float.Model.UnpackedFloat

variable {n : ℕ} {x : Float}

/-- Whatever its size, a natural number becomes the double that it is rounded to. -/
theorem rounds_natCast (n : ℕ) : Rounds n (Float.ofNat n) := by
  by_cases small : n < 2 ^ 53
  · exact rounds_ofNat small
  have positive : n ≠ 0 := by omega
  have significand : n <<< 53 * 10 ^ Int.toNat 0 = n * 2 ^ 53 := by
    rw [Nat.shiftLeft_eq, Int.toNat_zero, pow_zero, mul_one]
  have digits : 52 ≤ (n * 2 ^ 53).log2 := by
    rw [Nat.le_log2 (by omega)]
    omega
  have whole : ((n * 2 ^ 53 : ℕ) : ℚ) * 2 ^ (-53 + 0 : ℤ) = n := by
    rw [Nat.cast_mul, mul_assoc]
    norm_num
  have product : UnpackedFloat.ofScientific .binary64 n 0 =
      roundWithAccuracy .binary64 (.positive * .positive) (n <<< 53 * 10 ^ Int.toNat 0) (-53 + 0)
        .exact := by
    unfold UnpackedFloat.ofScientific
    rw [dif_neg positive, if_neg (by decide), if_neg (by simp), if_pos le_rfl]
    rfl
  have shows := (isRounded_roundWithAccuracy (.positive * .positive)
    (describes_exact (n * 2 ^ 53)) (.inl digits) (e := -53 + 0)).shows
      (by rw [whole]; exact Nat.cast_nonneg n)
  rw [whole, ← significand, ← product] at shows
  have converted : Float.ofNat n = ⟨Float.Model.ofScientific n 0⟩ := by
    change Float.ofScientific n false 0 = _
    rw [Float.ofScientific, dif_neg (fun both => small both.1)]
    rfl
  rw [converted]
  have sign : (unit (.positive * .positive) : ℚ) * n = n := by simp [unit]
  exact ⟨shows.number, sign ▸ shows.worth⟩

/-- Making a significand whole drops its fraction. -/
theorem roundToInt_eq (sign : Sign) (m : ℕ) (e : ℤ) :
    roundToInt sign m e = unit sign * ⌊(m * 2 ^ e : ℚ)⌋ := by
  have shifted := (describes_exact (m * 2 ^ (e - 0).toNat)).shiftRight
    (0 - (e - (e - 0).toNat)).toNat
  have same : ((m * 2 ^ (e - 0).toNat : ℕ) : ℚ) / 2 ^ (0 - (e - (e - 0).toNat)).toNat =
      m * 2 ^ e := by
    rw [Nat.cast_mul, Nat.cast_pow, Nat.cast_ofNat, mul_div_assoc, ← zpow_natCast, ← zpow_natCast,
      ← zpow_sub₀ (by norm_num)]
    congr 2
    omega
  have whole := shifted.whole
  rw [same] at whole
  simp only [roundToInt, decreaseExponent_eq, shiftToExponent, apply_eq]
  rw [whole]

/-- A double that is not negative loses its fraction when it becomes a 64-bit number. -/
theorem toNat_toUInt64 (finite : x.isFinite = true) (nonneg : 0 ≤ value x)
    (fits : value x < 2 ^ 64) : x.toUInt64.toNat = ⌊value x⌋₊ := by
  have whole : x.toModel.unpack.toInt 0 (UInt64.size - 1) = ⌊value x⌋ := by
    change x.toModel.unpack.isFinite = true at finite
    unfold value at nonneg ⊢
    cases parts : x.toModel.unpack with
    | infinity sign => rw [parts] at finite; cases finite
    | notANumber => rw [parts] at finite; cases finite
    | zero sign => exact Int.floor_zero.symm
    | finite sign m e positive =>
      rw [parts] at nonneg
      have magnitude := Fits.pos positive e
      cases sign with
      | negative =>
        rw [worth_negative] at nonneg
        linarith
      | positive =>
        rw [worth_positive, UnpackedFloat.toInt, roundToInt_eq, unit, one_mul]
  have small : ⌊value x⌋₊ < UInt64.size := (Nat.floor_lt nonneg).mpr (by exact_mod_cast fits)
  change (UInt64.ofNatClamp (x.toModel.unpack.toInt 0 (UInt64.size - 1)).toNat).toNat = _
  rw [whole, Int.floor_toNat, UInt64.ofNatClamp, dif_pos small, UInt64.toNat_ofNatLT]

/-- A 64-bit number becomes a finite double. -/
theorem isWithin_count (fits : n < 2 ^ 64) : IsWithin (2 ^ (64 : ℤ)) (Float.ofNat n) := by
  apply (rounds_natCast n).isWithin (isExact_two_zpow (by norm_num))
    (two_zpow_lt_limit (by norm_num))
  rw [Nat.abs_cast]
  exact_mod_cast fits.le

/-- A 64-bit number is far from the largest double, so that it is only rounded. -/
theorem value_count (fits : n < 2 ^ 64) : value (Float.ofNat n) = rounded n := by
  have size : |(n : ℚ)| ≤ 2 ^ (64 : ℤ) := by
    rw [Nat.abs_cast]
    exact_mod_cast fits.le
  exact (rounds_natCast n).value_eq_rounded (isExact_two_zpow (by norm_num))
    (two_zpow_lt_limit (by norm_num)) size

/-- No count but zero is rounded below one. -/
theorem one_le_value_count (positive : 0 < n) (fits : n < 2 ^ 64) : 1 ≤ value (Float.ofNat n) := by
  have one : IsExact 1 := isExact_two_zpow (e := 0) (by norm_num)
  have least : (1 : ℚ) ≤ n := by exact_mod_cast positive
  rw [value_count fits]
  calc (1 : ℚ) = rounded 1 := one.rounded.symm
    _ ≤ rounded n := rounded_mono least

/-- Two 64-bit numbers can become one double, but never change places. -/
theorem value_count_mono {m : ℕ} (le : m ≤ n) (fits : n < 2 ^ 64) :
    value (Float.ofNat m) ≤ value (Float.ofNat n) := by
  rw [value_count (le.trans_lt fits), value_count fits]
  exact rounded_mono (Nat.cast_le.mpr le)

end Cupping.Binary64

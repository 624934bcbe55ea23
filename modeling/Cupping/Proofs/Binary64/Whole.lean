import Cupping.Proofs.Binary64.Monotone

/-!
Rounding of doubles to whole numbers. It is exact: the whole number nearest to what a double stands
for, away from zero if there are two, is what the outcome stands for.
-/

namespace Cupping.Binary64

open Float.Model (UnpackedFloat)
open Float.Model.UnpackedFloat

/-- The nearest whole number; of two equally near ones the one away from zero. -/
def halfAway (q : ℚ) : ℤ :=
  if 0 ≤ q then ⌊q + 1 / 2⌋ else -⌊-q + 1 / 2⌋

theorem halfAway_of_nonneg {q : ℚ} (nonneg : 0 ≤ q) : halfAway q = ⌊q + 1 / 2⌋ :=
  if_pos nonneg

theorem halfAway_neg (q : ℚ) : halfAway (-q) = -halfAway q := by
  have half : ⌊(1 / 2 : ℚ)⌋ = 0 := by norm_num
  rcases lt_trichotomy q 0 with negative | rfl | positive
  · rw [halfAway, halfAway, if_pos (by linarith), if_neg (by linarith), neg_neg]
  · rw [neg_zero, halfAway, if_pos le_rfl, zero_add, half, neg_zero]
  · rw [halfAway, halfAway, if_neg (by linarith), if_pos positive.le, neg_neg]

theorem halfAway_nonneg {q : ℚ} (nonneg : 0 ≤ q) : 0 ≤ halfAway q := by
  rw [halfAway_of_nonneg nonneg, Int.le_floor]
  push_cast
  linarith

theorem halfAway_mono : Monotone halfAway := by
  intro p q le
  rcases le_or_gt 0 p with nonneg | negative
  · rw [halfAway_of_nonneg nonneg, halfAway_of_nonneg (nonneg.trans le)]
    exact Int.floor_le_floor (by linarith)
  · rcases le_or_gt 0 q with nonneg | below
    · have opposite := halfAway_nonneg (neg_nonneg.mpr negative.le)
      have upper := halfAway_nonneg nonneg
      rw [halfAway_neg] at opposite
      omega
    · rw [halfAway, halfAway, if_neg (by linarith), if_neg (by linarith), neg_le_neg_iff]
      exact Int.floor_le_floor (by linarith)

theorem halfAway_intCast (n : ℤ) : halfAway n = n := by
  have floor : ∀ m : ℤ, ⌊(m : ℚ) + 1 / 2⌋ = m := fun m => by
    rw [Int.floor_intCast_add]
    norm_num
  rcases le_or_gt 0 n with nonneg | negative
  · rw [halfAway, if_pos (by exact_mod_cast nonneg), floor]
  · rw [halfAway, if_neg (by exact_mod_cast not_le.mpr negative), ← Int.cast_neg, floor, neg_neg]

theorem abs_halfAway_sub_le (q : ℚ) : |halfAway q - q| ≤ 1 / 2 := by
  unfold halfAway
  split
  · have lower := Int.floor_le (q + 1 / 2)
    have upper := Int.lt_floor_add_one (q + 1 / 2)
    exact abs_le.mpr ⟨by linarith, by linarith⟩
  · have lower := Int.floor_le (-q + 1 / 2)
    have upper := Int.lt_floor_add_one (-q + 1 / 2)
    push_cast
    exact abs_le.mpr ⟨by linarith, by linarith⟩

/-- Numbers near a whole number are rounded to it. -/
theorem halfAway_eq {q : ℚ} {n : ℤ} (near : |q - n| < 1 / 2) : halfAway q = n := by
  obtain ⟨below, above⟩ := abs_lt.mp near
  unfold halfAway
  split
  · rw [Int.floor_eq_iff]
    constructor <;> linarith
  · rw [neg_eq_iff_eq_neg, Int.floor_eq_iff]
    push_cast
    constructor <;> linarith

/-! The fields of a bit pattern. -/

theorem toNat_unpackExponent (bits : BitVec 64) :
    (@unpackExponent .binary64 bits).toNat = bits.toNat / 2 ^ 52 % 2 ^ 11 := by
  simp [unpackExponent, Nat.shiftRight_eq_div_pow]

theorem toNat_unpackMantissa (bits : BitVec 64) :
    (@unpackMantissa .binary64 bits).toNat = bits.toNat % 2 ^ 52 := by
  simp [unpackMantissa]

theorem toNat_unpackSign (bits : BitVec 64) :
    (@unpackSign .binary64 bits).toNat = bits.toNat / 2 ^ 63 % 2 := by
  simp [unpackSign, Nat.shiftRight_eq_div_pow]

/-- The sign of a double, also of zero. -/
def signOf (x : Float) : Sign :=
  if isNegative x then .negative else .positive

variable {x : Float}

theorem ofBitVec_unpackSign (x : Float) :
    Sign.ofBitVec (@unpackSign .binary64 x.toModel.toBits.toBitVec) = signOf x := by
  have bound := x.toModel.toBits.toBitVec.isLt
  have bit := toNat_unpackSign x.toModel.toBits.toBitVec
  have top : isNegative x = decide (2 ^ 63 ≤ x.toModel.toBits.toBitVec.toNat) := rfl
  rw [signOf, top, Sign.ofBitVec]
  have zero : (0#1).toNat = 0 := rfl
  by_cases negative : 2 ^ 63 ≤ x.toModel.toBits.toBitVec.toNat
  · have set : @unpackSign .binary64 x.toModel.toBits.toBitVec ≠ 0#1 := by
      intro clear
      rw [clear] at bit
      omega
    rw [if_neg set, if_pos (decide_eq_true negative)]
  · have clear : @unpackSign .binary64 x.toModel.toBits.toBitVec = 0#1 := by
      refine BitVec.eq_of_toNat_eq ?_
      omega
    rw [if_pos clear, decide_eq_false negative, if_neg Bool.false_ne_true]

/-- The fields of a bit pattern are those of the exact value; those of an infinity are those of the
limit. -/
theorem value_eq_dyadic (number : x.isNaN = false) :
    (dyadic x).significand < 2 ^ 53 ∧
      value x = unit (signOf x) * ((dyadic x).significand * 2 ^ (dyadic x).exponent) := by
  change x.toModel.unpack.isNaN = false at number
  have parts : x.toModel.unpack = unpack .binary64 x.toModel.toBits.toBitVec := rfl
  have field : exponentField x = (@unpackExponent .binary64 x.toModel.toBits.toBitVec).toNat :=
    (toNat_unpackExponent _).symm
  have fraction : fractionField x = (@unpackMantissa .binary64 x.toModel.toBits.toBitVec).toNat :=
    (toNat_unpackMantissa _).symm
  unfold value
  rw [parts] at number ⊢
  rw [unpack_eq_ofFields, ofBitVec_unpackSign] at number ⊢
  unfold dyadic
  rw [field, fraction]
  generalize @unpackExponent .binary64 x.toModel.toBits.toBitVec = exponent at number ⊢
  generalize @unpackMantissa .binary64 x.toModel.toBits.toBitVec = significand at number ⊢
  have short : significand.toNat < 2 ^ 52 := significand.isLt
  unfold ofFields at number ⊢
  by_cases top : exponent = -1#11
  · rw [if_pos top] at number ⊢
    subst top
    by_cases nothing : significand = 0#52
    · subst nothing
      have field : (-1#11).toNat ≠ 0 := by decide
      have large : limit = ((Nat.pow 2 52 + (0#52).toNat : ℕ) : ℚ) * 2 ^ (972 : ℤ) := by
        have digits : limit = (2 : ℚ) ^ (52 : ℤ) * 2 ^ (972 : ℤ) := zpow_add₀ (by norm_num) 52 972
        rw [digits]
        norm_num
      rw [if_neg field, if_pos rfl, worth, large]
      exact ⟨by simp, rfl⟩
    · rw [if_neg nothing] at number
      cases number
  rw [if_neg top]
  by_cases bottom : exponent = 0#11
  · have zero : exponent.toNat = 0 := congrArg BitVec.toNat bottom
    rw [if_pos bottom, if_pos zero]
    refine ⟨by simp only; omega, ?_⟩
    split
    · rename_i nothing
      simp [nothing, worth]
    · rfl
  · have nonzero : exponent.toNat ≠ 0 := fun same => bottom (BitVec.eq_of_toNat_eq same)
    rw [if_neg bottom, if_neg nonzero]
    exact ⟨by simp only [Nat.pow_eq]; omega, rfl⟩

/-- Halves are added before the fraction is dropped. -/
theorem nearestWhole_eq {d : Dyadic} (negative : d.exponent < 0) :
    (d.nearestWhole : ℤ) = ⌊(d.significand * 2 ^ d.exponent : ℚ) + 1 / 2⌋ := by
  have size : (0 : ℚ) < 2 ^ (-d.exponent).toNat := by positivity
  have power : (2 : ℚ) ^ d.exponent = (2 ^ (-d.exponent).toNat)⁻¹ := by
    rw [← zpow_natCast, ← zpow_neg]
    congr 1
    omega
  have whole : (d.significand * 2 ^ d.exponent : ℚ) + 1 / 2 =
      ((2 * d.significand + 2 ^ (-d.exponent).toNat : ℕ) : ℚ) /
        (2 * 2 ^ (-d.exponent).toNat : ℕ) := by
    rw [power]
    push_cast
    field_simp
  rw [whole, Int.floor_div_natCast, Int.floor_natCast, Dyadic.nearestWhole,
    if_neg (not_le.mpr negative)]
  rfl

/-- A double whose exponent is not negative is whole. -/
theorem halfAway_of_nonneg_exponent (sign : Sign) (m : ℕ) {e : ℤ} (nonneg : 0 ≤ e) :
    (halfAway (unit sign * (m * 2 ^ e)) : ℚ) = unit sign * (m * 2 ^ e) := by
  obtain ⟨k, rfl⟩ := Int.eq_ofNat_of_zero_le nonneg
  have whole : (unit sign * (m * 2 ^ (k : ℤ)) : ℚ) = ((unit sign * (m * 2 ^ k) : ℤ) : ℚ) := by
    push_cast
    rfl
  rw [whole, halfAway_intCast]

theorem halfAway_unit_mul (sign : Sign) (q : ℚ) :
    halfAway (unit sign * q) = unit sign * halfAway q := by
  cases sign with
  | negative => simpa [unit] using halfAway_neg q
  | positive => simp [unit]

theorem value_withSign (negative : Bool) (magnitude : Float) :
    value (withSign negative magnitude) =
      unit (if negative then .negative else .positive) * value magnitude := by
  cases negative with
  | false => simp [withSign, unit]
  | true => simp [withSign, unit, value_neg]

theorem isFinite_withSign {magnitude : Float} (finite : magnitude.isFinite = true)
    (negative : Bool) : (withSign negative magnitude).isFinite = true := by
  cases negative with
  | false => exact finite
  | true =>
    obtain ⟨number, small⟩ := isFinite_iff.mp finite
    refine isFinite_iff.mpr ⟨(isNaN_neg magnitude).trans number, ?_⟩
    change |value (-magnitude)| < limit
    rwa [value_neg, abs_neg]

/-- A fraction has fewer whole parts than its significand has units. -/
theorem nearestWhole_lt {d : Dyadic} (negative : d.exponent < 0) (short : d.significand < 2 ^ 53) :
    d.nearestWhole < 2 ^ 53 := by
  have half : (d.significand * 2 ^ d.exponent : ℚ) ≤ 2 ^ 53 * (1 / 2) := by
    have small : (2 : ℚ) ^ d.exponent ≤ 2 ^ (-1 : ℤ) :=
      zpow_le_zpow_right₀ (by norm_num) (by omega)
    rw [zpow_neg_one] at small
    have bound : (d.significand : ℚ) ≤ 2 ^ 53 := by exact_mod_cast short.le
    rw [one_div]
    exact mul_le_mul bound small (two_zpow_pos _).le (by norm_num)
  have below : (d.nearestWhole : ℤ) < 2 ^ 53 := by
    rw [nearestWhole_eq negative, Int.floor_lt]
    push_cast
    linarith
  exact_mod_cast below

/-- Rounding a double to a whole number is exact. -/
theorem roundWhole_eq (finite : x.isFinite = true) :
    (roundWhole x).isFinite = true ∧ value (roundWhole x) = halfAway (value x) := by
  obtain ⟨short, exact⟩ := value_eq_dyadic (isFinite_iff.mp finite).1
  rw [roundWhole, exact]
  by_cases whole : 0 ≤ (dyadic x).exponent
  · rw [if_pos (by simp [whole]), halfAway_of_nonneg_exponent _ _ whole, ← exact]
    exact ⟨finite, rfl⟩
  · have fraction := not_le.mp whole
    have small := nearestWhole_lt fraction short
    have rounds := rounds_ofNat small
    have within := (Nat.abs_cast (R := ℚ) (dyadic x).nearestWhole).le
    have kept := rounds.value_eq (isExact_natCast small) (within.trans_lt (natCast_lt_limit small))
    have bounded := rounds.isFinite (isExact_natCast small) (natCast_lt_limit small) within
    have nonneg : (0 : ℚ) ≤ (dyadic x).significand * 2 ^ (dyadic x).exponent :=
      mul_nonneg (Nat.cast_nonneg _) (two_zpow_pos _).le
    rw [if_neg (by simp [whole, finite]), value_withSign, kept, halfAway_unit_mul,
      halfAway_of_nonneg nonneg, ← nearestWhole_eq fraction]
    refine ⟨isFinite_withSign bounded _, ?_⟩
    push_cast
    rfl

theorem computes_roundWhole : Computes roundWhole (fun q => (halfAway q : ℚ)) := by
  have kept : ∀ x : Float, x.isInf = true → roundWhole x = x := fun x infinite => by
    obtain ⟨sign, parts⟩ := exists_infinity infinite
    have unbounded : x.isFinite = false := by
      change x.toModel.unpack.isFinite = false
      rw [parts]
      rfl
    rw [roundWhole, if_pos (by simp [unbounded])]
  refine ⟨fun x finite => ?_, fun x infinite => ?_, fun x infinite => ?_⟩
  · obtain ⟨bounded, value⟩ := roundWhole_eq finite
    have exact := isExact_value bounded
    have small := (isFinite_iff.mp bounded).2
    rw [value] at exact small
    exact ⟨(isFinite_iff.mp bounded).1, value.trans (exact.saturated small).symm⟩
  · rw [kept x infinite]
    change x.toModel.unpack.isNaN = false
    obtain ⟨sign, parts⟩ := exists_infinity infinite
    rw [parts]
    rfl
  · rw [kept x infinite]

theorem roundWhole_mono {x y : Float} (le : x ≤ y) : roundWhole x ≤ roundWhole y :=
  computes_roundWhole.mono (fun _ _ ordered => Int.cast_le.mpr (halfAway_mono ordered)) le

end Cupping.Binary64

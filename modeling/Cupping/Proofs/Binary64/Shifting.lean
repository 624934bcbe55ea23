import Cupping.Proofs.Binary64.Value

/-!
Rounding of significands. Digits are shifted out of a significand one by one, and two bits keep
what matters about them; so the significand that remains is rounded like the number itself.
-/

namespace Cupping.Binary64

open Float.Model (UnpackedFloat Format totalExponent)
open Float.Model.UnpackedFloat

/-- Whether a significand and its two further bits tell what rounding has to know of a number. -/
structure Describes (extended : ExtendedMantissa) (q : ℚ) : Prop where
  whole : ⌊q⌋ = extended.mantissa
  round : extended.roundBit = true ↔ 1 / 2 ≤ Int.fract q
  sticky : extended.stickyBit = true ↔ Int.fract q ≠ 0 ∧ Int.fract q ≠ 1 / 2

theorem Describes.roundedMantissa {extended : ExtendedMantissa} {q : ℚ}
    (describes : Describes extended q) : (extended.roundedMantissa : ℤ) = nearestEven q := by
  obtain ⟨m, round, sticky⟩ := extended
  obtain ⟨whole, half, rest⟩ := describes
  have nonneg := Int.fract_nonneg q
  simp only at whole half rest
  rw [nearestEven, whole]
  cases round with
  | false =>
    have below : Int.fract q < 1 / 2 := by simpa using half
    rw [if_pos below]
    cases sticky <;> rfl
  | true =>
    have above : 1 / 2 ≤ Int.fract q := half.mp rfl
    rw [if_neg (not_lt.mpr above)]
    cases sticky with
    | false =>
      have even : Int.fract q = 1 / 2 := by
        by_contra other
        have := rest.mpr ⟨by linarith, other⟩
        cases this
      rw [if_neg (not_lt.mpr even.le)]
      rfl
    | true =>
      rw [if_pos (lt_of_le_of_ne above (rest.mp rfl).2.symm)]
      rfl

theorem fract_half (q : ℚ) : Int.fract (q / 2) = ((⌊q⌋ % 2 : ℤ) + Int.fract q) / 2 := by
  have parts := Int.floor_add_fract q
  have halves := Int.floor_add_fract (q / 2)
  have floor : ⌊q / 2⌋ = ⌊q⌋ / 2 := by exact_mod_cast Int.floor_div_natCast q 2
  have division : (⌊q⌋ : ℚ) = 2 * (⌊q⌋ / 2 : ℤ) + (⌊q⌋ % 2 : ℤ) := by
    exact_mod_cast (Int.mul_ediv_add_emod ⌊q⌋ 2).symm
  rw [floor] at halves
  linarith

/-- The two bits together tell whether anything follows the point. -/
theorem Describes.dropped {extended : ExtendedMantissa} {q : ℚ}
    (describes : Describes extended q) :
    (extended.roundBit || extended.stickyBit) = true ↔ Int.fract q ≠ 0 := by
  rw [Bool.or_eq_true, describes.round, describes.sticky]
  constructor
  · rintro (above | ⟨other, -⟩)
    · linarith
    · exact other
  · intro nonzero
    by_cases above : 1 / 2 ≤ Int.fract q
    · exact .inl above
    · exact .inr ⟨nonzero, fun same => above same.ge⟩

/-- The digit that is shifted out becomes the first bit, and what was known before becomes part of
the second one. -/
theorem Describes.shiftRightOne {extended : ExtendedMantissa} {q : ℚ}
    (describes : Describes extended q) : Describes extended.shiftRightOne (q / 2) := by
  have dropped := describes.dropped
  obtain ⟨m, round, sticky⟩ := extended
  obtain ⟨whole, half, rest⟩ := describes
  have nonneg := Int.fract_nonneg q
  have small := Int.fract_lt_one q
  have fraction := fract_half q
  simp only at whole half rest dropped
  constructor
  · have floor : ⌊q / 2⌋ = ⌊q⌋ / 2 := by exact_mod_cast Int.floor_div_natCast q 2
    rw [floor, whole]
    rfl
  · rw [fraction, whole]
    rcases Nat.mod_two_eq_zero_or_one m with even | odd
    · have : ((m : ℤ) % 2 : ℤ) = 0 := by omega
      rw [this]
      simp [ExtendedMantissa.shiftRightOne, even]
      linarith
    · have : ((m : ℤ) % 2 : ℤ) = 1 := by omega
      rw [this]
      simp [ExtendedMantissa.shiftRightOne, odd]
      linarith
  · change (round || sticky) = true ↔ _
    rw [dropped, fraction, whole]
    rcases Int.emod_two_eq_zero_or_one (m : ℤ) with even | odd
    · rw [even, Int.cast_zero]
      constructor
      · intro nonzero
        exact ⟨fun zero => nonzero (by linarith), fun half => by linarith⟩
      · rintro ⟨nonzero, -⟩ zero
        exact nonzero (by linarith)
    · rw [odd, Int.cast_one]
      constructor
      · intro nonzero
        exact ⟨fun zero => by linarith, fun half => nonzero (by linarith)⟩
      · rintro ⟨-, above⟩ zero
        exact above (by linarith)

theorem Describes.shiftRight {extended : ExtendedMantissa} {q : ℚ}
    (describes : Describes extended q) (count : ℕ) :
    Describes (extended >>> count) (q / 2 ^ count) := by
  change Describes (count.repeat ExtendedMantissa.shiftRightOne extended) _
  induction count with
  | zero => simpa [Nat.repeat] using describes
  | succ count ih =>
    have shifted := ih.shiftRightOne
    rwa [div_div, ← pow_succ] at shifted

theorem describes_exact (m : ℕ) : Describes (.ofMantissaAndAccuracy m .exact) m := by
  constructor <;> simp [ExtendedMantissa.ofMantissaAndAccuracy]

/-- A remainder tells how far a quotient is from the whole number below it. -/
theorem describes_fraction (m : ℕ) {n : ℕ} (positive : 0 < n) :
    Describes (.ofMantissaAndAccuracy (m / n) (accuracyOfFraction (m % n) n)) (m / n) := by
  have size : (0 : ℚ) < n := Nat.cast_pos.mpr positive
  have floor : ⌊(m : ℚ) / n⌋ = (m / n : ℕ) := Rat.floor_natCast_div_natCast m n
  have fraction : Int.fract ((m : ℚ) / n) = (m % n : ℕ) / n :=
    Int.fract_div_natCast_eq_div_natCast_mod
  have zero : Int.fract ((m : ℚ) / n) = 0 ↔ m % n = 0 := by
    rw [fraction, div_eq_zero_iff]
    simp [positive.ne']
  have above : 1 / 2 ≤ Int.fract ((m : ℚ) / n) ↔ n ≤ 2 * (m % n) := by
    rw [fraction, div_le_div_iff₀ (by norm_num) size]
    norm_cast
    omega
  have half : Int.fract ((m : ℚ) / n) = 1 / 2 ↔ 2 * (m % n) = n := by
    rw [fraction, div_eq_div_iff size.ne' (by norm_num)]
    norm_cast
    omega
  unfold accuracyOfFraction
  split
  · rename_i nothing
    constructor
    · exact floor
    · rw [zero.mpr nothing]
      simp [ExtendedMantissa.ofMantissaAndAccuracy]
    · rw [zero.mpr nothing]
      simp [ExtendedMantissa.ofMantissaAndAccuracy]
  · rename_i something
    rcases lt_trichotomy (2 * (m % n)) n with below | same | beyond
    · rw [compare_lt_iff_lt.mpr below]
      constructor
      · exact floor
      · rw [above]
        simpa [ExtendedMantissa.ofMantissaAndAccuracy] using below
      · rw [Ne, Ne, zero, half]
        simpa [ExtendedMantissa.ofMantissaAndAccuracy] using ⟨something, below.ne⟩
    · rw [compare_eq_iff_eq.mpr same]
      constructor
      · exact floor
      · rw [above]
        simpa [ExtendedMantissa.ofMantissaAndAccuracy] using same.ge
      · rw [Ne, Ne, zero, half]
        simp [ExtendedMantissa.ofMantissaAndAccuracy, same]
    · rw [compare_gt_iff_gt.mpr beyond]
      constructor
      · exact floor
      · rw [above]
        simpa [ExtendedMantissa.ofMantissaAndAccuracy] using beyond.le
      · rw [Ne, Ne, zero, half]
        simpa [ExtendedMantissa.ofMantissaAndAccuracy] using ⟨something, beyond.ne'⟩

/-- The exponent to which a significand is shifted. -/
def target (m : ℕ) (e : ℤ) : ℤ :=
  max (m.log2 + e - 52) (-1074)

theorem targetExponent_eq (m : ℕ) (e : ℤ) :
    Format.targetExponent .binary64 (totalExponent m e) = target m e := by
  change max (((m.log2 : ℤ) + 1 + e) - 53) (-1074) = _
  unfold target
  congr 1
  omega

theorem shiftToTargetExponent_eq (m : ℕ) (e : ℤ) (accuracy : Accuracy) :
    shiftToTargetExponent .binary64 m e accuracy =
      (ExtendedMantissa.ofMantissaAndAccuracy m accuracy >>> (target m e - e).toNat,
        e + (target m e - e).toNat) := by
  simp only [shiftToTargetExponent, targetExponent_eq, shiftToExponent]

/-- Parts that a number that is not negative is rounded to, or its opposite. -/
inductive IsRounded (sign : Sign) (q : ℚ) : UnpackedFloat → Prop where
  | zero (nothing : rounded q = 0) : IsRounded sign q (.zero sign)
  | finite {m : ℕ} {e : ℤ} (positive : 0 < m) (fits : Fits m e) (same : m * 2 ^ e = rounded q) :
      IsRounded sign q (.finite sign m e positive)

variable {m : ℕ} {e : ℤ} {accuracy : Accuracy} {q : ℚ}

theorem Describes.le (describes : Describes (.ofMantissaAndAccuracy m accuracy) q) :
    (m : ℚ) ≤ q ∧ q < m + 1 := by
  have same : (ExtendedMantissa.ofMantissaAndAccuracy m accuracy).mantissa = m := by
    cases accuracy with
    | exact => rfl
    | inexact side => cases side <;> rfl
  have whole := describes.whole
  rw [same, Int.floor_eq_iff] at whole
  exact_mod_cast whole

theorem two_zpow_log2_le (positive : 0 < m) : (2 : ℚ) ^ (m.log2 : ℤ) ≤ m := by
  rw [zpow_natCast]
  exact_mod_cast Nat.log2_self_le positive.ne'

theorem le_two_zpow_log2 (m : ℕ) : (m : ℚ) + 1 ≤ 2 ^ ((m.log2 : ℤ) + 1) := by
  have below : m + 1 ≤ 2 ^ (m.log2 + 1) := Nat.lt_log2_self
  exact_mod_cast below

/-- The target is the last place of the number, unless that is nothing. -/
theorem Describes.place (describes : Describes (.ofMantissaAndAccuracy m accuracy) q)
    (long : 52 ≤ m.log2 ∨ e ≤ -1074) (nonzero : q ≠ 0) :
    place (q * 2 ^ e) = target m e := by
  obtain ⟨lower, upper⟩ := describes.le
  have scale := two_zpow_pos e
  have nonneg : 0 ≤ q := (Nat.cast_nonneg m).trans lower
  have size : |q * 2 ^ e| = q * 2 ^ e := abs_of_nonneg (mul_nonneg nonneg scale.le)
  have product : q * 2 ^ e ≠ 0 := mul_ne_zero nonzero scale.ne'
  have below : Int.log 2 |q * 2 ^ e| < m.log2 + 1 + e := by
    refine log_lt_of_lt_two_zpow product ?_
    rw [size, zpow_add₀ (by norm_num)]
    exact mul_lt_mul_of_pos_right (upper.trans_le (le_two_zpow_log2 m)) scale
  rcases Nat.eq_zero_or_pos m with rfl | positive
  · have log : (0 : ℕ).log2 = 0 := rfl
    rw [log] at below long
    unfold Binary64.place target
    rw [log]
    omega
  · have above : (2 : ℚ) ^ (m.log2 + e) < 2 ^ (Int.log 2 |q * 2 ^ e| + 1) := by
      refine lt_of_le_of_lt ?_ (lt_two_zpow_log _)
      rw [size, zpow_add₀ (by norm_num)]
      exact mul_le_mul_of_nonneg_right ((two_zpow_log2_le positive).trans lower) scale.le
    have := (zpow_lt_zpow_iff_right₀ (by norm_num)).mp above
    unfold Binary64.place target
    omega

/-- The significand that is left is the number, rounded to a multiple of its last place. -/
theorem Describes.rounded (describes : Describes (.ofMantissaAndAccuracy m accuracy) q)
    (long : 52 ≤ m.log2 ∨ e ≤ -1074) :
    ((ExtendedMantissa.ofMantissaAndAccuracy m accuracy >>>
      (target m e - e).toNat).roundedMantissa : ℚ) * 2 ^ target m e = rounded (q * 2 ^ e) := by
  have shifted := (describes.shiftRight (target m e - e).toNat).roundedMantissa
  have count : ((target m e - e).toNat : ℤ) = target m e - e := by
    refine Int.toNat_of_nonneg ?_
    unfold target
    omega
  have power : (2 : ℚ) ^ target m e = 2 ^ (target m e - e).toNat * 2 ^ e := by
    rw [← zpow_natCast, count, ← zpow_add₀ (by norm_num), sub_add_cancel]
  have scaled : q * 2 ^ e / 2 ^ target m e = q / 2 ^ (target m e - e).toNat := by
    rw [power, mul_div_mul_right _ _ (two_zpow_pos e).ne']
  have multiple : ((ExtendedMantissa.ofMantissaAndAccuracy m accuracy >>>
      (target m e - e).toNat).roundedMantissa : ℚ) * 2 ^ target m e =
        toMultiple (target m e) (q * 2 ^ e) := by
    rw [toMultiple, scaled, ← shifted, Int.cast_natCast]
  rw [multiple]
  by_cases nothing : q = 0
  · rw [nothing, zero_mul, toMultiple_zero, rounded_zero]
  · rw [Binary64.rounded, describes.place long nothing]

/-- It has at most one digit too many, and that only as the power of two. -/
theorem Describes.fits (describes : Describes (.ofMantissaAndAccuracy m accuracy) q)
    (long : 52 ≤ m.log2 ∨ e ≤ -1074) :
    (ExtendedMantissa.ofMantissaAndAccuracy m accuracy >>>
      (target m e - e).toNat).roundedMantissa ≤ 2 ^ 53 ∧
    (2 ^ 52 ≤ (ExtendedMantissa.ofMantissaAndAccuracy m accuracy >>>
      (target m e - e).toNat).roundedMantissa ∨ target m e = -1074) := by
  obtain ⟨lower, upper⟩ := describes.le
  have shifted := (describes.shiftRight (target m e - e).toNat).roundedMantissa
  generalize (ExtendedMantissa.ofMantissaAndAccuracy m accuracy >>>
      (target m e - e).toNat).roundedMantissa = r at shifted ⊢
  have power : (0 : ℚ) < 2 ^ (target m e - e).toNat := by positivity
  constructor
  · have most : q / 2 ^ (target m e - e).toNat ≤ (2 ^ 53 : ℤ) := by
      have enough : m.log2 + 1 ≤ 53 + (target m e - e).toNat := by
        unfold target
        omega
      rw [div_le_iff₀ power]
      rw [Int.cast_pow, Int.cast_ofNat, ← pow_add]
      refine (upper.le.trans (le_two_zpow_log2 m)).trans ?_
      exact_mod_cast pow_le_pow_right₀ (by norm_num : (1 : ℚ) ≤ 2) enough
    have bound := nearestEven_mono most
    rw [nearestEven_intCast, ← shifted] at bound
    exact_mod_cast bound
  · by_cases least : target m e = -1074
    · exact .inr least
    · left
      have count : m.log2 = 52 + (target m e - e).toNat := by
        unfold target at least ⊢
        omega
      have positive : 0 < m := by
        by_contra zero
        obtain rfl : m = 0 := by omega
        have log : (0 : ℕ).log2 = 0 := rfl
        omega
      have least : ((2 ^ 52 : ℤ) : ℚ) ≤ q / 2 ^ (target m e - e).toNat := by
        rw [le_div_iff₀ power]
        rw [Int.cast_pow, Int.cast_ofNat, ← pow_add, ← count, ← zpow_natCast]
        exact (two_zpow_log2_le positive).trans lower
      have bound := nearestEven_mono least
      rw [nearestEven_intCast, ← shifted] at bound
      exact_mod_cast bound

theorem shift_zero (r : ℕ) :
    ExtendedMantissa.ofMantissaAndAccuracy r .exact >>> 0 = ⟨r, false, false⟩ := rfl

theorem shift_one (r : ℕ) :
    (ExtendedMantissa.ofMantissaAndAccuracy r .exact >>> 1).mantissa = r / 2 := rfl

/-- A significand with at most one digit too many is shifted at most once more. -/
theorem shift_again {r : ℕ} {t : ℤ} (short : r ≤ 2 ^ 53) (least : -1074 ≤ t)
    (normal : 2 ^ 52 ≤ r ∨ t = -1074) :
    ∃ m e, (shiftToTargetExponent .binary64 r t .exact).1.mantissa = m ∧
      (shiftToTargetExponent .binary64 r t .exact).2 = e ∧ Fits m e ∧
        (m : ℚ) * 2 ^ e = r * 2 ^ t := by
  rw [shiftToTargetExponent_eq]
  rcases short.lt_or_eq with fits | rfl
  · have log : r.log2 ≤ 52 := by
      by_cases zero : r = 0
      · rw [zero]
        decide
      · have := (Nat.log2_lt zero).mpr fits
        omega
    have none : (target r t - t).toNat = 0 := by
      unfold target
      omega
    rw [none, shift_zero]
    exact ⟨r, t, rfl, by simp, ⟨fits, least, normal⟩, rfl⟩
  · have once : (target (2 ^ 53) t - t).toNat = 1 := by
      unfold target
      rw [Nat.log2_two_pow]
      omega
    rw [once, shift_one]
    refine ⟨2 ^ 52, t + 1, by norm_num, by simp, ⟨by norm_num, by omega, .inl le_rfl⟩, ?_⟩
    rw [zpow_add₀ (by norm_num)]
    push_cast
    ring

theorem isRounded_shift (sign : Sign) {r : ℕ} {t : ℤ} (short : r ≤ 2 ^ 53) (least : -1074 ≤ t)
    (normal : 2 ^ 52 ≤ r ∨ t = -1074) (value : (r : ℚ) * 2 ^ t = rounded q) :
    IsRounded sign q
      (if h : (shiftToTargetExponent .binary64 r t .exact).1.mantissa = 0 then .zero sign
      else .finite sign (shiftToTargetExponent .binary64 r t .exact).1.mantissa
        (shiftToTargetExponent .binary64 r t .exact).2 (Nat.pos_of_ne_zero h)) := by
  obtain ⟨n, f, significand, exponent, fits, same⟩ := shift_again short least normal
  rw [value] at same
  simp only [significand, exponent]
  split
  · rename_i zero
    rw [zero, Nat.cast_zero, zero_mul] at same
    exact .zero same.symm
  · exact .finite _ fits same

/-- Rounding of a significand comes to parts that the number is rounded to. -/
theorem isRounded_roundWithAccuracy (sign : Sign)
    (describes : Describes (.ofMantissaAndAccuracy m accuracy) q)
    (long : 52 ≤ m.log2 ∨ e ≤ -1074) :
    IsRounded sign (q * 2 ^ e) (roundWithAccuracy .binary64 sign m e accuracy) := by
  obtain ⟨short, normal⟩ := describes.fits long
  have least : -1074 ≤ target m e := le_max_right _ _
  have shifted : e + ((target m e - e).toNat : ℤ) = target m e := by
    unfold target
    omega
  simp only [roundWithAccuracy, shiftToTargetExponent_eq m e, shifted]
  exact isRounded_shift sign short least normal (describes.rounded long)

end Cupping.Binary64

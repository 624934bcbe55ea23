import Cupping.Proofs.Binary64.Comparison
import Cupping.Proofs.Binary64.Packing
import Cupping.Proofs.Binary64.Rounding

/-!
The rational number that a double stands for. Infinities stand for the limit at which the numbers
of a double end, so that doubles compare like what they stand for, unless they are no numbers.
-/

namespace Cupping.Binary64

open Float.Model (UnpackedFloat)
open Float.Model.UnpackedFloat (Sign)

/-- One with a sign. -/
def unit : Sign → ℤ
  | .negative => -1
  | .positive => 1

theorem unit_neg (sign : Sign) : unit (-sign) = -unit sign := by
  cases sign <;> rfl

theorem unit_mul (first second : Sign) : unit (first * second) = unit first * unit second := by
  cases first <;> cases second <;> rfl

theorem unit_div (first second : Sign) : unit (first / second) = unit first * unit second := by
  cases first <;> cases second <;> rfl

theorem apply_eq (sign : Sign) (n : ℤ) : sign.apply n = unit sign * n := by
  cases sign
  · exact (neg_one_mul n).symm
  · exact (one_mul n).symm

theorem abs_unit_mul (sign : Sign) (q : ℚ) : |unit sign * q| = |q| := by
  cases sign <;> simp [unit]

/-- What the parts of a double stand for. -/
def worth : UnpackedFloat → ℚ
  | .infinity sign => unit sign * limit
  | .notANumber => 0
  | .zero _ => 0
  | .finite sign m e _ => unit sign * (m * 2 ^ e)

variable {m n : ℕ} {e f : ℤ}

theorem Fits.isExact (fits : Fits m e) : IsExact (m * 2 ^ e) := by
  refine ⟨m, e, ?_, fits.least, by rw [Int.cast_natCast]⟩
  have := fits.short
  rw [Nat.abs_cast]
  omega

theorem Fits.lt_two_zpow (fits : Fits m e) : (m : ℚ) * 2 ^ e < 2 ^ (e + 53) := by
  have short : (m : ℚ) < 2 ^ 53 := by exact_mod_cast fits.short
  rw [zpow_add₀ (by norm_num), mul_comm]
  exact mul_lt_mul_of_pos_left short (two_zpow_pos e)

/-- With more than the least exponent a significand has all of its digits. -/
theorem Fits.two_zpow_le (fits : Fits m e) (more : -1074 < e) : 2 ^ (e + 52) ≤ (m : ℚ) * 2 ^ e := by
  have full : (2 : ℚ) ^ 52 ≤ m := by
    exact_mod_cast fits.normal.resolve_right more.ne'
  rw [zpow_add₀ (by norm_num), mul_comm]
  exact mul_le_mul_of_nonneg_right full (two_zpow_pos e).le

theorem Fits.lt_limit_iff (fits : Fits m e) : (m : ℚ) * 2 ^ e < limit ↔ e ≤ 971 := by
  constructor
  · intro below
    by_contra above
    have large := fits.two_zpow_le (by omega)
    have := (zpow_lt_zpow_iff_right₀ (by norm_num)).mp (large.trans_lt below)
    omega
  · intro most
    refine fits.lt_two_zpow.trans_le (zpow_le_zpow_right₀ (by norm_num) ?_)
    omega

/-- Magnitudes are compared by their exponents first. -/
theorem compare_magnitudes (first : Fits m e) (second : Fits n f) :
    (compare e f).then (compare m n) = compare ((m : ℚ) * 2 ^ e) (n * 2 ^ f) := by
  rcases lt_trichotomy e f with less | rfl | more
  · have apart : (m : ℚ) * 2 ^ e < n * 2 ^ f :=
      first.lt_two_zpow.trans_le ((zpow_le_zpow_right₀ (by norm_num) (by omega)).trans
        (second.two_zpow_le (by have := first.least; omega)))
    rw [compare_lt_iff_lt.mpr less, compare_lt_iff_lt.mpr apart, Ordering.lt_then]
  · rw [compare_eq_iff_eq.mpr rfl, Ordering.eq_then]
    have positive := two_zpow_pos e
    rcases lt_trichotomy m n with less | rfl | more
    · rw [compare_lt_iff_lt.mpr less, compare_lt_iff_lt.mpr]
      exact mul_lt_mul_of_pos_right (by exact_mod_cast less) positive
    · rw [compare_eq_iff_eq.mpr rfl, compare_eq_iff_eq.mpr rfl]
    · rw [compare_gt_iff_gt.mpr more, compare_gt_iff_gt.mpr]
      exact mul_lt_mul_of_pos_right (by exact_mod_cast more) positive
  · have apart : (n : ℚ) * 2 ^ f < m * 2 ^ e :=
      second.lt_two_zpow.trans_le ((zpow_le_zpow_right₀ (by norm_num) (by omega)).trans
        (first.two_zpow_le (by have := second.least; omega)))
    rw [compare_gt_iff_gt.mpr more, compare_gt_iff_gt.mpr apart, Ordering.gt_then]

theorem Fits.pos (positive : 0 < m) (e : ℤ) : (0 : ℚ) < m * 2 ^ e :=
  mul_pos (Nat.cast_pos.mpr positive) (two_zpow_pos e)

theorem abs_worth_finite (sign : Sign) (positive : 0 < m) (e : ℤ) :
    |worth (.finite sign m e positive)| = m * 2 ^ e := by
  rw [worth, abs_unit_mul, abs_of_pos (Fits.pos positive e)]

theorem abs_worth_infinity (sign : Sign) : |worth (.infinity sign)| = limit := by
  rw [worth, abs_unit_mul, abs_of_pos limit_pos]

/-- Only infinities stand for the limit. -/
theorem abs_worth_lt_limit_iff {parts : UnpackedFloat} (canonical : IsCanonical parts) :
    |worth parts| < limit ↔ parts.isInf = false := by
  cases canonical with
  | infinity sign => simp [abs_worth_infinity, UnpackedFloat.isInf]
  | notANumber => exact iff_of_true (abs_zero.trans_lt limit_pos) rfl
  | zero sign => exact iff_of_true (abs_zero.trans_lt limit_pos) rfl
  | finite sign positive fits most =>
    rw [abs_worth_finite]
    exact iff_of_true (fits.lt_limit_iff.mpr most) rfl

theorem isExact_worth {parts : UnpackedFloat} (canonical : IsCanonical parts)
    (bounded : parts.isInf = false) : IsExact (worth parts) := by
  cases canonical with
  | infinity sign => cases bounded
  | notANumber => exact isExact_zero
  | zero sign => exact isExact_zero
  | finite sign positive fits most =>
    rw [worth]
    cases sign with
    | negative => simpa [unit] using fits.isExact.neg
    | positive => simpa [unit] using fits.isExact

theorem some_lt {p q : ℚ} (less : p < q) : some .lt = some (compare p q) := by
  rw [compare_lt_iff_lt.mpr less]

theorem some_gt {p q : ℚ} (more : q < p) : some .gt = some (compare p q) := by
  rw [compare_gt_iff_gt.mpr more]

theorem some_eq (q : ℚ) : some .eq = some (compare q q) := by
  rw [compare_eq_iff_eq.mpr rfl]

theorem compare_neg_neg (p q : ℚ) : compare (-p) (-q) = (compare p q).swap := by
  rw [← Std.OrientedOrd.eq_swap]
  rcases lt_trichotomy p q with less | rfl | more
  · rw [compare_gt_iff_gt.mpr (neg_lt_neg less), compare_gt_iff_gt.mpr less]
  · rw [compare_eq_iff_eq.mpr rfl, compare_eq_iff_eq.mpr rfl]
  · rw [compare_lt_iff_lt.mpr (neg_lt_neg more), compare_lt_iff_lt.mpr more]

theorem worth_negative (positive : 0 < m) (e : ℤ) :
    worth (.finite .negative m e positive) = -(m * 2 ^ e) := by
  simp [worth, unit]

theorem worth_positive (positive : 0 < m) (e : ℤ) :
    worth (.finite .positive m e positive) = m * 2 ^ e := by
  simp [worth, unit]

theorem worth_infinity_negative : worth (.infinity .negative) = -limit := by
  simp [worth, unit]

theorem worth_infinity_positive : worth (.infinity .positive) = limit := by
  simp [worth, unit]

/-- Parts of the right shape are compared like what they stand for. -/
theorem compare_worth {first second : UnpackedFloat} (canonical : IsCanonical first)
    (other : IsCanonical second) (number : first.isNaN = false) (another : second.isNaN = false) :
    first.compare second = some (compare (worth first) (worth second)) := by
  have top := limit_pos
  cases canonical with
  | notANumber => cases number
  | infinity s =>
    cases other with
    | notANumber => cases another
    | infinity t =>
      cases s <;> cases t
      · exact some_eq _
      · exact some_lt (by rw [worth_infinity_negative, worth_infinity_positive]; linarith)
      · exact some_gt (by rw [worth_infinity_negative, worth_infinity_positive]; linarith)
      · exact some_eq _
    | zero t =>
      cases s
      · exact some_lt (by rw [worth_infinity_negative]; exact neg_lt_zero.mpr top)
      · exact some_gt (by rw [worth_infinity_positive]; exact top)
    | finite t positive fits most =>
      have within := abs_lt.mp ((abs_worth_lt_limit_iff (.finite t positive fits most)).mpr rfl)
      cases s
      · exact some_lt (by rw [worth_infinity_negative]; exact within.1)
      · exact some_gt (by rw [worth_infinity_positive]; exact within.2)
  | zero s =>
    cases other with
    | notANumber => cases another
    | infinity t =>
      cases t
      · exact some_gt (by rw [worth_infinity_negative]; exact neg_lt_zero.mpr top)
      · exact some_lt (by rw [worth_infinity_positive]; exact top)
    | zero t => exact some_eq 0
    | @finite t _ e positive fits most =>
      have magnitude := Fits.pos positive e
      cases t
      · exact some_gt (by rw [worth_negative]; exact neg_lt_zero.mpr magnitude)
      · exact some_lt (by rw [worth_positive]; exact magnitude)
  | @finite s _ e positive fits most =>
    have magnitude := Fits.pos positive e
    cases other with
    | notANumber => cases another
    | infinity t =>
      have within := abs_lt.mp ((abs_worth_lt_limit_iff (.finite s positive fits most)).mpr rfl)
      cases t
      · exact some_gt (by rw [worth_infinity_negative]; exact within.1)
      · exact some_lt (by rw [worth_infinity_positive]; exact within.2)
    | zero t =>
      cases s
      · exact some_lt (by rw [worth_negative]; exact neg_lt_zero.mpr magnitude)
      · exact some_gt (by rw [worth_positive]; exact magnitude)
    | @finite t _ f present suits least =>
      have size := Fits.pos present f
      cases s <;> cases t
      · rw [worth_negative, worth_negative, compare_neg_neg, ← compare_magnitudes fits suits]
        rfl
      · exact some_lt (by rw [worth_negative, worth_positive]; linarith)
      · exact some_gt (by rw [worth_negative, worth_positive]; linarith)
      · rw [worth_positive, worth_positive, ← compare_magnitudes fits suits]
        rfl

/-! The values of doubles. -/

/-- What a double stands for. -/
def value (x : Float) : ℚ :=
  worth x.toModel.unpack

theorem isCanonical (x : Float) : IsCanonical x.toModel.unpack :=
  isCanonical_unpack x.toModel

variable {x y : Float}

theorem isFinite_eq (parts : UnpackedFloat) :
    parts.isFinite = (!parts.isNaN && !parts.isInf) := by
  cases parts <;> rfl

theorem isFinite_iff : x.isFinite = true ↔ x.isNaN = false ∧ |value x| < limit := by
  rw [value, abs_worth_lt_limit_iff (isCanonical x)]
  change x.toModel.unpack.isFinite = true ↔ x.toModel.unpack.isNaN = false ∧ _
  rw [isFinite_eq, Bool.and_eq_true, Bool.not_eq_true', Bool.not_eq_true']

theorem isExact_value (finite : x.isFinite = true) : IsExact (value x) := by
  refine isExact_worth (isCanonical x) ?_
  change x.toModel.unpack.isFinite = true at finite
  rw [isFinite_eq, Bool.and_eq_true, Bool.not_eq_true', Bool.not_eq_true'] at finite
  exact finite.2

theorem compare_value (number : x.isNaN = false) (another : y.isNaN = false) :
    x.toModel.unpack.compare y.toModel.unpack = some (compare (value x) (value y)) :=
  compare_worth (isCanonical x) (isCanonical y) number another

theorem lt_iff_value (number : x.isNaN = false) (another : y.isNaN = false) :
    x < y ↔ value x < value y := by
  rw [lt_iff_compare, compare_value number another, Option.some.injEq, compare_lt_iff_lt]

theorem le_iff_value (number : x.isNaN = false) (another : y.isNaN = false) :
    x ≤ y ↔ value x ≤ value y := by
  rw [le_iff_compare, compare_value number another, Option.any_some, Ordering.isLE_iff_ne_gt,
    ← not_lt]
  exact not_congr compare_gt_iff_gt

theorem compare_eq_none {first second : UnpackedFloat}
    (none : first.isNaN = true ∨ second.isNaN = true) : first.compare second = .none := by
  rcases none with number | number
  · cases first <;> first | rfl | cases number
  · cases second <;> first | (cases first <;> rfl) | cases number

/-- What is no number is not compared at all. -/
theorem isNaN_of_le (le : x ≤ y) : x.isNaN = false ∧ y.isNaN = false := by
  rw [le_iff_compare] at le
  rw [← Bool.not_eq_true, ← Bool.not_eq_true, ← not_or]
  intro number
  rw [compare_eq_none number] at le
  cases le

theorem value_le_of_le (le : x ≤ y) : value x ≤ value y :=
  (le_iff_value (isNaN_of_le le).1 (isNaN_of_le le).2).mp le

theorem value_zero : value 0.0 = 0 := by
  have parts : (0.0 : Float).toModel.unpack = .zero .positive := rfl
  rw [value, parts, worth]

end Cupping.Binary64

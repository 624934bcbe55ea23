import Cupping.Proofs.Binary64.Monotone

/-!
Square roots of doubles. The exact root need not be rational, so it is known by the numbers below
it: none of them is rounded to more than the root of the double. That loses nothing to the rounding
of a square: the root of what a square is rounded to is as large as the number that was squared.
-/

namespace Cupping.Binary64

open Float.Model (UnpackedFloat Format totalExponent)
open Float.Model.UnpackedFloat

variable {m n : ℕ} {e : ℤ} {q : ℚ} {x : Float}

/-! Roots of whole numbers. -/

/-- How the root of a whole number compares to the whole part of the root. -/
def rootAccuracy (m : ℕ) : Accuracy :=
  if m - m.sqrt * m.sqrt = 0 then .exact
  else .inexact (if m - m.sqrt * m.sqrt ≤ m.sqrt then .lt else .gt)

theorem describes_below_half (above : (n : ℚ) < q) (below : q < n + 1 / 2) :
    Describes (.ofMantissaAndAccuracy n (.inexact .lt)) q := by
  have floor : ⌊q⌋ = n := Int.floor_eq_iff.mpr ⟨above.le, by push_cast; linarith⟩
  have fraction : Int.fract q = q - n := by
    rw [Int.fract, floor, Int.cast_natCast]
  refine ⟨floor, ?_, ?_⟩
  · rw [fraction]
    refine iff_of_false Bool.false_ne_true ?_
    linarith
  · rw [fraction]
    exact iff_of_true rfl ⟨(sub_pos.mpr above).ne', by linarith⟩

theorem describes_above_half (above : (n : ℚ) + 1 / 2 < q) (below : q < n + 1) :
    Describes (.ofMantissaAndAccuracy n (.inexact .gt)) q := by
  have floor : ⌊q⌋ = n := Int.floor_eq_iff.mpr ⟨by push_cast; linarith, by push_cast; linarith⟩
  have fraction : Int.fract q = q - n := by
    rw [Int.fract, floor, Int.cast_natCast]
  refine ⟨floor, ?_, ?_⟩
  · rw [fraction]
    refine iff_of_true rfl ?_
    linarith
  · rw [fraction]
    exact iff_of_true rfl ⟨by linarith, by linarith⟩

/-- What is below the root of a whole number is below something that is rounded like the root. It
may be rounded so itself, or it lies below the half of a unit in which the root is found. -/
theorem exists_describes_root (below : q ^ 2 ≤ m) :
    ∃ p, Describes (.ofMantissaAndAccuracy m.sqrt (rootAccuracy m)) p ∧ q ≤ p := by
  have root : (0 : ℚ) ≤ m.sqrt := Nat.cast_nonneg _
  have least : m.sqrt * m.sqrt ≤ m := m.sqrt_le
  unfold rootAccuracy
  split
  case isTrue square =>
    have same : (m : ℚ) = m.sqrt ^ 2 := by
      rw [sq]
      exact_mod_cast (show m = m.sqrt * m.sqrt by omega)
    exact ⟨m.sqrt, describes_exact _, le_of_sq_le_sq (same ▸ below) root⟩
  case isFalse other =>
    split
    case isTrue small =>
      have size : (m : ℚ) < (m.sqrt + 1 / 2) ^ 2 := by
        have bound : (m : ℚ) ≤ m.sqrt * m.sqrt + m.sqrt := by
          exact_mod_cast (show m ≤ m.sqrt * m.sqrt + m.sqrt by omega)
        linarith [sq ((m.sqrt : ℚ) + 1 / 2)]
      have less : q < m.sqrt + 1 / 2 := lt_of_pow_lt_pow_left₀ 2 (by linarith) (below.trans_lt size)
      refine ⟨max q (m.sqrt + 1 / 4), describes_below_half ?_ ?_, le_max_left ..⟩
      · exact lt_max_of_lt_right (by linarith)
      · exact max_lt less (by linarith)
    case isFalse large =>
      have size : (m : ℚ) < (m.sqrt + 1) ^ 2 := by
        have bound : m < (m.sqrt + 1) * (m.sqrt + 1) := m.lt_succ_sqrt
        rw [sq]
        exact_mod_cast bound
      have less : q < m.sqrt + 1 := lt_of_pow_lt_pow_left₀ 2 (by linarith) (below.trans_lt size)
      refine ⟨max q (m.sqrt + 3 / 4), describes_above_half ?_ ?_, le_max_left ..⟩
      · exact lt_max_of_lt_right (by linarith)
      · exact max_lt less (by linarith)

/-! Roots of doubles. -/

/-- The exponent of a root before it is rounded. -/
def rootExponent (m : ℕ) (e : ℤ) : ℤ :=
  min (e / 2) (max ((m.log2 + 2 + e) / 2 - 53) (-1074))

theorem sqrtCore_eq (m : ℕ) (e : ℤ) :
    sqrtCore .binary64 m e =
      ((m * 2 ^ (e - 2 * rootExponent m e).toNat).sqrt, rootExponent m e,
        rootAccuracy (m * 2 ^ (e - 2 * rootExponent m e).toNat)) := by
  have same : min (e.ediv 2) (Format.targetExponent .binary64
      ((totalExponent m e + 1).ediv 2)) = rootExponent m e := by
    change min (e / 2) (max (((m.log2 : ℤ) + 1 + e + 1) / 2 - 53) (-1074)) = _
    unfold rootExponent
    omega
  simp only [sqrtCore, same, Nat.shiftLeft_eq, rootAccuracy]

/-- A root has digits enough, or the least exponent. -/
theorem long_sqrt (positive : 0 < m) (e : ℤ) :
    52 ≤ (m * 2 ^ (e - 2 * rootExponent m e).toNat).sqrt.log2 ∨ rootExponent m e ≤ -1074 := by
  by_cases least : rootExponent m e ≤ -1074
  · exact .inr least
  left
  have enough : 104 ≤ m.log2 + (e - 2 * rootExponent m e).toNat := by
    unfold rootExponent at least ⊢
    omega
  have square : 2 ^ 52 * 2 ^ 52 ≤ m * 2 ^ (e - 2 * rootExponent m e).toNat :=
    calc 2 ^ 52 * 2 ^ 52 = 2 ^ 104 := by norm_num
      _ ≤ 2 ^ (m.log2 + (e - 2 * rootExponent m e).toNat) :=
        Nat.pow_le_pow_right (by norm_num) enough
      _ = 2 ^ m.log2 * 2 ^ (e - 2 * rootExponent m e).toNat := Nat.pow_add ..
      _ ≤ m * 2 ^ (e - 2 * rootExponent m e).toNat :=
        Nat.mul_le_mul_right _ (Nat.log2_self_le positive.ne')
  have lower := Nat.le_sqrt.mpr square
  exact (Nat.le_log2 (by omega)).mpr lower

theorem exists_shows_sqrt (positive : 0 < m) (nonneg : 0 ≤ q) (below : q ^ 2 ≤ m * 2 ^ e) :
    ∃ p, q ≤ p ∧ Shows (sqrt .binary64 (.finite .positive m e positive)) (saturated p) := by
  have scale := two_zpow_pos (rootExponent m e)
  have aligned : ((m * 2 ^ (e - 2 * rootExponent m e).toNat : ℕ) : ℚ) *
      (2 ^ rootExponent m e) ^ 2 = m * 2 ^ e := by
    have least : 2 * rootExponent m e ≤ e := by
      unfold rootExponent
      omega
    rw [← zpow_natCast, ← zpow_mul, mul_comm (rootExponent m e), Nat.cast_ofNat]
    exact Binary64.aligned least m
  have scaled : (q / 2 ^ rootExponent m e) ^ 2 ≤
      (m * 2 ^ (e - 2 * rootExponent m e).toNat : ℕ) := by
    rw [div_pow, div_le_iff₀ (pow_pos scale 2), aligned]
    exact below
  obtain ⟨p, describes, le⟩ := exists_describes_root scaled
  refine ⟨p * 2 ^ rootExponent m e, (div_le_iff₀ scale).mp le, ?_⟩
  have rounds := isRounded_roundWithAccuracy .positive describes (long_sqrt positive e)
  have shows := rounds.shows (mul_nonneg ((div_nonneg nonneg scale.le).trans le) scale.le)
  simpa [sqrt, sqrtCore_eq, unit] using shows

/-- What is below the root is rounded to at most the root of the double. -/
theorem saturated_le_value_sqrt (nonneg : 0 ≤ q) (below : q ^ 2 ≤ value x) :
    saturated q ≤ value x.sqrt := by
  have shown : ∀ parts, x.toModel.unpack = parts →
      value x.sqrt = worth (Float.Model.pack (sqrt .binary64 parts)).unpack := by
    rintro _ rfl
    rfl
  have square := sq_nonneg q
  unfold value at below
  cases parts : x.toModel.unpack with
  | notANumber =>
    rw [parts, worth] at below
    rw [shown _ parts, pow_eq_zero_iff two_ne_zero |>.mp (le_antisymm below square), saturated_zero]
    exact le_rfl
  | zero sign =>
    rw [parts, worth] at below
    rw [shown _ parts, pow_eq_zero_iff two_ne_zero |>.mp (le_antisymm below square), saturated_zero]
    exact (shows_worth (.zero sign) rfl).worth.ge
  | infinity sign =>
    cases sign with
    | negative =>
      rw [parts, worth_infinity_negative] at below
      linarith [limit_pos]
    | positive =>
      rw [shown _ parts]
      refine le_of_le_of_eq ?_ (shows_worth (.infinity .positive) rfl).worth.symm
      rw [worth_infinity_positive]
      exact max_le (neg_lt_self limit_pos).le (min_le_right ..)
  | finite sign m e positive =>
    cases sign with
    | negative =>
      rw [parts, worth_negative] at below
      linarith [Fits.pos positive e]
    | positive =>
      rw [parts, worth_positive] at below
      obtain ⟨p, le, shows⟩ := exists_shows_sqrt positive nonneg below
      rw [shown _ parts, shows.worth]
      exact saturated_mono le

theorem rounded_le_value_sqrt (finite : x.sqrt.isFinite = true) (nonneg : 0 ≤ q)
    (below : q ^ 2 ≤ value x) : rounded q ≤ value x.sqrt := by
  have le := saturated_le_value_sqrt nonneg below
  rw [saturated_of_nonneg nonneg] at le
  rcases min_le_iff.mp le with rounds | absurd
  · exact rounds
  · exact (absurd.not_gt (abs_lt.mp (isFinite_iff.mp finite).2).2).elim

/-! Roots of squares. -/

/-- A square that is not too small leaves its root as it was, whatever it is rounded to. A power of
two has an exact square. Any other number is found again because the square loses less than what
half of its own last place adds to it. -/
theorem le_value_sqrt_of_rounded_sq {c : ℚ} (finite : x.sqrt.isFinite = true) (exact : IsExact c)
    (positive : 0 < c) (normal : 2 ^ (-1022 : ℤ) ≤ c ^ 2) (below : rounded (c ^ 2) ≤ value x) :
    c ≤ value x.sqrt := by
  have size : (2 : ℚ) ^ (-511 : ℤ) ≤ c := by
    refine le_of_sq_le_sq ?_ positive.le
    rwa [← zpow_natCast, ← zpow_mul]
  have least : (2 : ℚ) ^ (-1022 : ℤ) ≤ 2 ^ (-511 : ℤ) :=
    zpow_le_zpow_right₀ (by norm_num) (by norm_num)
  obtain ⟨n, e, place, full, short, same⟩ := exact.exists_normal (least.trans size)
  have scale := two_zpow_pos e
  rcases full.eq_or_lt with rfl | more
  · have power : c = 2 ^ (52 + e) := by
      rw [same, zpow_add₀ (by norm_num)]
      norm_num
    have square : c ^ 2 = 2 ^ (2 * (52 + e)) := by
      rw [power, ← zpow_natCast, ← zpow_mul, mul_comm, Nat.cast_ofNat]
    have place : -1074 ≤ 2 * (52 + e) := by
      rw [square] at normal
      have := (zpow_le_zpow_iff_right₀ (by norm_num)).mp normal
      omega
    have kept : rounded (c ^ 2) = c ^ 2 := by
      rw [square]
      exact (isExact_two_zpow place).rounded
    have le := rounded_le_value_sqrt finite positive.le (kept.symm.trans_le below)
    rwa [exact.rounded] at le
  · -- Somewhat less than `c`, but by less than half of its last place.
    have digits : ((2 ^ 52 : ℤ) : ℚ) + 1 ≤ n := by exact_mod_cast more
    have limited : (n : ℚ) + 1 ≤ (2 ^ 53 : ℤ) := by exact_mod_cast short
    have nearly : rounded (c * (1 - (1 / 2 ^ 54 + 1 / 2 ^ 108))) = c := by
      rw [same, mul_right_comm]
      push_cast at digits limited
      refine rounded_eq place ?_ ?_ ?_
      · exact mul_le_mul_of_nonneg_right (by linarith) scale.le
      · exact mul_lt_mul_of_pos_right (by linarith) scale
      · rw [mul_div_cancel_right₀ _ scale.ne', abs_lt]
        constructor <;> linarith
    have error := abs_rounded_sub_le_mul (normal.trans_eq (abs_of_pos (pow_pos positive 2)).symm)
    rw [abs_of_pos (pow_pos positive 2), abs_le] at error
    have square : (c * (1 - (1 / 2 ^ 54 + 1 / 2 ^ 108))) ^ 2 ≤ value x := by
      have part : (c * (1 - (1 / 2 ^ 54 + 1 / 2 ^ 108))) ^ 2 ≤ c ^ 2 - c ^ 2 / 2 ^ 53 := by
        rw [mul_pow]
        linarith [mul_le_mul_of_nonneg_left
          (by norm_num : (1 - (1 / 2 ^ 54 + 1 / 2 ^ 108) : ℚ) ^ 2 ≤ 1 - 1 / 2 ^ 53)
          (sq_nonneg c)]
      linarith
    have le := rounded_le_value_sqrt finite (mul_nonneg positive.le (by norm_num)) square
    rwa [nearly] at le

end Cupping.Binary64

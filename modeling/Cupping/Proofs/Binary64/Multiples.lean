import Cupping.Proofs.Binary64.Finite

/-!
Doubles that are multiples of a power of two. Their sums and products are such multiples as well,
so they are exact as long as they are short, and otherwise never too small to be close to the exact
ones.
-/

namespace Cupping.Binary64

/-- Whether a number is a whole multiple of a power of two. -/
def IsMultiple (e : ℤ) (q : ℚ) : Prop :=
  ∃ n : ℤ, q = n * 2 ^ e

variable {e f : ℤ} {p q : ℚ}

namespace IsMultiple

theorem zero (e : ℤ) : IsMultiple e 0 :=
  ⟨0, by rw [Int.cast_zero, zero_mul]⟩

theorem weaken (multiple : IsMultiple e q) (le : f ≤ e) : IsMultiple f q := by
  obtain ⟨n, rfl⟩ := multiple
  exact exists_multiple le n

theorem neg (multiple : IsMultiple e q) : IsMultiple e (-q) := by
  obtain ⟨n, rfl⟩ := multiple
  exact ⟨-n, by rw [Int.cast_neg, neg_mul]⟩

theorem add (first : IsMultiple e p) (second : IsMultiple e q) : IsMultiple e (p + q) := by
  obtain ⟨m, rfl⟩ := first
  obtain ⟨n, rfl⟩ := second
  exact ⟨m + n, by rw [Int.cast_add, add_mul]⟩

theorem sub (first : IsMultiple e p) (second : IsMultiple e q) : IsMultiple e (p - q) := by
  rw [sub_eq_add_neg]
  exact first.add second.neg

theorem mul (first : IsMultiple e p) (second : IsMultiple f q) : IsMultiple (e + f) (p * q) := by
  obtain ⟨m, rfl⟩ := first
  obtain ⟨n, rfl⟩ := second
  refine ⟨m * n, ?_⟩
  rw [zpow_add₀ (by norm_num)]
  push_cast
  ring

theorem two_zpow_le (multiple : IsMultiple e q) (nonzero : q ≠ 0) : 2 ^ e ≤ |q| := by
  obtain ⟨n, rfl⟩ := multiple
  have least : 1 ≤ |n| := Int.one_le_abs fun zero => nonzero (by rw [zero, Int.cast_zero, zero_mul])
  rw [abs_mul, abs_of_pos (two_zpow_pos e)]
  refine le_mul_of_one_le_left (two_zpow_pos e).le ?_
  exact_mod_cast least

/-- Rounding keeps multiples: those of the last place or of more are exact, and less than the last
place is rounded to multiples of it. -/
theorem rounded (multiple : IsMultiple e q) : IsMultiple e (rounded q) := by
  rcases le_total (place q) e with le | less
  · obtain ⟨n, same⟩ := multiple.weaken le
    have kept := toMultiple_mul (place q) n
    rw [← same] at kept
    rwa [Binary64.rounded, kept]
  · exact IsMultiple.weaken ⟨nearestEven (q / 2 ^ place q), rfl⟩ less

theorem isExact (multiple : IsMultiple e q) (least : -1074 ≤ e) (short : |q| < 2 ^ 53 * 2 ^ e) :
    IsExact q := by
  obtain ⟨n, rfl⟩ := multiple
  rw [abs_mul, abs_of_pos (two_zpow_pos e)] at short
  refine ⟨n, e, ?_, least, rfl⟩
  exact_mod_cast lt_of_mul_lt_mul_right short (two_zpow_pos e).le

end IsMultiple

/-- A double of some size is a multiple of its last place. -/
theorem IsExact.isMultiple (exact : IsExact q) (size : 2 ^ e ≤ |q|) : IsMultiple (e - 52) q := by
  refine IsMultiple.weaken exact.exists_place ?_
  have log := (zpow_lt_zpow_iff_right₀ (by norm_num)).mp (size.trans_lt (lt_two_zpow_log q))
  unfold place
  omega

theorem isMultiple_value {x : Float} (finite : x.isFinite = true) : IsMultiple (-1074) (value x) :=
  IsMultiple.weaken (isExact_value finite).exists_place (le_max_right ..)

theorem isMultiple_value_zero (e : ℤ) : IsMultiple e (value 0.0) := by
  rw [value_zero]
  exact .zero e

/-- Whether a number is another one but for an error of some proportion. -/
def IsClose (error exact given : ℚ) : Prop :=
  |given - exact| ≤ error * |exact|

section Close

variable {u : ℚ} {x y : Float}

theorem IsClose.abs_le_mul (close : IsClose u p q) : |q| ≤ (1 + u) * |p| := by
  have triangle := abs_add_le (q - p) p
  rw [sub_add_cancel] at triangle
  unfold IsClose at close
  linarith

theorem IsClose.mul_le (close : IsClose u p q) (nonneg : 0 ≤ p) : (1 - u) * p ≤ q := by
  have lower := (abs_le.mp close).1
  rw [abs_of_nonneg nonneg] at lower
  linarith

/-- The error of rounding in proportion to the number: half of the last of 53 places. -/
def roundoff : ℚ :=
  1 / 2 ^ 53

theorem roundoff_nonneg : 0 ≤ roundoff := by
  unfold roundoff
  positivity

theorem roundoff_le_one : roundoff ≤ 1 := by
  norm_num [roundoff]

/-- Only with parts below the last of all places a number is rounded with a larger error. -/
theorem isClose_rounded (multiple : IsMultiple (-1074) q) : IsClose roundoff q (rounded q) := by
  obtain ⟨n, same⟩ := multiple
  have error := abs_rounded_sub_le_mul_of_multiple same
  rwa [div_eq_inv_mul, ← one_div] at error

theorem isClose_add (finite : (x + y).isFinite = true) :
    IsClose roundoff (value x + value y) (value (x + y)) := by
  obtain ⟨first, second⟩ := isFinite_of_add finite
  rw [(rounds_add first second).value_of_isFinite finite]
  exact isClose_rounded ((isMultiple_value first).add (isMultiple_value second))

theorem isClose_mul (finite : (x * y).isFinite = true) (first : IsMultiple e (value x))
    (second : IsMultiple f (value y)) (least : -1074 ≤ e + f) :
    IsClose roundoff (value x * value y) (value (x * y)) := by
  obtain ⟨one, other⟩ := isFinite_of_mul finite
  rw [(rounds_mul one other).value_of_isFinite finite]
  exact isClose_rounded ((first.mul second).weaken least)

end Close

/-! Multiples among the results of operations. -/

section Results

variable {x y : Float}

theorem IsMultiple.value_add (first : IsMultiple e (value x)) (second : IsMultiple e (value y))
    (finite : (x + y).isFinite = true) : IsMultiple e (value (x + y)) := by
  obtain ⟨one, other⟩ := isFinite_of_add finite
  rw [(rounds_add one other).value_of_isFinite finite]
  exact (first.add second).rounded

theorem IsMultiple.value_sub (first : IsMultiple e (value x)) (second : IsMultiple e (value y))
    (finite : (x - y).isFinite = true) : IsMultiple e (value (x - y)) := by
  obtain ⟨one, other⟩ := isFinite_of_sub finite
  rw [(rounds_sub one other).value_of_isFinite finite]
  exact (first.sub second).rounded

theorem IsMultiple.value_mul (first : IsMultiple e (value x)) (second : IsMultiple f (value y))
    (finite : (x * y).isFinite = true) : IsMultiple (e + f) (value (x * y)) := by
  obtain ⟨one, other⟩ := isFinite_of_mul finite
  rw [(rounds_mul one other).value_of_isFinite finite]
  exact (first.mul second).rounded

/-- A quotient has fewer places than the dividend by those of the divisor and of a significand. -/
theorem IsMultiple.value_div {n k : ℕ} (multiple : IsMultiple e (value x))
    (divisor : value y = n) (positive : 0 < n) (few : n ≤ 2 ^ k) (least : -1074 ≤ e - k)
    (bounded : y.isFinite = true) (finite : (x / y).isFinite = true) :
    IsMultiple (e - k - 52) (value (x / y)) := by
  have size : (0 : ℚ) < n := Nat.cast_pos.mpr positive
  have quotient := rounds_div (isFinite_of_div finite) bounded (divisor ▸ size.ne')
  have exact := isExact_value finite
  rw [quotient.value_of_isFinite finite] at exact ⊢
  by_cases zero : value x = 0
  · rw [zero, zero_div, rounded_zero]
    exact IsMultiple.zero _
  · have large : 2 ^ (e - k) ≤ |value x / value y| := by
      rw [divisor, abs_div, Nat.abs_cast, le_div_iff₀ size, zpow_sub₀ (by norm_num)]
      have bound : (n : ℚ) ≤ 2 ^ k := by exact_mod_cast few
      refine le_trans ?_ (multiple.two_zpow_le zero)
      rw [div_mul_eq_mul_div, div_le_iff₀ (two_zpow_pos _), zpow_natCast]
      exact mul_le_mul_of_nonneg_left bound (two_zpow_pos e).le
    exact exact.isMultiple (le_abs_rounded (isExact_two_zpow least) large)

end Results

end Cupping.Binary64

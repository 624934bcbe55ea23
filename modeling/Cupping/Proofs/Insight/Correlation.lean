import Cupping.Proofs.Binary64.SquareRoot
import Cupping.Proofs.Binary64.Summation
import Cupping.Proofs.Insight.Importance

/-!
The range of correlation coefficients. A coefficient is always a number. That it is at most one in
magnitude is the inequality of Cauchy and Schwarz, which holds for the sums of a coefficient as far
as these are exact: with sums that are exact it is kept by the rounding of the product, the root and
the quotient, and otherwise it is missed by a few units of the last place for each sample.
-/

namespace Cupping.Insight

open Binary64

/-- How far numbers are from their mean. -/
def deviations (values : List Float) : List Float :=
  values.map (· - mean values)

/-- The sum of some products, added from left to right. -/
def sumOfProducts (pairs : List (Float × Float)) : Float :=
  (pairs.map fun pair => pair.1 * pair.2).foldl (· + ·) 0.0

/-- The sum of some squares. -/
def sumOfSquares (values : List Float) : Float :=
  sumOfProducts (values.map fun x => (x, x))

/-- The scale of a coefficient. -/
def scale (pairs : List (Float × Float)) : Float :=
  (sumOfSquares (pairs.map Prod.fst) * sumOfSquares (pairs.map Prod.snd)).sqrt

/-- Whether there is a scale by which the sum of products can be divided. -/
structure HasScale (pairs : List (Float × Float)) : Prop where
  finite : (scale pairs).isFinite = true
  nonzero : (scale pairs == 0.0) = false

variable {xs ys : List Float} {r : Float}

theorem map_fst_deviations (same : xs.length = ys.length) :
    ((deviations xs).zip (deviations ys)).map Prod.fst = deviations xs := by
  refine List.map_fst_zip ?_
  rw [deviations, deviations, List.length_map, List.length_map, same]

theorem map_snd_deviations (same : xs.length = ys.length) :
    ((deviations xs).zip (deviations ys)).map Prod.snd = deviations ys := by
  refine List.map_snd_zip ?_
  rw [deviations, deviations, List.length_map, List.length_map, same]

theorem foldl_moments (samples : List (Float × Float)) (leftMean rightMean : Float)
    (sums : Moments) :
    samples.foldl (fun sums sample =>
      let dx := sample.1 - leftMean
      let dy := sample.2 - rightMean
      ⟨sums.product + dx * dy, sums.left + dx * dx, sums.right + dy * dy⟩) sums =
    let pairs := samples.map (Prod.map (· - leftMean) (· - rightMean))
    Moments.mk ((pairs.map fun pair => pair.1 * pair.2).foldl (· + ·) sums.product)
      ((pairs.map fun pair => pair.1 * pair.1).foldl (· + ·) sums.left)
      ((pairs.map fun pair => pair.2 * pair.2).foldl (· + ·) sums.right) := by
  induction samples generalizing sums with
  | nil => rfl
  | cons sample rest ih => exact ih _

/-- The three sums of a coefficient are sums of products and squares of deviations. -/
theorem moments_eq (xs ys : List Float) :
    let pairs := (deviations xs).zip (deviations ys)
    moments (xs.zip ys) (mean xs) (mean ys) =
      ⟨sumOfProducts pairs, sumOfSquares (pairs.map Prod.fst),
        sumOfSquares (pairs.map Prod.snd)⟩ := by
  intro pairs
  have zipped : pairs = (xs.zip ys).map (Prod.map (· - mean xs) (· - mean ys)) := List.zip_map ..
  rw [moments, foldl_moments, ← zipped]
  simp only [sumOfSquares, sumOfProducts, List.map_map]
  rfl

theorem correlation?_eq_some_iff :
    correlation? xs ys = some r ↔ (xs.length = ys.length ∧ 2 ≤ xs.length) ∧
      let pairs := (deviations xs).zip (deviations ys)
      HasScale pairs ∧ sumOfProducts pairs / scale pairs = r := by
  rw [correlation?, Option.ite_none_left_eq_some, not_or, not_not, not_lt]
  refine and_congr_right fun _ => ?_
  simp only [moments_eq]
  rw [Option.ite_none_left_eq_some, Bool.or_eq_true, not_or, Bool.not_eq_true, Bool.not_eq_true,
    Bool.not_eq_false', Option.some.injEq]
  refine and_congr_left fun _ => ?_
  constructor
  · rintro ⟨nonzero, finite⟩
    exact ⟨finite, nonzero⟩
  · rintro ⟨finite, nonzero⟩
    exact ⟨nonzero, finite⟩

/-! Sums of products. -/

section Products

/-- The exact sum of the magnitudes of some products. -/
def magnitude (pairs : List (Float × Float)) : ℚ :=
  (pairs.map fun pair => |value pair.1 * value pair.2|).sum

variable {pairs : List (Float × Float)} {pair : Float × Float} {e f : ℤ}

theorem magnitude_nonneg (pairs : List (Float × Float)) : 0 ≤ magnitude pairs :=
  List.sum_nonneg (List.forall_mem_map.mpr fun _ _ => abs_nonneg _)

theorem abs_le_magnitude (member : pair ∈ pairs) :
    |value pair.1 * value pair.2| ≤ magnitude pairs :=
  List.single_le_sum (List.forall_mem_map.mpr fun _ _ => abs_nonneg _) _
    (List.mem_map_of_mem member)

theorem isFinite_product (finite : (sumOfProducts pairs).isFinite = true) (member : pair ∈ pairs) :
    (pair.1 * pair.2).isFinite = true :=
  (isFinite_of_foldl finite).2 _ (List.mem_map_of_mem member)

theorem isMultiple_sumOfProducts (finite : (sumOfProducts pairs).isFinite = true)
    (left : ∀ pair ∈ pairs, IsMultiple e (value pair.1))
    (right : ∀ pair ∈ pairs, IsMultiple f (value pair.2)) :
    IsMultiple (e + f) (value (sumOfProducts pairs)) := by
  refine IsMultiple.value_foldl finite (isMultiple_value_zero _) (List.forall_mem_map.mpr ?_)
  exact fun pair member =>
    (left pair member).value_mul (right pair member) (isFinite_product finite member)

/-- The sum exceeds the magnitude of the products by one error for each of them and one for each
addition. -/
theorem abs_sumOfProducts_le (finite : (sumOfProducts pairs).isFinite = true)
    (left : ∀ pair ∈ pairs, IsMultiple e (value pair.1))
    (right : ∀ pair ∈ pairs, IsMultiple f (value pair.2)) (least : -1074 ≤ e + f) :
    |value (sumOfProducts pairs)| ≤ (1 + roundoff) ^ (pairs.length + 1) * magnitude pairs := by
  have growth : 0 ≤ 1 + roundoff := add_nonneg zero_le_one roundoff_nonneg
  have sum := abs_value_foldl_le finite
  rw [value_zero, abs_zero, zero_add, List.length_map, List.map_map] at sum
  have products : (pairs.map fun pair => |value (pair.1 * pair.2)|).sum ≤
      (1 + roundoff) * magnitude pairs := by
    rw [magnitude, ← List.sum_map_mul_left]
    refine List.sum_le_sum fun pair member => ?_
    have finite := isFinite_product finite member
    exact (isClose_mul finite (left pair member) (right pair member) least).abs_le_mul
  refine sum.trans ?_
  rw [pow_succ, mul_assoc]
  exact mul_le_mul_of_nonneg_left products (pow_nonneg growth _)

/-- Products of multiples with a short sum are exact, and so is the sum. -/
theorem value_sumOfProducts_of_short (finite : ∀ pair ∈ pairs, (pair.1 * pair.2).isFinite = true)
    (left : ∀ pair ∈ pairs, IsMultiple e (value pair.1))
    (right : ∀ pair ∈ pairs, IsMultiple f (value pair.2)) (least : -1074 ≤ e + f)
    (most : e + f ≤ 971) (short : magnitude pairs < 2 ^ 53 * 2 ^ (e + f)) :
    (sumOfProducts pairs).isFinite = true ∧
      value (sumOfProducts pairs) = (pairs.map fun pair => value pair.1 * value pair.2).sum := by
  have multiple : ∀ pair ∈ pairs, IsMultiple (e + f) (value pair.1 * value pair.2) :=
    fun pair member => (left pair member).mul (right pair member)
  have product : ∀ pair ∈ pairs, value (pair.1 * pair.2) = value pair.1 * value pair.2 := by
    intro pair member
    obtain ⟨one, other⟩ := isFinite_of_mul (finite pair member)
    rw [(rounds_mul one other).value_of_isFinite (finite pair member)]
    have small := (abs_le_magnitude member).trans_lt short
    exact ((multiple pair member).isExact least small).rounded
  have values : (pairs.map fun pair => pair.1 * pair.2).map value =
      pairs.map fun pair => value pair.1 * value pair.2 := by
    rw [List.map_map]
    exact List.map_congr_left product
  have sizes : ((pairs.map fun pair => pair.1 * pair.2).map fun x => |value x|).sum =
      magnitude pairs := by
    rw [List.map_map]
    refine congrArg List.sum (List.map_congr_left fun pair member => ?_)
    rw [Function.comp_apply, product pair member]
  obtain ⟨bounded, sum⟩ := value_foldl_of_short least most (by decide)
    (List.forall_mem_map.mpr finite) (isMultiple_value_zero (e + f))
    (List.forall_mem_map.mpr fun pair member => product pair member ▸ multiple pair member)
    (by rw [value_zero, abs_zero, zero_add, sizes]; exact short)
  rw [value_zero, zero_add, values] at sum
  exact ⟨bounded, sum⟩

end Products

/-! Sums of squares. -/

section Squares

/-- The exact sum of some squares. -/
def squares (values : List Float) : ℚ :=
  (values.map fun x => value x ^ 2).sum

variable {values : List Float} {x : Float} {e : ℤ}

theorem squares_nonneg (values : List Float) : 0 ≤ squares values :=
  List.sum_nonneg (List.forall_mem_map.mpr fun _ _ => sq_nonneg _)

theorem isFinite_square (finite : (sumOfSquares values).isFinite = true) (member : x ∈ values) :
    (x * x).isFinite = true := by
  have there : (x, x) ∈ values.map fun x => (x, x) := List.mem_map_of_mem member
  have product := isFinite_product finite there
  exact product

theorem isMultiple_sumOfSquares (finite : (sumOfSquares values).isFinite = true)
    (each : ∀ x ∈ values, IsMultiple e (value x)) :
    IsMultiple (e + e) (value (sumOfSquares values)) :=
  isMultiple_sumOfProducts finite (List.forall_mem_map.mpr each) (List.forall_mem_map.mpr each)

theorem value_product_nonneg (finite : (sumOfSquares values).isFinite = true) :
    ∀ x ∈ (values.map fun x => (x, x)).map fun pair => pair.1 * pair.2, 0 ≤ value x := by
  refine List.forall_mem_map.mpr (List.forall_mem_map.mpr fun x member => ?_)
  have square := isFinite_square finite member
  have one := (isFinite_of_mul square).1
  rw [(rounds_mul one one).value_of_isFinite square]
  exact rounded_nonneg (mul_self_nonneg _)

theorem sumOfSquares_nonneg (finite : (sumOfSquares values).isFinite = true) :
    0 ≤ value (sumOfSquares values) := by
  have nonneg := value_product_nonneg finite
  refine le_trans ?_ (mul_le_value_foldl finite value_zero.ge nonneg)
  refine mul_nonneg (pow_nonneg (sub_nonneg.mpr roundoff_le_one) _) (add_nonneg value_zero.ge ?_)
  exact List.sum_nonneg (List.forall_mem_map.mpr nonneg)

/-- Nothing but one error for each square and one for each addition is lost. -/
theorem mul_le_sumOfSquares (finite : (sumOfSquares values).isFinite = true)
    (each : ∀ x ∈ values, IsMultiple e (value x)) (least : -1074 ≤ e + e) :
    (1 - roundoff) ^ (values.length + 1) * squares values ≤ value (sumOfSquares values) := by
  have loss : 0 ≤ 1 - roundoff := sub_nonneg.mpr roundoff_le_one
  have sum := mul_le_value_foldl finite value_zero.ge (value_product_nonneg finite)
  rw [value_zero, zero_add, List.length_map, List.length_map, List.map_map, List.map_map] at sum
  refine le_trans ?_ sum
  rw [squares, pow_succ, mul_assoc, ← List.sum_map_mul_left]
  refine mul_le_mul_of_nonneg_left (List.sum_le_sum fun x member => ?_) (pow_nonneg loss _)
  have close := isClose_mul (isFinite_square finite member) (each x member) (each x member) least
  rw [sq]
  exact close.mul_le (mul_self_nonneg _)

/-- Whether numbers are multiples of a power of two whose squares have a short sum. -/
structure IsShort (e : ℤ) (values : List Float) : Prop where
  multiple : ∀ x ∈ values, IsMultiple e (value x)
  small : squares values < 2 ^ 53 * 2 ^ (e + e)

/-- Such squares and their sum are exact. -/
theorem IsShort.value_sumOfSquares (short : IsShort e values) (least : -537 ≤ e) (most : e ≤ 485)
    (finite : (sumOfSquares values).isFinite = true) :
    value (sumOfSquares values) = squares values := by
  have diagonal : magnitude (values.map fun x => (x, x)) = squares values := by
    rw [magnitude, squares, List.map_map]
    refine congrArg List.sum (List.map_congr_left fun x _ => ?_)
    rw [Function.comp_apply, abs_mul_self, sq]
  have sum := (value_sumOfProducts_of_short (fun _ => isFinite_product finite)
    (List.forall_mem_map.mpr short.multiple) (List.forall_mem_map.mpr short.multiple) (by omega)
    (by omega) (diagonal.trans_lt short.small)).2
  rw [List.map_map] at sum
  refine sum.trans (congrArg List.sum (List.map_congr_left fun x _ => ?_))
  rw [Function.comp_apply, sq]

end Squares

/-! The inequality of the two. -/

section Inequality

variable {pairs : List (Float × Float)} {pair : Float × Float} {e f : ℤ}

/-- The inequality of Cauchy and Schwarz. -/
theorem sq_sum_mul_le {α : Type} (list : List α) (f g : α → ℚ) :
    (list.map fun a => f a * g a).sum ^ 2 ≤
      (list.map fun a => f a ^ 2).sum * (list.map fun a => g a ^ 2).sum := by
  rw [← Fin.sum_univ_fun_getElem, ← Fin.sum_univ_fun_getElem, ← Fin.sum_univ_fun_getElem]
  exact Finset.sum_mul_sq_le_sq_mul_sq ..

theorem sq_sum_products_le (pairs : List (Float × Float)) :
    (pairs.map fun pair => value pair.1 * value pair.2).sum ^ 2 ≤
      squares (pairs.map Prod.fst) * squares (pairs.map Prod.snd) := by
  rw [squares, squares, List.map_map, List.map_map]
  exact sq_sum_mul_le pairs (fun pair => value pair.1) (fun pair => value pair.2)

theorem sq_magnitude_le (pairs : List (Float × Float)) :
    magnitude pairs ^ 2 ≤ squares (pairs.map Prod.fst) * squares (pairs.map Prod.snd) := by
  have le := sq_sum_mul_le pairs (fun pair => |value pair.1|) (fun pair => |value pair.2|)
  simp only [← abs_mul, sq_abs] at le
  rw [squares, squares, List.map_map, List.map_map]
  exact le

namespace HasScale

theorem bounded (known : HasScale pairs) :
    (sumOfSquares (pairs.map Prod.fst) * sumOfSquares (pairs.map Prod.snd)).isFinite = true :=
  isFinite_of_sqrt known.finite

theorem left (known : HasScale pairs) : (sumOfSquares (pairs.map Prod.fst)).isFinite = true :=
  (isFinite_of_mul known.bounded).1

theorem right (known : HasScale pairs) : (sumOfSquares (pairs.map Prod.snd)).isFinite = true :=
  (isFinite_of_mul known.bounded).2

theorem isFinite_mul (known : HasScale pairs) (member : pair ∈ pairs) :
    (pair.1 * pair.2).isFinite = true :=
  isFinite_mul_of_squares (isFinite_square known.left (List.mem_map_of_mem member))
    (isFinite_square known.right (List.mem_map_of_mem member))

theorem isNaN_sumOfProducts (known : HasScale pairs) : (sumOfProducts pairs).isNaN = false :=
  isNaN_foldl (by decide) (List.forall_mem_map.mpr fun _ => known.isFinite_mul)

end HasScale

/-- Where the sums of squares are exact, the sum of products is so too, and they satisfy the
inequality. -/
theorem IsShort.sq_sumOfProducts_le (known : HasScale pairs)
    (left : IsShort e (pairs.map Prod.fst)) (right : IsShort f (pairs.map Prod.snd))
    (least : -537 ≤ e) (most : e ≤ 485) (smallest : -537 ≤ f) (largest : f ≤ 485) :
    (sumOfProducts pairs).isFinite = true ∧ value (sumOfProducts pairs) ^ 2 ≤
      value (sumOfSquares (pairs.map Prod.fst)) * value (sumOfSquares (pairs.map Prod.snd)) := by
  have small : magnitude pairs < 2 ^ 53 * 2 ^ (e + f) := by
    refine lt_of_pow_lt_pow_left₀ 2 (by positivity) ((sq_magnitude_le pairs).trans_lt ?_)
    have power : ((2 : ℚ) ^ 53 * 2 ^ (e + f)) ^ 2 =
        2 ^ 53 * 2 ^ (e + e) * (2 ^ 53 * 2 ^ (f + f)) := by
      simp only [zpow_add₀ (two_ne_zero (α := ℚ))]
      ring
    rw [power]
    exact mul_lt_mul'' left.small right.small (squares_nonneg _) (squares_nonneg _)
  obtain ⟨finite, sum⟩ := value_sumOfProducts_of_short (fun _ => known.isFinite_mul)
    (fun _ member => left.multiple _ (List.mem_map_of_mem member))
    (fun _ member => right.multiple _ (List.mem_map_of_mem member)) (by omega) (by omega) small
  refine ⟨finite, ?_⟩
  rw [left.value_sumOfSquares least most known.left,
    right.value_sumOfSquares smallest largest known.right, sum]
  exact sq_sum_products_le pairs

/-- Each rounding adds its own error at most. -/
theorem one_sub_div_le_pow (n : ℕ) : 1 - n / 2 ^ 52 ≤ (1 - 2 * roundoff) ^ n := by
  have bernoulli := one_add_mul_le_pow (show -2 ≤ -(2 * roundoff) by norm_num [roundoff]) n
  rw [← sub_eq_add_neg] at bernoulli
  refine le_trans (le_of_eq ?_) bernoulli
  rw [roundoff]
  ring

/-- As long as there are not too many, less than half is lost. -/
theorem half_le_pow {n : ℕ} (few : n ≤ 2 ^ 25) : 1 / 2 ≤ (1 - 2 * roundoff) ^ (n + 1) := by
  have count : ((n + 1 : ℕ) : ℚ) ≤ 2 ^ 26 := by exact_mod_cast (by omega : n + 1 ≤ 2 ^ 26)
  linarith [one_sub_div_le_pow (n + 1)]

/-- Of multiples that are not too small the sums of squares satisfy the inequality but for what they
lose. -/
theorem sq_mul_magnitude_le (known : HasScale pairs)
    (left : ∀ x ∈ pairs.map Prod.fst, IsMultiple e (value x))
    (right : ∀ x ∈ pairs.map Prod.snd, IsMultiple f (value x)) (least : -537 ≤ e)
    (smallest : -537 ≤ f) :
    ((1 - roundoff) ^ (pairs.length + 1) * magnitude pairs) ^ 2 ≤
      value (sumOfSquares (pairs.map Prod.fst)) * value (sumOfSquares (pairs.map Prod.snd)) := by
  have loss : 0 ≤ (1 - roundoff) ^ (pairs.length + 1) :=
    pow_nonneg (sub_nonneg.mpr roundoff_le_one) _
  have first := mul_le_sumOfSquares known.left left (by omega)
  have second := mul_le_sumOfSquares known.right right (by omega)
  rw [List.length_map] at first second
  generalize (1 - roundoff) ^ (pairs.length + 1) = c at *
  calc (c * magnitude pairs) ^ 2 = c ^ 2 * magnitude pairs ^ 2 := mul_pow ..
    _ ≤ c ^ 2 * (squares (pairs.map Prod.fst) * squares (pairs.map Prod.snd)) :=
      mul_le_mul_of_nonneg_left (sq_magnitude_le pairs) (sq_nonneg _)
    _ = c * squares (pairs.map Prod.fst) * (c * squares (pairs.map Prod.snd)) := by ring
    _ ≤ _ := mul_le_mul first second (mul_nonneg loss (squares_nonneg _))
      (sumOfSquares_nonneg known.left)

theorem isFinite_sumOfProducts (known : HasScale pairs) (few : pairs.length ≤ 2 ^ 25)
    (left : ∀ x ∈ pairs.map Prod.fst, IsMultiple e (value x))
    (right : ∀ x ∈ pairs.map Prod.snd, IsMultiple f (value x)) (least : -537 ≤ e)
    (smallest : -537 ≤ f) : (sumOfProducts pairs).isFinite = true := by
  have scale := (rounds_mul known.left known.right).abs_lt_limit known.bounded
  have total : magnitude pairs ≤ 2 ^ (513 : ℤ) := by
    have square := (sq_mul_magnitude_le known left right least smallest).trans
      ((le_abs_self _).trans scale.le)
    have power : limit = (2 ^ (512 : ℤ)) ^ 2 := by
      rw [limit, ← zpow_natCast, ← zpow_mul]
      norm_num
    rw [power] at square
    have half := le_of_sq_le_sq square (two_zpow_pos 512).le
    have kept : 1 / 2 ≤ (1 - roundoff) ^ (pairs.length + 1) :=
      (half_le_pow few).trans (pow_le_pow_left₀ (by norm_num [roundoff])
        (by norm_num [roundoff]) _)
    rw [show (513 : ℤ) = 512 + 1 by norm_num, two_zpow_succ]
    linarith [mul_le_mul_of_nonneg_right kept (magnitude_nonneg pairs)]
  have each : ∀ x ∈ pairs.map fun pair => pair.1 * pair.2, IsWithin (2 ^ (513 : ℤ)) x := by
    refine List.forall_mem_map.mpr fun pair member => ?_
    obtain ⟨one, other⟩ := isFinite_of_mul (known.isFinite_mul member)
    exact (rounds_mul one other).isWithin (isExact_two_zpow (by norm_num))
      (two_zpow_lt_limit (by norm_num)) ((abs_le_magnitude member).trans total)
  have start : IsWithin ((0 : ℕ) * 2 ^ (513 : ℤ)) 0.0 := by
    refine ⟨by decide, ?_⟩
    rw [value_zero]
    simp
  refine (isWithin_foldl (by norm_num) each start ?_ ?_).finite
  · rw [List.length_map]
    omega
  · have count : ((0 + pairs.length : ℕ) : ℚ) ≤ 2 ^ (25 : ℤ) := by exact_mod_cast (by omega)
    rw [List.length_map]
    refine (mul_le_mul_of_nonneg_right count (two_zpow_pos 513).le).trans_lt ?_
    rw [← zpow_add₀ (by norm_num)]
    exact two_zpow_lt_limit (by norm_num)

/-- The inequality holds of the sums but for the errors of all their roundings. -/
theorem sq_lossy_sumOfProducts_le (known : HasScale pairs)
    (finite : (sumOfProducts pairs).isFinite = true)
    (left : ∀ x ∈ pairs.map Prod.fst, IsMultiple e (value x))
    (right : ∀ x ∈ pairs.map Prod.snd, IsMultiple f (value x)) (least : -537 ≤ e)
    (smallest : -537 ≤ f) :
    ((1 - 2 * roundoff) ^ (pairs.length + 1) * |value (sumOfProducts pairs)|) ^ 2 ≤
      value (sumOfSquares (pairs.map Prod.fst)) * value (sumOfSquares (pairs.map Prod.snd)) := by
  have loss : 0 ≤ 1 - 2 * roundoff := by norm_num [roundoff]
  have product := abs_sumOfProducts_le finite
    (fun _ member => left _ (List.mem_map_of_mem member))
    (fun _ member => right _ (List.mem_map_of_mem member)) (by omega)
  refine le_trans (pow_le_pow_left₀ (by positivity) ?_ 2)
    (sq_mul_magnitude_le known left right least smallest)
  refine (mul_le_mul_of_nonneg_left product (pow_nonneg loss _)).trans ?_
  rw [← mul_assoc, ← mul_pow]
  refine mul_le_mul_of_nonneg_right (pow_le_pow_left₀ ?_ ?_ _) (magnitude_nonneg pairs)
  · exact mul_nonneg loss (add_nonneg zero_le_one roundoff_nonneg)
  · norm_num [roundoff]

end Inequality

/-! Coefficients. -/

section Coefficients

variable {pairs : List (Float × Float)} {e f : ℤ}

theorem HasScale.value_product (known : HasScale pairs) :
    value (sumOfSquares (pairs.map Prod.fst) * sumOfSquares (pairs.map Prod.snd)) =
      rounded (value (sumOfSquares (pairs.map Prod.fst)) *
        value (sumOfSquares (pairs.map Prod.snd))) :=
  (rounds_mul known.left known.right).value_of_isFinite known.bounded

/-- The root of a product of sums of squares is not negative, so a scale is above zero. -/
theorem HasScale.positive (known : HasScale pairs) : 0 < value (scale pairs) := by
  have square : (0 : ℚ) ^ 2 ≤
      value (sumOfSquares (pairs.map Prod.fst) * sumOfSquares (pairs.map Prod.snd)) := by
    rw [known.value_product, sq, mul_zero]
    exact rounded_nonneg (mul_nonneg (sumOfSquares_nonneg known.left)
      (sumOfSquares_nonneg known.right))
  have nonneg := rounded_le_value_sqrt known.finite le_rfl square
  rw [rounded_zero] at nonneg
  refine lt_of_le_of_ne nonneg fun zero => ?_
  have nonzero := known.nonzero
  rw [← Bool.not_eq_true, beq_iff_value (isNaN_of_isFinite known.finite) (by decide),
    value_zero] at nonzero
  exact nonzero zero.symm

/-- A sum of products that satisfies the inequality is no larger than the scale, however the
product of the sums of squares and its root are rounded. -/
theorem HasScale.abs_le_scale (known : HasScale pairs)
    (bounded : (sumOfProducts pairs).isFinite = true)
    (multiple : IsMultiple e (value (sumOfProducts pairs))) (least : -511 ≤ e)
    (le : value (sumOfProducts pairs) ^ 2 ≤
      value (sumOfSquares (pairs.map Prod.fst)) * value (sumOfSquares (pairs.map Prod.snd))) :
    |value (sumOfProducts pairs)| ≤ value (scale pairs) := by
  by_cases zero : value (sumOfProducts pairs) = 0
  · rw [zero, abs_zero]
    exact known.positive.le
  have exact : IsExact |value (sumOfProducts pairs)| := by
    rcases abs_choice (value (sumOfProducts pairs)) with same | opposite
    · rw [same]
      exact isExact_value bounded
    · rw [opposite]
      exact (isExact_value bounded).neg
  have size : (2 : ℚ) ^ (-511 : ℤ) ≤ |value (sumOfProducts pairs)| :=
    (zpow_le_zpow_right₀ (by norm_num) least).trans (multiple.two_zpow_le zero)
  have normal : (2 : ℚ) ^ (-1022 : ℤ) ≤ |value (sumOfProducts pairs)| ^ 2 := by
    refine le_of_eq_of_le ?_ (pow_le_pow_left₀ (two_zpow_pos _).le size 2)
    rw [← zpow_natCast, ← zpow_mul]
    norm_num
  refine le_value_sqrt_of_rounded_sq known.finite exact (abs_pos.mpr zero) normal ?_
  rw [known.value_product, sq_abs]
  exact rounded_mono le

/-- One that satisfies it but for some errors is larger by at most one more of them. -/
theorem HasScale.pow_mul_le_scale {n : ℕ} (known : HasScale pairs) (few : n ≤ 2 ^ 25)
    (multiple : IsMultiple e (value (sumOfProducts pairs))) (least : -1000 ≤ e)
    (first : IsMultiple (-511) (value (sumOfSquares (pairs.map Prod.fst))))
    (second : IsMultiple (-511) (value (sumOfSquares (pairs.map Prod.snd))))
    (le : ((1 - 2 * roundoff) ^ (n + 1) * |value (sumOfProducts pairs)|) ^ 2 ≤
      value (sumOfSquares (pairs.map Prod.fst)) * value (sumOfSquares (pairs.map Prod.snd))) :
    (1 - 2 * roundoff) ^ (n + 2) * |value (sumOfProducts pairs)| ≤ value (scale pairs) := by
  by_cases zero : value (sumOfProducts pairs) = 0
  · rw [zero, abs_zero, mul_zero]
    exact known.positive.le
  have close := (isClose_mul known.bounded first second (by norm_num)).mul_le
    (mul_nonneg (sumOfSquares_nonneg known.left) (sumOfSquares_nonneg known.right))
  have kept := half_le_pow few
  have size : 2 ^ (-1000 : ℤ) ≤ |value (sumOfProducts pairs)| :=
    (zpow_le_zpow_right₀ (by norm_num) least).trans (multiple.two_zpow_le zero)
  have large : 2 ^ (-1001 : ℤ) ≤
      (1 - 2 * roundoff) ^ (n + 1) * |value (sumOfProducts pairs)| := by
    refine le_of_eq_of_le ?_ (mul_le_mul kept size (two_zpow_pos _).le (by linarith))
    rw [show (-1000 : ℤ) = -1001 + 1 from rfl, two_zpow_succ]
    ring
  rw [pow_succ, mul_right_comm]
  generalize (1 - 2 * roundoff) ^ (n + 1) * |value (sumOfProducts pairs)| = c at *
  have present : 0 < c := (two_zpow_pos _).trans_le large
  have loss : 1 / 2 ≤ 1 - roundoff := by norm_num [roundoff]
  -- The rounding of the product costs half an error under the root, that of the root half of one.
  have square : ((1 - roundoff) * c) ^ 2 ≤
      value (sumOfSquares (pairs.map Prod.fst) * sumOfSquares (pairs.map Prod.snd)) := by
    refine le_trans ?_ close
    have part : (1 - roundoff) ^ 2 ≤ 1 - roundoff := by norm_num [roundoff]
    rw [mul_pow]
    exact mul_le_mul part le (sq_nonneg _) (by linarith)
  have root := rounded_le_value_sqrt known.finite (mul_nonneg (by linarith) present.le) square
  have normal : 2 ^ (-1022 : ℤ) ≤ |(1 - roundoff) * c| := by
    rw [abs_of_pos (mul_pos (by linarith) present)]
    refine le_trans ?_ (mul_le_mul loss large (two_zpow_pos _).le (by linarith))
    rw [show (-1001 : ℤ) = -1002 + 1 from rfl, two_zpow_succ, ← mul_assoc, one_div_mul_cancel,
      one_mul]
    · exact zpow_le_zpow_right₀ (by norm_num) (by norm_num)
    · norm_num
  have error := abs_rounded_sub_le_mul normal
  rw [abs_of_pos (mul_pos (by linarith) present), abs_le] at error
  have twice : (1 - 2 * roundoff) * c ≤ (1 - roundoff) * c - (1 - roundoff) * c / 2 ^ 53 := by
    have part : 1 - 2 * roundoff ≤ (1 - roundoff) - (1 - roundoff) / 2 ^ 53 := by
      norm_num [roundoff]
    linarith [mul_le_mul_of_nonneg_right part present.le]
  unfold scale
  linarith

theorem HasScale.isNaN_coefficient (known : HasScale pairs) :
    (sumOfProducts pairs / scale pairs).isNaN = false :=
  (computes_div known.finite known.positive).isNaN known.isNaN_sumOfProducts

theorem HasScale.abs_coefficient_le {bound : ℚ} (known : HasScale pairs)
    (bounded : (sumOfProducts pairs).isFinite = true) (exact : IsExact bound)
    (small : bound < limit) (le : |value (sumOfProducts pairs)| ≤ bound * value (scale pairs)) :
    |value (sumOfProducts pairs / scale pairs)| ≤ bound := by
  refine (rounds_div bounded known.finite known.positive.ne').abs_le exact small ?_
  rwa [abs_div, abs_of_pos known.positive, div_le_iff₀ known.positive]

/-- With short sums the range is kept. -/
theorem HasScale.abs_coefficient_le_one (known : HasScale pairs)
    (left : IsShort e (pairs.map Prod.fst)) (right : IsShort f (pairs.map Prod.snd))
    (least : -255 ≤ e) (most : e ≤ 485) (smallest : -255 ≤ f) (largest : f ≤ 485) :
    |value (sumOfProducts pairs / scale pairs)| ≤ 1 := by
  obtain ⟨bounded, square⟩ :=
    left.sq_sumOfProducts_le known right (by omega) most (by omega) largest
  have multiple := isMultiple_sumOfProducts bounded
    (fun _ member => left.multiple _ (List.mem_map_of_mem member))
    (fun _ member => right.multiple _ (List.mem_map_of_mem member))
  refine known.abs_coefficient_le bounded ?_ ?_ ?_
  · exact isExact_two_zpow (e := 0) (by norm_num)
  · exact two_zpow_lt_limit (e := 0) (by norm_num)
  · rw [one_mul]
    exact known.abs_le_scale bounded multiple (by omega) square

/-- Otherwise it is missed by a few units of the last place at most. -/
theorem HasScale.abs_coefficient_le_near (known : HasScale pairs) (few : pairs.length ≤ 2 ^ 25)
    (left : ∀ x ∈ pairs.map Prod.fst, IsMultiple (-255) (value x))
    (right : ∀ x ∈ pairs.map Prod.snd, IsMultiple (-255) (value x)) :
    |value (sumOfProducts pairs / scale pairs)| ≤ 1 + (pairs.length + 3) / 2 ^ 52 := by
  have bounded := isFinite_sumOfProducts known few left right (by norm_num) (by norm_num)
  have multiple := isMultiple_sumOfProducts bounded
    (fun _ member => left _ (List.mem_map_of_mem member))
    (fun _ member => right _ (List.mem_map_of_mem member))
  have lossy := sq_lossy_sumOfProducts_le known bounded left right (by norm_num) (by norm_num)
  have le := known.pow_mul_le_scale few multiple (by norm_num)
    ((isMultiple_sumOfSquares known.left left).weaken (by norm_num))
    ((isMultiple_sumOfSquares known.right right).weaken (by norm_num)) lossy
  have count : (pairs.length : ℚ) ≤ 2 ^ 25 := by exact_mod_cast few
  refine known.abs_coefficient_le bounded ?_ ?_ ?_
  · refine ⟨2 ^ 52 + pairs.length + 3, -52, ?_, by norm_num, ?_⟩
    · rw [abs_of_nonneg (by positivity)]
      omega
    · rw [zpow_neg]
      push_cast
      ring
  · refine lt_trans ?_ (two_zpow_lt_limit (e := 1) (by norm_num))
    norm_num
    linarith
  · have power := one_sub_div_le_pow (pairs.length + 2)
    have size := abs_nonneg (value (sumOfProducts pairs))
    have nonneg : (0 : ℚ) ≤ pairs.length := Nat.cast_nonneg _
    have whole : 1 ≤ (1 + (pairs.length + 3) / 2 ^ 52) *
        (1 - ((pairs.length + 2 : ℕ) : ℚ) / 2 ^ 52) := by
      push_cast
      nlinarith
    calc |value (sumOfProducts pairs)|
        ≤ (1 + (pairs.length + 3) / 2 ^ 52) * (1 - ((pairs.length + 2 : ℕ) : ℚ) / 2 ^ 52) *
          |value (sumOfProducts pairs)| := le_mul_of_one_le_left size whole
      _ = (1 + (pairs.length + 3) / 2 ^ 52) * ((1 - ((pairs.length + 2 : ℕ) : ℚ) / 2 ^ 52) *
          |value (sumOfProducts pairs)|) := mul_assoc ..
      _ ≤ (1 + (pairs.length + 3) / 2 ^ 52) * value (scale pairs) :=
        mul_le_mul_of_nonneg_left ((mul_le_mul_of_nonneg_right power size).trans le)
          (by positivity)

end Coefficients

/-- Whether the deviations of numbers from their mean are multiples of a power of two whose squares
have a short sum. The power is such that no square and no product of two sums is too small. -/
def HasShortDeviations (values : List Float) : Prop :=
  ∃ e, -255 ≤ e ∧ e ≤ 485 ∧ IsShort e (deviations values)

/-- Whether numbers are not too many, and none but zero is very small. -/
structure IsOrdinary (values : List Float) : Prop where
  few : values.length ≤ 2 ^ 25
  visible : ∀ x ∈ values, value x = 0 ∨ 2 ^ (-100 : ℤ) ≤ |value x|

/-- Whether a number has the range of a coefficient. It may exceed one by rounding, but by no more
than a unit of its last place for each sample and three for the rest, and not at all where the
deviations are short. -/
structure IsCoefficient (xs ys : List Float) (r : Float) : Prop where
  number : r.isNaN = false
  near : IsOrdinary xs → IsOrdinary ys → |value r| ≤ 1 + (xs.length + 3) / 2 ^ 52
  within : HasShortDeviations xs → HasShortDeviations ys → -1 ≤ r ∧ r ≤ 1

theorem IsOrdinary.isMultiple {values : List Float} (ordinary : IsOrdinary values)
    (finite : (sumOfSquares (deviations values)).isFinite = true) :
    ∀ x ∈ deviations values, IsMultiple (-255) (value x) := by
  have each : ∀ x ∈ values, (x - mean values).isFinite = true :=
    List.forall_mem_map.mp fun x member => (isFinite_of_mul (isFinite_square finite member)).1
  have multiple : ∀ x ∈ values, IsMultiple (-152) (value x) := by
    intro x member
    rcases ordinary.visible x member with zero | large
    · rw [zero]
      exact .zero _
    · exact (isExact_value (isFinite_of_sub (each x member)).1).isMultiple large
  refine List.forall_mem_map.mpr fun x member => ?_
  have centre := IsMultiple.value_mean (isFinite_of_sub (each x member)).2
    (List.ne_nil_of_mem member) ordinary.few (by norm_num) multiple
  exact ((multiple x member).weaken (by norm_num)).value_sub (centre.weaken (by norm_num))
    (each x member)

theorem value_literal_one : value 1 = 1 := by
  exact_mod_cast (exact_ofNat (n := 1) (by norm_num)).2

theorem isCoefficient_of_correlation? (found : correlation? xs ys = some r) :
    IsCoefficient xs ys r := by
  obtain ⟨⟨same, -⟩, known, rfl⟩ := correlation?_eq_some_iff.mp found
  have left := map_fst_deviations same
  have right := map_snd_deviations same
  refine ⟨known.isNaN_coefficient, ?near, ?within⟩
  case near =>
    intro ordinary others
    have few := ordinary.few
    have multiple := ordinary.isMultiple (left ▸ known.left)
    have multiples := others.isMultiple (right ▸ known.right)
    have count : ((deviations xs).zip (deviations ys)).length = xs.length := by
      rw [← List.length_map Prod.fst, left, deviations, List.length_map]
    rw [← left] at multiple
    rw [← right] at multiples
    rw [← count] at few ⊢
    exact known.abs_coefficient_le_near few multiple multiples
  case within =>
    rintro ⟨e, least, most, short⟩ ⟨f, smallest, largest, shorts⟩
    rw [← left] at short
    rw [← right] at shorts
    have le := abs_le.mp
      (known.abs_coefficient_le_one short shorts least most smallest largest)
    have number := known.isNaN_coefficient
    rw [le_iff_value (by decide) number, le_iff_value number (by decide), value_neg,
      value_literal_one]
    exact le

/-- The magnitude of a coefficient has the range of one. -/
theorem IsCoefficient.abs (coefficient : IsCoefficient xs ys r) : IsCoefficient xs ys r.abs := by
  have number : r.abs.isNaN = false := (isNaN_abs r).trans coefficient.number
  refine ⟨number, ?near, ?within⟩
  case near =>
    intro ordinary others
    rw [value_abs, abs_abs]
    exact coefficient.near ordinary others
  case within =>
    intro short shorts
    obtain ⟨lower, upper⟩ := coefficient.within short shorts
    have below := value_le_of_le lower
    have above := value_le_of_le upper
    rw [le_iff_value (by decide) number, le_iff_value number (by decide), value_abs]
    rw [value_neg, value_literal_one] at *
    exact ⟨by linarith [abs_nonneg (value r)], abs_le.mpr ⟨below, above⟩⟩

theorem abs_nonneg_of_number (number : r.isNaN = false) : 0 ≤ r.abs := by
  rw [le_iff_value (by decide) ((isNaN_abs r).trans number), value_abs]
  exact value_zero.le.trans (abs_nonneg _)

/-- A correlation coefficient is a number in the range of coefficients, and every importance is
one that is not negative. -/
theorem correlation_range (xs ys : List Float) (trials : List Trial)
    (kinds : List (String × ParameterKind)) :
    (∀ r, correlation? xs ys = some r → IsCoefficient xs ys r) ∧
    ∀ item ∈ importances trials kinds,
      let pairs := samples trials item.name
      0 ≤ item.importance ∧
        IsCoefficient (pairs.map Prod.fst) (pairs.map Prod.snd) item.importance := by
  refine ⟨fun _ => isCoefficient_of_correlation?, ?_⟩
  intro item member pairs
  obtain ⟨parameter, -, measures⟩ := mem_importances_iff.mp member
  obtain ⟨picked, r, picks, found, same⟩ := measures.correlated
  obtain rfl := picks_samples_iff.mp picks
  rw [← measures.named] at found
  have coefficient := isCoefficient_of_correlation? found
  rw [same]
  exact ⟨abs_nonneg_of_number coefficient.number, coefficient.abs⟩

theorem correlation_range_of_three_brews :
    let brew (index : Nat) (objective dose : Float) : Trial :=
      ⟨index, objective, .ofList [("dose", .number dose)]⟩
    let trials : List Trial := [brew 2 6 3, brew 1 4 2, brew 0 2 1]
    let kinds : List (String × ParameterKind) := [("dose", .real)]
    (correlation? [1, 2, 3] [2, 4, 6] = some 1 ∧ IsCoefficient [1, 2, 3] [2, 4, 6] 1) ∧
      (importances trials kinds = [⟨"dose", 1⟩] ∧ IsCoefficient [3, 2, 1] [6, 4, 2] 1) ∧
        IsOrdinary [1, 2, 3] ∧ HasShortDeviations [1, 2, 3] := by
  intro brew trials kinds
  have found : correlation? [1, 2, 3] [2, 4, 6] = some 1 := by decide +kernel
  have measured : kinds.filterMap (measured? trials) = [⟨"dose", 1⟩] := by decide +kernel
  have listed : importances trials kinds = [⟨"dose", 1⟩] := by
    rw [importances_eq, measured, List.mergeSort_singleton]
  have sampled : samples trials "dose" = [(3, 6), (2, 4), (1, 2)] := by decide +kernel
  obtain ⟨coefficient, importance⟩ := correlation_range [1, 2, 3] [2, 4, 6] trials kinds
  have range := importance ⟨"dose", 1⟩ (listed ▸ List.mem_singleton_self _)
  rw [sampled] at range
  refine ⟨⟨found, coefficient 1 found⟩, ⟨listed, range.2⟩, ⟨by decide, ?visible⟩, ?short⟩
  case visible =>
    have shown : ∀ n : ℕ, 1 ≤ n → n < 2 ^ 53 → 2 ^ (-100 : ℤ) ≤ |value (.ofNat n)| := by
      intro n positive small
      rw [(exact_ofNat small).2, Nat.abs_cast]
      have one : (1 : ℚ) ≤ n := by exact_mod_cast positive
      exact le_trans (by norm_num) one
    intro x member
    simp only [List.mem_cons, List.not_mem_nil, or_false] at member
    rcases member with rfl | rfl | rfl
    · exact .inr (shown 1 (by norm_num) (by norm_num))
    · exact .inr (shown 2 (by norm_num) (by norm_num))
    · exact .inr (shown 3 (by norm_num) (by norm_num))
  case short =>
    have apart : deviations [1, 2, 3] = [-1, 0.0, 1] := by decide +kernel
    refine ⟨0, by norm_num, by norm_num, ?_, ?_⟩
    · rw [apart]
      simp only [List.forall_mem_cons, value_neg, value_literal_one, value_zero]
      exact ⟨⟨-1, by norm_num⟩, ⟨0, by norm_num⟩, ⟨1, by norm_num⟩, nofun⟩
    · rw [apart, squares]
      simp only [List.map_cons, List.map_nil, value_neg, value_literal_one, value_zero]
      norm_num

/-- Where deviations are rounded a coefficient exceeds one. -/
theorem correlation_exceeds_one :
    let xs : List Float := [0, 1, 6]
    let ys : List Float := [0, 3, 18]
    let r : Float := .ofBits 0x3FF0000000000001
    let trials : List Trial := (xs.zip ys).zipIdx.map fun (sample, index) =>
      ⟨index, sample.2, .ofList [("dose", .number sample.1)]⟩
    (∀ x ∈ xs ++ ys, x.isFinite = true) ∧ correlation? xs ys = some r ∧ 1 < r ∧
      importances trials [("dose", .real)] = [⟨"dose", r⟩] := by
  intro xs ys r trials
  have measured : [("dose", .real)].filterMap (measured? trials) = [⟨"dose", r⟩] := by
    decide +kernel
  refine ⟨by decide, by decide +kernel, by decide +kernel, ?_⟩
  rw [importances_eq, measured, List.mergeSort_singleton]

end Cupping.Insight

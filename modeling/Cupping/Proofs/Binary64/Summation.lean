import Cupping.Proofs.Binary64.Multiples

/-!
Sums of many doubles, added one after the other. A finite sum is close to the exact one in
proportion to what is added, by one error for each addition; it is the exact one where all that is
added are multiples of a power of two of which the sum has few enough.
-/

namespace Cupping.Binary64

variable {values : List Float} {start : Float} {e : ℤ}

theorem isFinite_of_foldl (finite : (values.foldl (· + ·) start).isFinite = true) :
    start.isFinite = true ∧ ∀ x ∈ values, x.isFinite = true := by
  induction values generalizing start with
  | nil => exact ⟨finite, nofun⟩
  | cons first rest ih =>
    obtain ⟨sum, others⟩ := ih finite
    obtain ⟨before, one⟩ := isFinite_of_add sum
    exact ⟨before, List.forall_mem_cons.mpr ⟨one, others⟩⟩

theorem isNaN_foldl (number : start.isNaN = false) (each : ∀ x ∈ values, x.isFinite = true) :
    (values.foldl (· + ·) start).isNaN = false := by
  induction values generalizing start with
  | nil => exact number
  | cons first rest ih =>
    obtain ⟨one, others⟩ := List.forall_mem_cons.mp each
    exact ih ((computes_add one).isNaN number) others

theorem IsMultiple.value_foldl (finite : (values.foldl (· + ·) start).isFinite = true)
    (begun : IsMultiple e (value start)) (each : ∀ x ∈ values, IsMultiple e (value x)) :
    IsMultiple e (value (values.foldl (· + ·) start)) := by
  induction values generalizing start with
  | nil => exact begun
  | cons first rest ih =>
    obtain ⟨one, others⟩ := List.forall_mem_cons.mp each
    rw [List.foldl_cons] at finite
    exact ih finite (begun.value_add one (isFinite_of_foldl finite).1) others

/-- Every addition enlarges the sum by at most one error. -/
theorem abs_value_foldl_le (finite : (values.foldl (· + ·) start).isFinite = true) :
    |value (values.foldl (· + ·) start)| ≤
      (1 + roundoff) ^ values.length * (|value start| + (values.map fun x => |value x|).sum) := by
  induction values generalizing start with
  | nil => simp
  | cons first rest ih =>
    rw [List.foldl_cons] at finite
    have close := (isClose_add (isFinite_of_foldl finite).1).abs_le_mul
    have growth : 0 < 1 + roundoff := by linarith [roundoff_nonneg]
    have size := abs_add_le (value start) (value first)
    have others : 0 ≤ (rest.map fun x => |value x|).sum :=
      List.sum_nonneg (by simp)
    refine (ih finite).trans ?_
    rw [List.length_cons, pow_succ, List.map_cons, List.sum_cons, mul_assoc]
    refine mul_le_mul_of_nonneg_left ?_ (pow_nonneg growth.le _)
    linarith [mul_le_mul_of_nonneg_left size growth.le, mul_nonneg roundoff_nonneg others]

/-- It does not make the sum smaller by more either, as long as nothing negative is added. -/
theorem mul_le_value_foldl (finite : (values.foldl (· + ·) start).isFinite = true)
    (begun : 0 ≤ value start) (each : ∀ x ∈ values, 0 ≤ value x) :
    (1 - roundoff) ^ values.length * (value start + (values.map value).sum) ≤
      value (values.foldl (· + ·) start) := by
  induction values generalizing start with
  | nil => simp
  | cons first rest ih =>
    obtain ⟨one, others⟩ := List.forall_mem_cons.mp each
    rw [List.foldl_cons] at finite
    have close := (isClose_add (isFinite_of_foldl finite).1).mul_le
      (add_nonneg begun one)
    have loss : 0 ≤ 1 - roundoff := sub_nonneg.mpr roundoff_le_one
    have next : 0 ≤ value (start + first) :=
      (mul_nonneg loss (add_nonneg begun one)).trans close
    have rest_nonneg : 0 ≤ (rest.map value).sum := List.sum_nonneg (by simpa using others)
    refine le_trans ?_ (ih finite next others)
    rw [List.length_cons, pow_succ, List.map_cons, List.sum_cons, mul_assoc]
    refine mul_le_mul_of_nonneg_left ?_ (pow_nonneg loss _)
    linarith [mul_nonneg roundoff_nonneg rest_nonneg]

/-- Of few enough multiples of a power of two the sum is exact, and finite. -/
theorem value_foldl_of_short (least : -1074 ≤ e) (most : e ≤ 971) (bounded : start.isFinite = true)
    (finite : ∀ x ∈ values, x.isFinite = true) (begun : IsMultiple e (value start))
    (each : ∀ x ∈ values, IsMultiple e (value x))
    (short : |value start| + (values.map fun x => |value x|).sum < 2 ^ 53 * 2 ^ e) :
    (values.foldl (· + ·) start).isFinite = true ∧
      value (values.foldl (· + ·) start) = value start + (values.map value).sum := by
  induction values generalizing start with
  | nil => exact ⟨bounded, by simp⟩
  | cons first rest ih =>
    obtain ⟨one, others⟩ := List.forall_mem_cons.mp each
    obtain ⟨alone, together⟩ := List.forall_mem_cons.mp finite
    rw [List.map_cons, List.sum_cons] at short
    have size := abs_add_le (value start) (value first)
    have nonneg : 0 ≤ (rest.map fun x => |value x|).sum := List.sum_nonneg (by simp)
    have small : |value start + value first| < 2 ^ 53 * 2 ^ e := by linarith
    have below : (2 : ℚ) ^ 53 * 2 ^ e ≤ limit := by
      rw [← zpow_natCast, ← zpow_add₀ (by norm_num)]
      exact zpow_le_zpow_right₀ (by norm_num) (by push_cast; omega)
    have sum := (rounds_add bounded alone).exact ((begun.add one).isExact least small)
      (small.trans_le below)
    obtain ⟨final, same⟩ := ih sum.1 together (sum.2 ▸ begun.add one) others
      (by rw [sum.2]; linarith)
    refine ⟨final, same.trans ?_⟩
    rw [sum.2, List.map_cons, List.sum_cons, add_assoc]

/-- A mean of not too many multiples is one of a smaller power of two. -/
theorem IsMultiple.value_mean (finite : (mean values).isFinite = true) (some : values ≠ [])
    (few : values.length ≤ 2 ^ 25) (least : -1000 ≤ e)
    (each : ∀ x ∈ values, IsMultiple e (value x)) : IsMultiple (e - 77) (value (mean values)) := by
  have sum : (sum values).isFinite = true := isFinite_of_div finite
  have multiple : IsMultiple e (value (Binary64.sum values)) := by
    refine IsMultiple.value_foldl sum ?_ each
    rw [value_neg, value_zero, neg_zero]
    exact .zero e
  obtain ⟨bounded, count⟩ := exact_ofNat (few.trans_lt (by norm_num : 2 ^ 25 < 2 ^ 53))
  have quotient := multiple.value_div count (List.length_pos_iff.mpr some) few
    (by push_cast; omega) bounded finite
  have places : e - 77 = e - (25 : ℕ) - 52 := by
    push_cast
    ring
  rw [places]
  exact quotient

end Cupping.Binary64

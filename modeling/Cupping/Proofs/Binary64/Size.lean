import Cupping.Binary64.Order
import Cupping.Proofs.Binary64.Whole

/-!
Doubles of limited size. Sums and products of them are finite as long as the sums and products of
their limits are below the largest double, and a mean is no larger than what it is the mean of.
-/

namespace Cupping.Binary64

variable {x y : Float} {a b : ℚ} {e : ℤ}

/-- Whether a double is finite and at most of some size. -/
structure IsWithin (bound : ℚ) (x : Float) : Prop where
  finite : x.isFinite = true
  size : |value x| ≤ bound

theorem IsWithin.weaken (within : IsWithin a x) (le : a ≤ b) : IsWithin b x :=
  ⟨within.finite, within.size.trans le⟩

theorem Rounds.isWithin {q : ℚ} (rounds : Rounds q x) (exact : IsExact b) (small : b < limit)
    (within : |q| ≤ b) : IsWithin b x :=
  ⟨rounds.isFinite exact small within, rounds.abs_le exact small within⟩

theorem IsWithin.add (first : IsWithin a x) (second : IsWithin b y) (exact : IsExact (a + b))
    (small : a + b < limit) : IsWithin (a + b) (x + y) :=
  (rounds_add first.finite second.finite).isWithin exact small
    ((abs_add_le _ _).trans (add_le_add first.size second.size))

theorem IsWithin.mul (first : IsWithin a x) (second : IsWithin b y) (exact : IsExact (a * b))
    (small : a * b < limit) : IsWithin (a * b) (x * y) := by
  refine (rounds_mul first.finite second.finite).isWithin exact small ?_
  rw [abs_mul]
  exact mul_le_mul first.size second.size (abs_nonneg _) ((abs_nonneg _).trans first.size)

/-- Dividing by something that is not below one does not enlarge. -/
theorem IsWithin.div (within : IsWithin b x) (bounded : y.isFinite = true) (large : 1 ≤ value y)
    (exact : IsExact b) (small : b < limit) : IsWithin b (x / y) := by
  have positive : 0 < value y := one_pos.trans_le large
  refine (rounds_div within.finite bounded positive.ne').isWithin exact small ?_
  rw [abs_div, abs_of_pos positive]
  exact (div_le_self (abs_nonneg _) large).trans within.size

/-- A power of two is not crossed by rounding to a whole number. -/
theorem IsWithin.roundWhole (whole : 0 ≤ e) (within : IsWithin (2 ^ e) x) :
    IsWithin (2 ^ e) (roundWhole x) := by
  obtain ⟨n, rfl⟩ := Int.eq_ofNat_of_zero_le whole
  have power : (2 : ℚ) ^ (n : ℤ) = ((2 ^ n : ℤ) : ℚ) := by
    rw [zpow_natCast]
    push_cast
    rfl
  obtain ⟨finite, rounded⟩ := roundWhole_eq within.finite
  obtain ⟨lower, upper⟩ := abs_le.mp within.size
  have below := halfAway_mono upper
  have above := halfAway_mono lower
  rw [power, halfAway_intCast] at below
  rw [halfAway_neg, power, halfAway_intCast] at above
  refine ⟨finite, ?_⟩
  rw [rounded, power, abs_le]
  exact ⟨by exact_mod_cast above, by exact_mod_cast below⟩

theorem isExact_natCast_mul {n : ℕ} (small : n < 2 ^ 53) (least : -1074 ≤ e) :
    IsExact (n * 2 ^ e) :=
  ⟨n, e, by rw [Nat.abs_cast]; exact_mod_cast small, least, by rw [Int.cast_natCast]⟩

/-- A sum grows by at most the common limit with every number. -/
theorem isWithin_foldl (least : -1074 ≤ e) {values : List Float}
    (each : ∀ x ∈ values, IsWithin (2 ^ e) x) {n : ℕ} {start : Float}
    (within : IsWithin (n * 2 ^ e) start) (few : n + values.length < 2 ^ 53)
    (small : ((n + values.length : ℕ) : ℚ) * 2 ^ e < limit) :
    IsWithin ((n + values.length : ℕ) * 2 ^ e) (values.foldl (· + ·) start) := by
  induction values generalizing n start with
  | nil => exact within
  | cons first rest ih =>
    obtain ⟨one, others⟩ := List.forall_mem_cons.mp each
    have counted : n + (first :: rest).length = n + 1 + rest.length := by
      rw [List.length_cons]
      omega
    rw [counted] at few small ⊢
    have next : (n : ℚ) * 2 ^ e + 2 ^ e = (n + 1 : ℕ) * 2 ^ e := by
      push_cast
      ring
    have fewer : ((n + 1 : ℕ) : ℚ) * 2 ^ e ≤ (n + 1 + rest.length : ℕ) * 2 ^ e :=
      mul_le_mul_of_nonneg_right (by exact_mod_cast Nat.le_add_right _ _) (two_zpow_pos e).le
    -- The first number enlarges the limit of the start by one step, which is within the last one.
    refine ih others ?_ few small
    rw [← next]
    refine within.add one ?_ ?_
    · rw [next]
      exact isExact_natCast_mul (by omega) least
    · rw [next]
      exact fewer.trans_lt small

theorem isWithin_sum (least : -1074 ≤ e) {values : List Float}
    (each : ∀ x ∈ values, IsWithin (2 ^ e) x) (few : values.length < 2 ^ 53)
    (small : (values.length : ℚ) * 2 ^ e < limit) :
    IsWithin (values.length * 2 ^ e) (sum values) := by
  have start : IsWithin ((0 : ℕ) * 2 ^ e) (-0.0) := by
    refine ⟨by decide, ?_⟩
    rw [value_neg, value_zero]
    simp
  have whole := isWithin_foldl least each start (by rwa [zero_add]) (by rwa [zero_add])
  rwa [zero_add] at whole

/-- A mean is as limited as the numbers are. -/
theorem isWithin_mean (least : -1074 ≤ e) {values : List Float}
    (each : ∀ x ∈ values, IsWithin (2 ^ e) x) (some : values ≠ []) (few : values.length < 2 ^ 53)
    (small : (values.length : ℚ) * 2 ^ e < limit) : IsWithin (2 ^ e) (mean values) := by
  have within := isWithin_sum least each few small
  obtain ⟨bounded, count⟩ := exact_ofNat few
  have positive : (0 : ℚ) < values.length := by exact_mod_cast List.length_pos_iff.mpr some
  have alone : (1 : ℚ) ≤ values.length := by exact_mod_cast List.length_pos_iff.mpr some
  have divided := rounds_div within.finite bounded (by rw [count]; exact positive.ne')
  refine divided.isWithin (isExact_two_zpow least) ?_ ?_
  · exact (le_mul_of_one_le_left (two_zpow_pos e).le alone).trans_lt small
  · rw [count, abs_div, Nat.abs_cast, div_le_iff₀ positive, mul_comm]
    exact within.size

theorem isWithin_ofNat {n : ℕ} (small : n < 2 ^ 53) (large : 53 ≤ e) :
    IsWithin (2 ^ e) (.ofNat n) := by
  obtain ⟨finite, exact⟩ := exact_ofNat small
  have below : (n : ℚ) ≤ 2 ^ (53 : ℤ) := by exact_mod_cast small.le
  refine ⟨finite, ?_⟩
  rw [exact, Nat.abs_cast]
  exact below.trans (zpow_le_zpow_right₀ (by norm_num) large)

end Cupping.Binary64
